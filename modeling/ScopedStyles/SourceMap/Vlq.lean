import ScopedStyles.SourceMap.Base64

namespace ScopedStyles.SourceMap.Vlq

open Base64 (alphabet digit)

def digits (value : Nat) : List Char :=
  if h : value < 32 then [digit value]
  else digit (value % 32 + 32) :: digits (value / 32)
termination_by value
decreasing_by omega

def fold (value : Int64) : Int64 :=
  if value < 0 then ((-value) <<< 1) ||| 1 else value <<< 1

-- A word that is negative after folding stays negative however often five bits are shifted out of
-- it: its digits never end.
def encode? (value : Int64) : Option (List Char) :=
  if fold value < 0 then none else some (digits (fold value).toNatClampNeg)

theorem not_neg_of_lt {word : Int64} (h : word.toBitVec.toNat < 0x8000000000000000) :
    ¬ word < 0 := by
  rw [Int64.lt_iff_toInt_lt, ← Int64.toInt_toBitVec, Int64.toInt_zero,
    BitVec.toInt_eq_toNat_cond]
  omega

theorem fold_not_neg {number : UInt64} (h : number.toNat < 0x4000000000000000) :
    ¬ fold number.toInt64 < 0 := by
  have hword : number.toInt64.toBitVec.toNat = number.toNat := rfl
  have hdouble : (number.toInt64 <<< 1).toBitVec = number.toInt64.toBitVec <<< 1 := rfl
  rw [fold, if_neg (not_neg_of_lt (by omega))]
  apply not_neg_of_lt
  rw [hdouble, BitVec.toNat_shiftLeft, Nat.shiftLeft_eq, hword]
  omega

theorem encode?_isSome {number : UInt64} (h : number.toNat < 0x4000000000000000) :
    (encode? number.toInt64).isSome = true := by
  rw [encode?, if_neg (fold_not_neg h)]
  rfl

def decodeBits : List Char → Option (Nat × List Char)
  | [] => none
  | c :: rest => do
    let value := alphabet.idxOf c
    if value < 32 then return (value, rest)
    else if value < 64 then
      let (high, rest) ← decodeBits rest
      return (value - 32 + 32 * high, rest)
    else none

def decode (text : List Char) : Option (Int × List Char) := do
  let (bits, rest) ← decodeBits text
  let magnitude : Int := (bits / 2 : Nat)
  return (if bits % 2 = 1 then -magnitude else magnitude, rest)

end ScopedStyles.SourceMap.Vlq
