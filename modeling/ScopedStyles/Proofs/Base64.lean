import Mathlib.Data.List.Basic
import ScopedStyles.SourceMap.Base64

namespace ScopedStyles.SourceMap.Base64

def value? (c : Char) : Option Nat :=
  if alphabet.idxOf c < 64 then some (alphabet.idxOf c) else none

def firstByte (x y : Nat) : UInt8 := .ofNat (x * 4 + y / 16)

def secondByte (y z : Nat) : UInt8 := .ofNat (y % 16 * 16 + z / 4)

def thirdByte (z w : Nat) : UInt8 := .ofNat (z % 4 * 64 + w)

def decodeFilled? (a b c : Char) : Option (List UInt8) := do
  let x ← value? a
  let y ← value? b
  if c = '=' then
    if y % 16 = 0 then some [firstByte x y] else none
  else
    let z ← value? c
    if z % 4 = 0 then some [firstByte x y, secondByte y z] else none

def decode? : List Char → Option (List UInt8)
  | [] => some []
  | [a, b, c, '='] => decodeFilled? a b c
  | a :: b :: c :: d :: rest => do
    let x ← value? a
    let y ← value? b
    let z ← value? c
    let w ← value? d
    let bytes ← decode? rest
    return firstByte x y :: secondByte y z :: thirdByte z w :: bytes
  | _ => none

theorem idxOf_digit : ∀ n < 64, alphabet.idxOf (digit n) = n := by
  decide

theorem value?_digit (n : Nat) (h : n < 64) : value? (digit n) = some n := by
  rw [value?, idxOf_digit n h, if_pos h]

theorem digit_ne_fill {n : Nat} (h : n < 64) : digit n ≠ '=' := by
  have hfill : value? '=' = none := by decide
  intro heq
  rw [← heq, value?_digit n h] at hfill
  exact Option.some_ne_none n hfill

theorem digit_mem (n : Nat) : digit n ∈ alphabet := by
  unfold digit
  rw [List.getD_eq_getElem?_getD]
  by_cases h : n < alphabet.length
  · rw [List.getElem?_eq_getElem h]
    exact List.getElem_mem h
  · rw [List.getElem?_eq_none (Nat.le_of_not_lt h)]
    decide

theorem mem_encode {bytes : List UInt8} {c : Char} (h : c ∈ encode bytes) :
    c ∈ alphabet ∨ c = '=' := by
  induction bytes using encode.induct with
  | case1 => simp [encode] at h
  | case2 a =>
    simp only [encode, List.mem_cons, List.not_mem_nil, or_false] at h
    rcases h with rfl | rfl | rfl | rfl
    · exact .inl (digit_mem _)
    · exact .inl (digit_mem _)
    · exact .inr rfl
    · exact .inr rfl
  | case3 a b =>
    simp only [encode, List.mem_cons, List.not_mem_nil, or_false] at h
    rcases h with rfl | rfl | rfl | rfl
    · exact .inl (digit_mem _)
    · exact .inl (digit_mem _)
    · exact .inl (digit_mem _)
    · exact .inr rfl
  | case4 a b c rest ih =>
    simp only [encode, List.mem_cons] at h
    rcases h with rfl | rfl | rfl | rfl | hrest
    · exact .inl (digit_mem _)
    · exact .inl (digit_mem _)
    · exact .inl (digit_mem _)
    · exact .inl (digit_mem _)
    · exact ih hrest

theorem ofNat_of_eq {a : UInt8} {n : Nat} (h : n = a.toNat) : UInt8.ofNat n = a := by
  rw [h, UInt8.ofNat_toNat]

theorem firstByte_eq (a : UInt8) (low : Nat) (h : low < 16) :
    firstByte (a.toNat / 4) (a.toNat % 4 * 16 + low) = a :=
  ofNat_of_eq (by omega)

theorem secondByte_eq (b : UInt8) (high low : Nat) (h : low < 4) :
    secondByte (high * 16 + b.toNat / 16) (b.toNat % 16 * 4 + low) = b := by
  have hb := b.toNat_lt
  exact ofNat_of_eq (by omega)

theorem thirdByte_eq (c : UInt8) (high : Nat) :
    thirdByte (high * 4 + c.toNat / 64) (c.toNat % 64) = c := by
  have hc := c.toNat_lt
  exact ofNat_of_eq (by omega)

theorem decode?_encode (bytes : List UInt8) : decode? (encode bytes) = some bytes := by
  induction bytes using encode.induct with
  | case1 => rfl
  | case2 a =>
    have ha := a.toNat_lt
    have hx := value?_digit (a.toNat / 4) (by omega)
    have hy := value?_digit (a.toNat % 4 * 16) (by omega)
    have hleft : a.toNat % 4 * 16 % 16 = 0 := by omega
    have hbyte : firstByte (a.toNat / 4) (a.toNat % 4 * 16) = a :=
      firstByte_eq a 0 (by decide)
    simp [encode, decode?, decodeFilled?, hx, hy, hleft, hbyte]
  | case3 a b =>
    have ha := a.toNat_lt
    have hb := b.toNat_lt
    have hx := value?_digit (a.toNat / 4) (by omega)
    have hy := value?_digit (a.toNat % 4 * 16 + b.toNat / 16) (by omega)
    have hz := value?_digit (b.toNat % 16 * 4) (by omega)
    have hne := @digit_ne_fill (b.toNat % 16 * 4) (by omega)
    have hleft : b.toNat % 16 * 4 % 4 = 0 := by omega
    have hfirst := firstByte_eq a (b.toNat / 16) (by omega)
    have hsecond : secondByte (a.toNat % 4 * 16 + b.toNat / 16) (b.toNat % 16 * 4) = b :=
      secondByte_eq b _ 0 (by decide)
    simp [encode, decode?, decodeFilled?, hx, hy, hz, hne, hleft, hfirst, hsecond]
  | case4 a b c rest ih =>
    have ha := a.toNat_lt
    have hb := b.toNat_lt
    have hc := c.toNat_lt
    have hx := value?_digit (a.toNat / 4) (by omega)
    have hy := value?_digit (a.toNat % 4 * 16 + b.toNat / 16) (by omega)
    have hz := value?_digit (b.toNat % 16 * 4 + c.toNat / 64) (by omega)
    have hw := value?_digit (c.toNat % 64) (by omega)
    have hne := @digit_ne_fill (c.toNat % 64) (by omega)
    have hfirst := firstByte_eq a (b.toNat / 16) (by omega)
    have hsecond := secondByte_eq b (a.toNat % 4) (c.toNat / 64) (by omega)
    have hthird := thirdByte_eq c (b.toNat % 16)
    simp [encode, decode?, hx, hy, hz, hw, hne, hfirst, hsecond, hthird, ih]

end ScopedStyles.SourceMap.Base64
