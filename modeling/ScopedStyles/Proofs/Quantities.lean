import Mathlib.Algebra.Group.Nat.Defs
import ScopedStyles.Proofs.Base64
import ScopedStyles.SourceMap.Comment

namespace ScopedStyles.SourceMap

namespace Vlq

open Base64 (digit idxOf_digit)

theorem neg_iff_toInt_neg (word : Int64) : word < 0 ↔ word.toInt < 0 := by
  rw [Int64.lt_iff_toInt_lt, Int64.toInt_zero]

theorem toInt_toInt64 (number : UInt64) :
    number.toInt64.toInt = (number.toNat : Int).bmod (2 ^ 64) := by
  have hbits : number.toInt64.toBitVec = number.toBitVec := rfl
  rw [← Int64.toInt_toBitVec, hbits, BitVec.toInt_eq_toNat_bmod, UInt64.toNat_toBitVec]

theorem toInt_toInt64_small {number : UInt64} (h : number.toNat < 2 ^ 62) :
    number.toInt64.toInt = number.toNat := by
  rw [toInt_toInt64, Int.bmod_def]
  omega

theorem toInt_double (word : Int64) : (word <<< 1).toInt = (2 * word.toInt).bmod (2 ^ 64) := by
  have hbits : (word <<< 1).toBitVec = word.toBitVec <<< 1 := rfl
  rw [← Int64.toInt_toBitVec, ← Int64.toInt_toBitVec, hbits, BitVec.toInt_shiftLeft,
    Nat.shiftLeft_eq, BitVec.toInt_eq_toNat_cond, Int.bmod_def, Int.bmod_def]
  omega

theorem double_or_one (word : Int64) : word <<< 1 ||| (1 : Int64) = word <<< 1 + 1 := by
  have hbits : (word <<< 1 ||| (1 : Int64)).toBitVec = word.toBitVec <<< 1#64 ||| 1#64 := rfl
  rw [← Int64.toBitVec_inj, hbits, ← BitVec.shiftLeft_add_eq_shiftLeft_or]
  rfl

theorem toInt_fold (value : Int64) :
    (fold value).toInt =
      if value.toInt < 0 then (2 * -value.toInt).bmod (2 ^ 64) + 1
      else (2 * value.toInt).bmod (2 ^ 64) := by
  unfold fold
  simp only [neg_iff_toInt_neg]
  split
  · rw [double_or_one, Int64.toInt_add, toInt_double, Int64.toInt_neg, Int64.toInt_one]
    simp only [Int.bmod_def]
    omega
  · exact toInt_double value

theorem fold_neg_iff (value : Int64) :
    fold value < 0 ↔ ¬ (value.toInt.natAbs < 2 ^ 62 ∨ value = Int64.minValue) := by
  have hlow := value.le_toInt
  have hhigh := value.toInt_lt
  rw [neg_iff_toInt_neg, toInt_fold, ← Int64.toInt_inj, Int64.toInt_minValue]
  simp only [Int.bmod_def]
  omega

def folded (number : Int) : Nat :=
  if number < 0 then 2 * number.natAbs + 1 else 2 * number.natAbs

theorem folded_natCast (number : Nat) : folded number = 2 * number := by
  rw [folded, if_neg (Int.not_lt.mpr (Int.natCast_nonneg number)), Int.natAbs_natCast]

theorem encode?_folded {value : Int64} (h : value.toInt.natAbs < 2 ^ 62) :
    encode? value = some (digits (folded value.toInt)) := by
  have hfold : (fold value).toInt = folded value.toInt := by
    rw [toInt_fold, folded]
    simp only [Int.bmod_def]
    split <;> omega
  have hnonneg : ¬ fold value < 0 := fun hneg => (fold_neg_iff value).mp hneg (.inl h)
  rw [encode?, if_neg hnonneg, Int64.toNatClampNeg, hfold, Int.toNat_natCast]

theorem encode?_small {number : UInt64} (h : number.toNat < 2 ^ 62) :
    encode? number.toInt64 = some (digits (2 * number.toNat)) := by
  have hvalue := toInt_toInt64_small h
  rw [encode?_folded (by omega), hvalue, folded_natCast]

theorem digits_of_lt {number : Nat} (h : number < 32) : digits number = [digit number] := by
  rw [digits, dif_pos h]

theorem decodeBits_digits (number : Nat) (rest : List Char) :
    decodeBits (digits number ++ rest) = some (number, rest) := by
  induction number using digits.induct with
  | case1 number h =>
    rw [digits_of_lt h]
    simp [decodeBits, idxOf_digit number (by omega), h]
  | case2 number h ih =>
    have hdigit := idxOf_digit (number % 32 + 32) (by omega)
    have hmore : ¬ number % 32 + 32 < 32 := by omega
    have hbound : number % 32 + 32 < 64 := by omega
    have hwhole : number % 32 + 32 - 32 + 32 * (number / 32) = number := by omega
    rw [digits, dif_neg h, List.cons_append, decodeBits]
    simp only [hdigit, if_neg hmore, if_pos hbound, ih, Option.bind_eq_bind, Option.bind_some,
      hwhole]
    rfl

theorem decode_digits (number : Int) (rest : List Char) :
    decode (digits (folded number) ++ rest) = some (number, rest) := by
  simp only [decode, decodeBits_digits, Option.bind_eq_bind, Option.bind_some, folded]
  split
  · have hodd : (2 * number.natAbs + 1) % 2 = 1 := by omega
    have hvalue : -(((2 * number.natAbs + 1) / 2 : Nat) : Int) = number := by omega
    rw [if_pos hodd, hvalue]
    rfl
  · have heven : ¬ 2 * number.natAbs % 2 = 1 := by omega
    have hvalue : ((2 * number.natAbs / 2 : Nat) : Int) = number := by omega
    rw [if_neg heven, hvalue]
    rfl

theorem decodeBits_shorter {text rest : List Char} {number : Nat}
    (h : decodeBits text = some (number, rest)) : rest.length < text.length := by
  induction text generalizing number with
  | nil => cases h
  | cons c text ih =>
    simp only [decodeBits] at h
    split at h
    · obtain ⟨-, rfl⟩ := Prod.mk.inj (Option.some.inj h)
      exact Nat.lt_succ_self _
    · split at h
      · obtain ⟨⟨high, after⟩, hafter, hrest⟩ := Option.bind_eq_some_iff.mp h
        obtain ⟨-, rfl⟩ := Prod.mk.inj (Option.some.inj hrest)
        exact Nat.lt_succ_of_lt (ih hafter)
      · cases h

theorem decode_shorter {text rest : List Char} {number : Int}
    (h : decode text = some (number, rest)) : rest.length < text.length := by
  obtain ⟨⟨bits, after⟩, hbits, hrest⟩ := Option.bind_eq_some_iff.mp h
  obtain ⟨-, rfl⟩ := Prod.mk.inj (Option.some.inj hrest)
  exact decodeBits_shorter hbits

def decodeAll? (text : List Char) : Option (List Int) :=
  if text = [] then some []
  else
    match h : decode text with
    | some (number, rest) =>
      have := decode_shorter h
      (decodeAll? rest).map (number :: ·)
    | none => none
termination_by text.length

theorem decodeAll?_cons {text rest : List Char} {number : Int}
    (h : decode text = some (number, rest)) :
    decodeAll? text = (decodeAll? rest).map (number :: ·) := by
  have hne : text ≠ [] := by
    rintro rfl
    cases h
  rw [decodeAll?, if_neg hne]
  split
  · rename_i hread
    obtain ⟨rfl, rfl⟩ := Prod.mk.inj (Option.some.inj (h.symm.trans hread))
    rfl
  · rename_i hread
    cases h.symm.trans hread

theorem decodeAll?_digits (numbers : List Int) :
    decodeAll? (numbers.flatMap fun number => digits (folded number)) = some numbers := by
  induction numbers with
  | nil => rw [List.flatMap_nil, decodeAll?, if_pos rfl]
  | cons number rest ih =>
    rw [List.flatMap_cons, decodeAll?_cons (decode_digits number _), ih, Option.map_some]

end Vlq

theorem segment?_small {position : Position} (hline : position.line.toNat < 2 ^ 62)
    (hcolumn : position.column.toNat < 2 ^ 62) :
    segment? position = some (Vlq.digits 0 ++ Vlq.digits 0 ++
      Vlq.digits (2 * (position.line.toNat - 1)) ++ Vlq.digits (2 * position.column.toNat)) := by
  have hbefore := toNat_linesBefore position.line
  unfold segment?
  dsimp only
  rw [Vlq.encode?_small (by omega), Vlq.encode?_small hcolumn, hbefore]
  rfl

def fields (position : Position) : List Int :=
  [0, 0, (max position.line.toNat 1 - 1 : Nat), position.column.toNat]

theorem segment?_fields {position : Position} (hline : position.line.toNat < 2 ^ 62)
    (hcolumn : position.column.toNat < 2 ^ 62) :
    segment? position =
      some ((fields position).flatMap fun number => Vlq.digits (Vlq.folded number)) := by
  have hbefore : max position.line.toNat 1 - 1 = position.line.toNat - 1 := by omega
  have hzero : Vlq.folded 0 = 0 := rfl
  simp only [segment?_small hline hcolumn, fields, hbefore, List.flatMap_cons, List.flatMap_nil,
    hzero, Vlq.folded_natCast, List.append_assoc, List.append_nil]

theorem numbers_read_back :
    (∀ number : Int, number.natAbs < 2 ^ 62 → ∃ text, Vlq.encode? (.ofInt number) = some text ∧
      ∀ rest, Vlq.decode (text ++ rest) = some (number, rest)) ∧
    (∀ position : Position, position.line.toNat < 2 ^ 62 → position.column.toNat < 2 ^ 62 →
      ∃ segment, segment? position = some segment ∧
        Vlq.decodeAll? segment = some (fields position)) ∧
    (∀ position other : Position, position.line.toNat < 2 ^ 62 → position.column.toNat < 2 ^ 62 →
      other.line.toNat < 2 ^ 62 → other.column.toNat < 2 ^ 62 →
      fields position ≠ fields other → segment? position ≠ segment? other) := by
  refine ⟨?_, ?_, ?_⟩
  · intro number hnumber
    have hword : (Int64.ofInt number).toInt = number :=
      Int64.toInt_ofInt_of_le (by omega) (by omega)
    have hencoded := Vlq.encode?_folded (hword.symm ▸ hnumber)
    rw [hword] at hencoded
    exact ⟨_, hencoded, Vlq.decode_digits number⟩
  · intro position hline hcolumn
    exact ⟨_, segment?_fields hline hcolumn, Vlq.decodeAll?_digits _⟩
  · intro position other hline hcolumn hline' hcolumn' hother hsame
    rw [segment?_fields hline hcolumn, segment?_fields hline' hcolumn'] at hsame
    have hread := congrArg Vlq.decodeAll? (Option.some.inj hsame)
    rw [Vlq.decodeAll?_digits, Vlq.decodeAll?_digits] at hread
    exact hother (Option.some.inj hread)

theorem numbers_read_back_widest :
    let number : Int := -4611686018427387903
    let position : Position := ⟨0, 4611686018427387903⟩
    let other : Position := ⟨17, 4611686018427387903⟩
    (number.natAbs < 2 ^ 62 ∧ position.line.toNat < 2 ^ 62 ∧ position.column.toNat < 2 ^ 62 ∧
      other.line.toNat < 2 ^ 62 ∧ other.column.toNat < 2 ^ 62 ∧ fields position ≠ fields other) ∧
    (∃ text, Vlq.encode? (.ofInt number) = some text ∧
      Vlq.decode (text ++ "gB;".toList) = some (number, "gB;".toList)) ∧
    (∃ segment, segment? position = some segment ∧
      Vlq.decodeAll? segment = some [0, 0, 0, 4611686018427387903]) ∧
    segment? position ≠ segment? other := by
  intro number position other
  obtain ⟨hnumbers, hsegments, hapart⟩ := numbers_read_back
  have hnumber : number.natAbs < 2 ^ 62 := by decide
  have hline : position.line.toNat < 2 ^ 62 := by decide
  have hcolumn : position.column.toNat < 2 ^ 62 := by decide
  have hline' : other.line.toNat < 2 ^ 62 := by decide
  have hcolumn' : other.column.toNat < 2 ^ 62 := by decide
  have hother : fields position ≠ fields other := by decide
  obtain ⟨text, htext, hread⟩ := hnumbers number hnumber
  exact ⟨⟨hnumber, hline, hcolumn, hline', hcolumn', hother⟩, ⟨text, htext, hread _⟩,
    hsegments position hline hcolumn, hapart position other hline hcolumn hline' hcolumn' hother⟩

end ScopedStyles.SourceMap
