import Mathlib.Algebra.Group.Int.Defs
import Mathlib.Logic.Function.Iterate
import ScopedStyles.Proofs.Quantities

namespace ScopedStyles.SourceMap

namespace Vlq

open Base64 (digit)

def shifted (word : Int64) : Int64 :=
  word >>> 5

def written (word : Int64) : Char :=
  let group := (word &&& 31).toUInt64
  digit (if 0 < shifted word then group ||| 32 else group).toNat

inductive Writes : Int64 → List Char → Prop
  | last {word} : shifted word = 0 → Writes word [written word]
  | more {word text} : shifted word ≠ 0 → Writes (shifted word) text →
      Writes word (written word :: text)

variable {word : Int64} {text : List Char} {number : Nat}

theorem toInt_shifted (word : Int64) : (shifted word).toInt = word.toInt / 32 := by
  have hbits : (shifted word).toBitVec = word.toBitVec.sshiftRight 5 := rfl
  rw [← Int64.toInt_toBitVec, hbits, BitVec.toInt_sshiftRight, Int.shiftRight_eq_div_pow,
    Int64.toInt_toBitVec]
  rfl

theorem shifted_eq_zero_iff (h : word.toInt = number) : shifted word = 0 ↔ number < 32 := by
  rw [← Int64.toInt_inj, toInt_shifted, Int64.toInt_zero, h]
  omega

theorem written_eq (h : word.toInt = number) :
    written word = digit (if number < 32 then number else number % 32 + 32) := by
  have hnumber : word.toBitVec.toNat = number := by
    have hcond := word.toBitVec.toInt_eq_toNat_cond
    rw [Int64.toInt_toBitVec, h] at hcond
    omega
  have hgroup : (word &&& 31).toUInt64.toNat = number % 32 := by
    have hbits : (word &&& 31).toUInt64.toNat = (word.toBitVec &&& 31#64).toNat := rfl
    rw [hbits, BitVec.toNat_and, hnumber]
    exact Nat.and_two_pow_sub_one_eq_mod number 5
  have hpositive : 0 < shifted word ↔ ¬ number < 32 := by
    rw [Int64.lt_iff_toInt_lt, toInt_shifted, Int64.toInt_zero, h]
    omega
  have hsixth : ((word &&& 31).toUInt64 ||| 32).toNat = number % 32 + 32 := by
    rw [UInt64.toNat_or, hgroup, Nat.or_comm]
    exact (Nat.two_pow_add_eq_or_of_lt (i := 5) (Nat.mod_lt _ (by decide)) 1).symm.trans
      (Nat.add_comm _ _)
  unfold written
  by_cases hsmall : number < 32
  · simp only [hpositive, hsmall, not_true, if_true, if_false, hgroup, Nat.mod_eq_of_lt hsmall]
  · simp only [hpositive, hsmall, not_false_iff, if_true, if_false, hsixth]

theorem writes_digits (h : word.toInt = number) : Writes word (digits number) := by
  induction number using digits.induct generalizing word with
  | case1 number hsmall =>
    rw [digits_of_lt hsmall]
    have hlast := Writes.last ((shifted_eq_zero_iff h).mpr hsmall)
    rwa [written_eq h, if_pos hsmall] at hlast
  | case2 number hlarge ih =>
    have hrest : (shifted word).toInt = (number / 32 : Nat) := by
      rw [toInt_shifted, h]
      rfl
    have hmore := Writes.more (mt (shifted_eq_zero_iff h).mp hlarge) (ih hrest)
    rw [digits, dif_neg hlarge]
    rwa [written_eq h, if_neg hlarge] at hmore

theorem Writes.nonneg (h : Writes word text) : 0 ≤ word.toInt := by
  induction h with
  | @last word hleft =>
    have hshifted := toInt_shifted word
    rw [hleft, Int64.toInt_zero] at hshifted
    omega
  | @more word text _ _ ih =>
    rw [toInt_shifted] at ih
    omega

theorem Writes.unique {other : List Char} (h : Writes word text) (h' : Writes word other) :
    text = other := by
  induction h generalizing other with
  | last hleft =>
    cases h' with
    | last => rfl
    | more hmore => exact absurd hleft hmore
  | more hmore _ ih =>
    cases h' with
    | last hleft => exact absurd hleft hmore
    | more _ hrest => rw [ih hrest]

theorem encode?_eq_some_iff {value : Int64} :
    encode? value = some text ↔ Writes (fold value) text := by
  have hdigits (hnonneg : ¬ fold value < 0) :
      Writes (fold value) (digits (fold value).toNatClampNeg) := by
    rw [neg_iff_toInt_neg] at hnonneg
    exact writes_digits (Int.toNat_of_nonneg (Int.not_lt.mp hnonneg)).symm
  unfold encode?
  constructor
  · intro h
    split at h
    · cases h
    · rename_i hnonneg
      exact Option.some.inj h ▸ hdigits hnonneg
  · intro h
    have hnonneg : ¬ fold value < 0 := by
      rw [neg_iff_toInt_neg]
      exact Int.not_lt.mpr h.nonneg
    rw [if_neg hnonneg, h.unique (hdigits hnonneg)]

theorem toInt_iterate_shifted (word : Int64) (rounds : Nat) :
    (shifted^[rounds] word).toInt = word.toInt / 32 ^ rounds := by
  induction rounds with
  | zero => simp
  | succ rounds ih =>
    have hnonneg : (0 : Int) ≤ 32 ^ rounds := Int.le_of_lt (Int.pow_pos (by decide))
    rw [Function.iterate_succ_apply', toInt_shifted, ih, Int.ediv_ediv_of_nonneg hnonneg,
      ← Int.pow_succ]

theorem iterate_shifted_neg (h : word < 0) (rounds : Nat) : shifted^[rounds] word < 0 := by
  rw [neg_iff_toInt_neg] at h ⊢
  rw [toInt_iterate_shifted]
  exact Int.ediv_neg_of_neg_of_pos h (Int.pow_pos (by decide))

theorem rounds_end_iff_not_neg : (∃ rounds, shifted^[rounds + 1] word = 0) ↔ ¬ word < 0 := by
  constructor
  · rintro ⟨rounds, hzero⟩ hneg
    have hstill := iterate_shifted_neg hneg (rounds + 1)
    rw [hzero] at hstill
    exact absurd hstill (by decide)
  · intro hnonneg
    refine ⟨12, ?_⟩
    have hbound := word.toInt_lt
    rw [neg_iff_toInt_neg] at hnonneg
    rw [← Int64.toInt_inj, toInt_iterate_shifted, Int64.toInt_zero]
    omega

theorem exists_encode?_iff (value : Int64) :
    (∃ text, encode? value = some text) ↔
      value.toInt.natAbs < 2 ^ 62 ∨ value = Int64.minValue := by
  have hneg := fold_neg_iff value
  unfold encode?
  split
  · rename_i hfold
    exact iff_of_false (fun ⟨_, h⟩ => nomatch h) (hneg.mp hfold)
  · rename_i hfold
    exact iff_of_true ⟨_, rfl⟩ (not_not.mp (mt hneg.mpr hfold))

def Ends (number : Nat) : Prop :=
  number < 2 ^ 62 ∨ number = 2 ^ 63 ∨ 2 ^ 64 - 2 ^ 62 < number

theorem exists_encode?_toInt64_iff (number : UInt64) :
    (∃ text, encode? number.toInt64 = some text) ↔ Ends number.toNat := by
  have hbound := number.toNat_lt
  rw [exists_encode?_iff, ← Int64.toInt_inj, toInt_toInt64, Int64.toInt_minValue, Int.bmod_def, Ends]
  omega

end Vlq

open Vlq

theorem exists_segment?_iff (position : Position) :
    (∃ segment, segment? position = some segment) ↔
      Ends (position.line.toNat - 1) ∧ Ends position.column.toNat := by
  rw [← toNat_linesBefore, ← exists_encode?_toInt64_iff, ← exists_encode?_toInt64_iff]
  simp only [segment?, Option.bind_eq_bind, Option.bind_eq_some_iff, Option.pure_def,
    Option.some.injEq]
  constructor
  · rintro ⟨_, line, hline, column, hcolumn, rfl⟩
    exact ⟨⟨line, hline⟩, column, hcolumn⟩
  · rintro ⟨⟨line, hline⟩, column, hcolumn⟩
    exact ⟨_, line, hline, column, hcolumn, rfl⟩

theorem exists_comment?_iff (name : String) (content : Option String) (position : Position) :
    (∃ comment, comment? name content position = some comment) ↔
      name = "" ∨ ∃ segment, segment? position = some segment := by
  unfold comment?
  split
  · rename_i hname
    exact iff_of_true ⟨"", rfl⟩ (.inl (by simpa using hname))
  · rename_i hname
    have hname : name ≠ "" := by simpa using hname
    simp only [Option.bind_eq_bind, Option.bind_eq_some_iff, hname, false_or]
    constructor
    · rintro ⟨_, segment, hsegment, -⟩
      exact ⟨segment, hsegment⟩
    · rintro ⟨segment, hsegment⟩
      exact ⟨_, segment, hsegment, rfl⟩

/-- The rounds over a number with its sign folded in come to an end exactly if the number is of
magnitude below two to the 62nd, or the least one of all. Only then does it have digits, and only
then is there a comment for the position of a named source that it is part of. -/
theorem rounds_end_iff (name : String) (content : Option String) (position : Position) :
    (∀ value : Int64, (∃ rounds, shifted^[rounds + 1] (fold value) = 0) ↔
      value.toInt.natAbs < 2 ^ 62 ∨ value = Int64.minValue) ∧
    (∀ value text, encode? value = some text ↔ Writes (fold value) text) ∧
    ((∃ comment, comment? name content position = some comment) ↔
      name = "" ∨ Ends (position.line.toNat - 1) ∧ Ends position.column.toNat) := by
  refine ⟨fun value => ?_, fun _ _ => encode?_eq_some_iff, ?_⟩
  · rw [rounds_end_iff_not_neg, fold_neg_iff, not_not]
  · rw [exists_comment?_iff, exists_segment?_iff]

theorem endless_column :
    let word := fold (4611686018427387904 : UInt64).toInt64
    (∀ rounds, shifted^[rounds] word < 0) ∧ (¬ ∃ rounds, shifted^[rounds + 1] word = 0) ∧
      comment? "a.js" none ⟨1, 4611686018427387904⟩ = none := by
  intro word
  have hneg : word < 0 := by decide
  refine ⟨iterate_shifted_neg hneg, fun hends => rounds_end_iff_not_neg.mp hends hneg, ?_⟩
  rw [Option.eq_none_iff_forall_ne_some]
  intro comment hmade
  rcases (exists_comment?_iff ..).mp ⟨comment, hmade⟩ with hname | hsegment
  · exact absurd hname (by decide)
  · have hends := ((exists_segment?_iff _).mp hsegment).2
    exact absurd hends (by unfold Ends; decide)

end ScopedStyles.SourceMap
