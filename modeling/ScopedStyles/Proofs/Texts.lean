import Mathlib.Data.List.Infix
import ScopedStyles.Text.Decimal
import ScopedStyles.Text.Replace

namespace ScopedStyles

namespace Text

theorem dropFront?_eq_some_iff {front text rest : List Char} :
    dropFront? front text = some rest ↔ front ++ rest = text :=
  List.isPrefixOf?_eq_some_iff_append_eq

theorem dropEnd?_eq_some_iff {ending text rest : List Char} :
    dropEnd? ending text = some rest ↔ rest ++ ending = text := by
  simp only [dropEnd?, Option.map_eq_some_iff, List.isPrefixOf?_eq_some_iff_append_eq]
  constructor
  · rintro ⟨back, hback, rfl⟩
    rw [← List.reverse_inj, List.reverse_append, List.reverse_reverse, hback]
  · rintro rfl
    exact ⟨rest.reverse, by simp, by simp⟩

theorem readIndex?_toDigits {index : Nat} (h : index < UInt64.size) :
    readIndex? (Nat.toDigits 10 index) = some index := by
  have hdigits : ∀ c ∈ Nat.toDigits 10 index, c.isDigit = true := fun c hc =>
    Nat.isDigit_of_mem_toDigits (by decide) (by decide) hc
  have hplus : readIndex?.dropPlus (Nat.toDigits 10 index) = Nat.toDigits 10 index := by
    unfold readIndex?.dropPlus
    split
    · rename_i rest heq
      exact absurd (hdigits '+' (by simp [heq])) (by decide)
    · rfl
  have hvalue : digitsOf (Nat.toDigits 10 index) = index := by
    have hread : Nat.ofDigitChars 10 (Nat.toDigits 10 index) 0 = index :=
      Nat.ofDigitChars_ten_toDigits
    simpa only [Nat.ofDigitChars, digitsOf, Nat.mul_comm 10] using hread
  have hall : (Nat.toDigits 10 index).all Char.isDigit = true := List.all_eq_true.mpr hdigits
  have hread : ¬ ((Nat.toDigits 10 index).isEmpty ||
      !(Nat.toDigits 10 index).all Char.isDigit) := by
    simp [hall, Nat.toDigits_ne_nil]
  unfold readIndex?
  dsimp only
  rw [hplus, if_neg hread, hvalue]
  exact if_pos h

theorem intercalate_empty (texts : List String) : "".intercalate texts = String.join texts := by
  induction texts with
  | nil => simp
  | cons text rest ih =>
    cases rest with
    | nil => simp
    | cons next rest =>
      rw [String.intercalate_cons_cons, ih, String.append_empty, ← String.join_cons]

theorem append_cons_inj {front front' back back' : List Char} {c : Char} (hfront : c ∉ front)
    (hfront' : c ∉ front') (h : front ++ c :: back = front' ++ c :: back') :
    front = front' ∧ back = back' := by
  induction front generalizing front' with
  | nil =>
    cases front' with
    | nil => exact ⟨rfl, (List.cons.inj h).2⟩
    | cons d front' => exact absurd (List.cons.inj h).1 (List.ne_of_not_mem_cons hfront')
  | cons d front ih =>
    cases front' with
    | nil => exact absurd (List.cons.inj h).1.symm (List.ne_of_not_mem_cons hfront)
    | cons d' front' =>
      obtain ⟨rfl, hrest⟩ := List.cons.inj h
      obtain ⟨rfl, hback⟩ := ih (List.not_mem_of_not_mem_cons hfront)
        (List.not_mem_of_not_mem_cons hfront') hrest
      exact ⟨rfl, hback⟩

theorem infix_append_cons {part front back : List Char} {c : Char} (hc : c ∉ part)
    (h : part <:+: front ++ c :: back) : part <:+: front ∨ part <:+: back := by
  rcases List.infix_append_iff.mp h with hfront | hback | ⟨left, right, rfl, hleft, hright⟩
  · exact .inl hfront
  · rcases List.infix_cons_iff.mp hback with hstarts | hback
    · rcases List.prefix_cons_iff.mp hstarts with rfl | ⟨rest, rfl, -⟩
      · exact .inl List.nil_infix
      · simp at hc
    · exact .inr hback
  · cases right with
    | nil => exact .inl (by simpa using hleft.isInfix)
    | cons d right =>
      obtain ⟨rfl, -⟩ := List.cons_prefix_cons.mp hright
      simp at hc

theorem infix_of_infix_append {part more front tail : List Char} (htail : tail.length ≤ more.length)
    (h : part ++ more <:+: front ++ tail) : part <:+: front := by
  obtain ⟨before, after, h⟩ := h
  have hpart : before ++ part <+: front ++ tail := ⟨more ++ after, by simpa using h⟩
  have hlength := congrArg List.length h
  simp only [List.length_append] at hlength
  have hfront : before ++ part <+: front :=
    List.prefix_of_prefix_length_le hpart (List.prefix_append front tail) (by simp; omega)
  exact (List.infix_append_right).trans hfront.isInfix

theorem replaceFrom_cons {pattern text : List Char} {c : Char} (replacement : List Char)
    (h : ¬ pattern <+: c :: text) :
    replaceFrom pattern replacement 0 (c :: text) =
      c :: replaceFrom pattern replacement 0 text := by
  have hfront : pattern.isPrefixOf (c :: text) = false :=
    Bool.eq_false_iff.mpr fun hstarts => h (List.isPrefixOf_iff_prefix.mp hstarts)
  rw [replaceFrom, hfront]
  rfl

theorem replaceFrom_of_absent {pattern text : List Char} (replacement : List Char)
    (h : ¬ pattern <:+: text) : replaceFrom pattern replacement 0 text = text := by
  induction text with
  | nil => rfl
  | cons c rest ih =>
    rw [List.infix_cons_iff, not_or] at h
    rw [replaceFrom_cons _ h.1, ih h.2]

theorem replaceFrom_append {pattern : List Char} (hne : pattern ≠ [])
    (replacement text : List Char) :
    replaceFrom pattern replacement 0 (pattern ++ text) =
      replacement ++ replaceFrom pattern replacement 0 text := by
  obtain ⟨c, rest, rfl⟩ := List.exists_cons_of_ne_nil hne
  have hfront : (c :: rest).isPrefixOf (c :: (rest ++ text)) = true :=
    List.isPrefixOf_iff_prefix.mpr (List.prefix_append (c :: rest) text)
  rw [List.cons_append, replaceFrom, hfront, replaceFrom_eq_drop]
  simp

theorem replaceFrom_singleton (c : Char) (replacement text : List Char) :
    replaceFrom [c] replacement 0 text =
      text.flatMap fun d => if d = c then replacement else [d] := by
  induction text with
  | nil => rfl
  | cons d rest ih =>
    rw [List.flatMap_cons]
    by_cases h : d = c
    · subst h
      have hfront := replaceFrom_append (List.cons_ne_nil d []) replacement rest
      rw [List.singleton_append] at hfront
      rw [hfront, ih, if_pos rfl]
    · rw [replaceFrom_cons _ (by simpa using Ne.symm h), ih, if_neg h]
      rfl

theorem replaceAll_of_absent {pattern text : String} (replacement : String)
    (h : ¬ pattern.toList <:+: text.toList) : replaceAll pattern replacement text = text := by
  unfold replaceAll
  split
  · rfl
  · rw [replaceFrom_of_absent _ h, String.ofList_toList]

theorem replaceAll_append {pattern : String} (hne : pattern ≠ "") (replacement text : String) :
    replaceAll pattern replacement (pattern ++ text) =
      replacement ++ replaceAll pattern replacement text := by
  have hempty : pattern.isEmpty = false := by simpa using hne
  have hlist : pattern.toList ≠ [] := by simpa using hne
  simp only [replaceAll, hempty, Bool.false_eq_true, ↓reduceIte, String.toList_append,
    replaceFrom_append hlist, String.ofList_append, String.ofList_toList]

end Text

end ScopedStyles
