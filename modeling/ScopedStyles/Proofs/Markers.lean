import ScopedStyles.Proofs.Texts
import ScopedStyles.Template

namespace ScopedStyles

namespace Marker

def IsMarker (text : List Char) : Prop :=
  ∃ digits, digits ≠ [] ∧ (∀ c ∈ digits, c.isDigit = true) ∧ text = opening ++ digits ++ closing

theorem toList_token (index : Nat) :
    (token index).toList = opening ++ Nat.toDigits 10 index ++ closing := by
  simp [token, Nat.toString_eq_repr, Nat.toList_repr]

theorem isMarker_token (index : Nat) : IsMarker (token index).toList :=
  ⟨Nat.toDigits 10 index, Nat.toDigits_ne_nil,
    fun _ hc => Nat.isDigit_of_mem_toDigits (by decide) (by decide) hc, toList_token index⟩

theorem index?_token {index : Nat} (h : index < UInt64.size) : index? (token index) = some index := by
  have hfront : Text.dropFront? opening (token index).toList =
      some (Nat.toDigits 10 index ++ closing) :=
    Text.dropFront?_eq_some_iff.mpr (by simp [toList_token])
  have hend : Text.dropEnd? closing (Nat.toDigits 10 index ++ closing) =
      some (Nat.toDigits 10 index) :=
    Text.dropEnd?_eq_some_iff.mpr rfl
  simp [index?, hfront, hend, Text.readIndex?_toDigits h]

theorem index?_eq_none {text : String} (h : ¬ opening <+: text.toList) : index? text = none := by
  cases hfront : Text.dropFront? opening text.toList with
  | none => simp [index?, hfront]
  | some rest => exact absurd ⟨rest, Text.dropFront?_eq_some_iff.mp hfront⟩ h

theorem span_digits {digits : List Char} (h : ∀ c ∈ digits, c.isDigit = true) (rest : List Char) :
    (digits ++ (closing ++ rest)).takeWhile Char.isDigit = digits ∧
      (digits ++ (closing ++ rest)).dropWhile Char.isDigit = closing ++ rest := by
  rw [List.takeWhile_append_of_pos h, List.dropWhile_append_of_pos h]
  exact ⟨List.append_nil digits, rfl⟩

theorem atFront?_eq_some_iff {text marker : List Char} :
    atFront? text = some marker ↔ IsMarker marker ∧ marker <+: text := by
  simp only [atFront?, Option.bind_eq_bind, Option.bind_eq_some_iff, Text.dropFront?_eq_some_iff]
  constructor
  · rintro ⟨rest, rfl, h⟩
    split at h
    · cases h
    · rename_i hne
      simp only [Option.pure_def, Option.bind_eq_some_iff, Text.dropFront?_eq_some_iff,
        Option.some.injEq] at h
      obtain ⟨back, hback, rfl⟩ := h
      refine ⟨⟨rest.takeWhile Char.isDigit, by simpa using hne,
        List.all_eq_true.mp List.all_takeWhile, rfl⟩, back, ?_⟩
      rw [List.append_assoc, List.append_assoc, hback, List.takeWhile_append_dropWhile]
  · rintro ⟨⟨digits, hne, hdigits, rfl⟩, back, rfl⟩
    refine ⟨digits ++ (closing ++ back), by simp, ?_⟩
    obtain ⟨htake, hdrop⟩ := span_digits hdigits back
    have hclosing : Text.dropFront? closing (closing ++ back) = some back :=
      Text.dropFront?_eq_some_iff.mpr rfl
    simp [htake, hdrop, hclosing, hne]

theorem atFront?_eq_none_iff {text : List Char} :
    atFront? text = none ↔ ∀ marker, IsMarker marker → ¬ marker <+: text := by
  rw [Option.eq_none_iff_forall_ne_some]
  constructor
  · intro h marker hmarker hstarts
    exact h marker (atFront?_eq_some_iff.mpr ⟨hmarker, hstarts⟩)
  · intro h marker hfront
    obtain ⟨hmarker, hstarts⟩ := atFront?_eq_some_iff.mp hfront
    exact h marker hmarker hstarts

theorem IsMarker.ne_nil {marker : List Char} (h : IsMarker marker) : marker ≠ [] := by
  obtain ⟨digits, -, -, rfl⟩ := h
  exact List.append_ne_nil_of_left_ne_nil (List.append_ne_nil_of_left_ne_nil (by decide) _) _

theorem occursInChars_iff {text : List Char} :
    occursInChars text = true ↔ ∃ marker, IsMarker marker ∧ marker <:+: text := by
  induction text with
  | nil =>
    simp only [occursInChars, Bool.false_eq_true, List.infix_nil, false_iff, not_exists, not_and]
    exact fun marker hmarker => hmarker.ne_nil
  | cons c rest ih =>
    simp only [occursInChars, Bool.or_eq_true, ih, List.infix_cons_iff, Option.isSome_iff_exists,
      atFront?_eq_some_iff]
    constructor
    · rintro (⟨marker, hmarker, hstarts⟩ | ⟨marker, hmarker, hpart⟩)
      · exact ⟨marker, hmarker, .inl hstarts⟩
      · exact ⟨marker, hmarker, .inr hpart⟩
    · rintro ⟨marker, hmarker, hstarts | hpart⟩
      · exact .inl ⟨marker, hmarker, hstarts⟩
      · exact .inr ⟨marker, hmarker, hpart⟩

theorem not_mem_of_isMarker {marker : List Char} (h : IsMarker marker) :
    'B' ∉ marker.drop 3 := by
  obtain ⟨digits, -, hdigits, rfl⟩ := h
  intro hmem
  have hmem : 'B' ∈ "EMED_VAR_".toList ++ digits ++ closing := hmem
  simp only [List.mem_append, closing] at hmem
  rcases hmem with (hmem | hmem) | hmem
  · exact absurd hmem (by decide)
  · exact absurd (hdigits _ hmem) (by decide)
  · exact absurd hmem (by decide)

-- A marker that begins in a literal text and goes beyond the closing behind it would have a second
-- `B`.

theorem marker_before_token {marker text rest : List Char} (hmarker : IsMarker marker)
    (htext : text ≠ []) (h : marker <+: text ++ (closing ++ 'B' :: rest)) :
    marker <+: text ++ closing := by
  have hlong : text ++ closing ++ ['B'] <+: text ++ (closing ++ 'B' :: rest) :=
    ⟨rest, by simp⟩
  have hclosed : text ++ closing <+: text ++ (closing ++ 'B' :: rest) := ⟨'B' :: rest, by simp⟩
  rcases Nat.lt_or_ge (text ++ closing).length marker.length with hover | hwithin
  · have hover : text ++ closing ++ ['B'] <+: marker :=
      List.prefix_of_prefix_length_le hlong h (by simp at hover ⊢; omega)
    have hdrop := hover.drop 3
    have hthree : 3 ≤ (text ++ closing).length := by
      have := List.length_pos_iff.mpr htext
      simp [closing]
      omega
    rw [List.drop_append_of_le_length hthree] at hdrop
    exact absurd (hdrop.subset (by simp)) (not_mem_of_isMarker hmarker)
  · exact List.prefix_of_prefix_length_le h hclosed hwithin

theorem token_eq (index : Nat) : ∃ back, (token index).toList = closing ++ 'B' :: back := by
  rw [toList_token]
  exact ⟨"EMED_VAR_".toList ++ Nat.toDigits 10 index ++ closing, rfl⟩

theorem pieces_marker {marker : List Char} (hmarker : IsMarker marker) (rest : List Char) :
    pieces 0 (marker ++ rest) = [] :: marker :: pieces 0 rest := by
  have hfront : atFront? (marker ++ rest) = some marker :=
    atFront?_eq_some_iff.mpr ⟨hmarker, List.prefix_append _ _⟩
  obtain ⟨c, tail, rfl⟩ := List.exists_cons_of_ne_nil hmarker.ne_nil
  rw [List.cons_append] at hfront ⊢
  simp only [pieces, hfront]
  rw [pieces_eq_drop]
  simp

theorem pieces_token (index : Nat) (rest : List Char) :
    pieces 0 ((token index).toList ++ rest) = [] :: (token index).toList :: pieces 0 rest :=
  pieces_marker (isMarker_token index) rest

theorem pieces_of_no_marker {text : List Char} (h : occursInChars text = false) :
    pieces 0 text = [text] := by
  induction text with
  | nil => rfl
  | cons c rest ih =>
    simp only [occursInChars, Bool.or_eq_false_iff, Option.isSome_eq_false_iff,
      Option.isNone_iff_eq_none] at h
    simp [pieces, h.1, ih h.2, prepend]

theorem pieces_append_token {text : List Char} (h : occursInChars (text ++ closing) = false)
    (index : Nat) (rest : List Char) :
    pieces 0 (text ++ ((token index).toList ++ rest)) =
      text :: (token index).toList :: pieces 0 rest := by
  induction text with
  | nil =>
    rw [List.nil_append]
    exact pieces_token index rest
  | cons c text ih =>
    simp only [List.cons_append, occursInChars, Bool.or_eq_false_iff, Option.isSome_eq_false_iff,
      Option.isNone_iff_eq_none] at h
    have hfree := atFront?_eq_none_iff.mp h.1
    have hnone : atFront? (c :: (text ++ ((token index).toList ++ rest))) = none := by
      refine atFront?_eq_none_iff.mpr fun marker hmarker hstarts => ?_
      obtain ⟨back, hback⟩ := token_eq index
      rw [hback, List.append_assoc, List.cons_append] at hstarts
      exact hfree marker hmarker (marker_before_token hmarker (List.cons_ne_nil c text) hstarts)
    simp only [List.cons_append, pieces, hnone, ih h.2, prepend]

end Marker

namespace Template

def Separable : List String → Prop
  | [] => True
  | [last] => Marker.occursInChars last.toList = false
  | chunk :: next :: rest =>
    Marker.occursInChars (chunk.toList ++ Marker.closing) = false ∧ Separable (next :: rest)

theorem fill_cons {rest : List String} (h : rest ≠ []) (gap : Nat → String) (chunk : String)
    (index : Nat) :
    interleave.fill gap (chunk :: rest) index =
      chunk :: gap index :: interleave.fill gap rest (index + 1) := by
  cases rest with
  | nil => exact absurd rfl h
  | cons next rest => rfl

theorem pieces_fill {chunks : List String} (hne : chunks ≠ []) (h : Separable chunks)
    (index : Nat) :
    Marker.pieces 0 (String.join (interleave.fill Marker.token chunks index)).toList =
      (interleave.fill Marker.token chunks index).map String.toList := by
  induction chunks generalizing index with
  | nil => exact absurd rfl hne
  | cons chunk rest ih =>
    cases rest with
    | nil => simpa [interleave.fill] using Marker.pieces_of_no_marker h
    | cons next rest =>
      have hne := List.cons_ne_nil next rest
      have hrest := ih hne h.2 (index + 1)
      rw [fill_cons hne, String.join_cons, String.join_cons, String.toList_append,
        String.toList_append, Marker.pieces_append_token h.1, hrest]
      rfl

theorem split_tokens {chunks : List String} (hne : chunks ≠ []) (h : Separable chunks) :
    Marker.split (String.join (tokens chunks)) = tokens chunks := by
  rw [Marker.split, tokens, interleave, pieces_fill hne h, List.map_map]
  simp [Function.comp_def]

end Template

end ScopedStyles
