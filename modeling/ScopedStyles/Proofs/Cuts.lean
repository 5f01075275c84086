import ScopedStyles.Proofs.Decoding

namespace ScopedStyles.Marker

def FirstIn (text before marker : List Char) : Prop :=
  IsMarker marker ∧ before ++ marker <+: text ∧
    ∀ front other, IsMarker other → front ++ other <+: text →
      before.length ≤ front.length ∧ (front.length = before.length → other = marker)

inductive Cut : List Char → List (List Char) → Prop
  | whole {text} : (∀ marker, IsMarker marker → ¬ marker <:+: text) → Cut text [text]
  | marker {before marker after pieces} : FirstIn (before ++ (marker ++ after)) before marker →
      Cut after pieces → Cut (before ++ (marker ++ after)) (before :: marker :: pieces)

variable {text marker : List Char} {pieces : List (List Char)}

theorem IsMarker.firstIn (hmarker : IsMarker marker) (h : marker <+: text) :
    FirstIn text [] marker := by
  refine ⟨hmarker, h, fun front other hother hstarts => ⟨Nat.zero_le _, fun hlength => ?_⟩⟩
  obtain rfl := List.eq_nil_of_length_eq_zero hlength
  have hfirst := atFront?_eq_some_iff.mpr ⟨hother, hstarts⟩
  exact Option.some.inj (hfirst.symm.trans (atFront?_eq_some_iff.mpr ⟨hmarker, h⟩))

theorem FirstIn.cons {before : List Char} {c : Char} (hnone : atFront? (c :: text) = none)
    (h : FirstIn text before marker) : FirstIn (c :: text) (c :: before) marker := by
  obtain ⟨hmarker, hstarts, hfirst⟩ := h
  refine ⟨hmarker, List.cons_prefix_cons.mpr ⟨rfl, hstarts⟩, fun front other hother hfront => ?_⟩
  cases front with
  | nil => exact absurd hfront (atFront?_eq_none_iff.mp hnone other hother)
  | cons d front =>
    obtain ⟨hlength, halone⟩ := hfirst front other hother (List.cons_prefix_cons.mp hfront).2
    exact ⟨Nat.succ_le_succ hlength, fun heq => halone (Nat.succ.inj heq)⟩

theorem FirstIn.literal {before : List Char} (h : FirstIn text before marker) :
    ∀ other, IsMarker other → ¬ other <:+: before := by
  rintro other hother ⟨front, back, hbefore⟩
  have hfront : front ++ other <+: text :=
    (List.IsPrefix.trans ⟨back, hbefore⟩ (List.prefix_append before marker)).trans h.2.1
  have hlength := congrArg List.length hbefore
  have hahead := (h.2.2 front other hother hfront).1
  have hlong := List.length_pos_iff.mpr hother.ne_nil
  simp only [List.length_append] at hlength
  omega

theorem Cut.cons {c : Char} (hnone : atFront? (c :: text) = none) (h : Cut text pieces) :
    Cut (c :: text) (prepend c pieces) := by
  cases h with
  | whole hfree =>
    refine .whole fun marker hmarker hpart => ?_
    rcases List.infix_cons_iff.mp hpart with hstarts | hpart
    · exact atFront?_eq_none_iff.mp hnone marker hmarker hstarts
    · exact hfree marker hmarker hpart
  | marker hfirst hafter => exact .marker (hfirst.cons hnone) hafter

theorem cut_pieces (skip : Nat) (text : List Char) : Cut (text.drop skip) (Marker.pieces skip text) := by
  induction text generalizing skip with
  | nil =>
    have hfree : ∀ marker, IsMarker marker → ¬ marker <:+: [] := fun marker hmarker hpart =>
      hmarker.ne_nil (List.infix_nil.mp hpart)
    cases skip <;> exact .whole hfree
  | cons c rest ih =>
    cases skip with
    | succ skip => exact ih skip
    | zero =>
      rw [List.drop_zero, Marker.pieces]
      split
      · rename_i marker hfront
        obtain ⟨hmarker, hstarts⟩ := atFront?_eq_some_iff.mp hfront
        obtain ⟨d, tail, rfl⟩ := List.exists_cons_of_ne_nil hmarker.ne_nil
        obtain ⟨after, hafter⟩ := hstarts
        obtain ⟨rfl, rfl⟩ : d = c ∧ tail ++ after = rest := by simpa using hafter
        have hrest := ih tail.length
        rw [List.drop_left] at hrest
        exact @Cut.marker [] (d :: tail) after _ (hmarker.firstIn ⟨after, rfl⟩) hrest
      · rename_i hnone
        exact (ih 0).cons hnone

namespace Cut

theorem length_odd (h : Cut text pieces) : pieces.length % 2 = 1 := by
  induction h with
  | whole _ => rfl
  | marker _ _ ih => simpa [Nat.add_assoc] using ih

theorem flatten (h : Cut text pieces) : pieces.flatten = text := by
  induction h with
  | whole _ => exact List.flatten_singleton
  | marker _ _ ih => rw [List.flatten_cons, List.flatten_cons, ih]

theorem literal (h : Cut text pieces) {index : Nat} {piece : List Char}
    (hpiece : pieces[2 * index]? = some piece) : ∀ marker, IsMarker marker → ¬ marker <:+: piece := by
  induction h generalizing index with
  | whole hfree =>
    cases index with
    | zero => exact Option.some.inj hpiece ▸ hfree
    | succ index => cases hpiece
  | marker hfirst _ ih =>
    cases index with
    | zero => exact Option.some.inj hpiece ▸ hfirst.literal
    | succ index => exact ih hpiece

theorem first (h : Cut text pieces) {index : Nat} {piece : List Char}
    (hpiece : pieces[2 * index + 1]? = some piece) :
    ∃ before, pieces[2 * index]? = some before ∧
      FirstIn (pieces.drop (2 * index)).flatten before piece := by
  induction h generalizing index with
  | whole _ => cases index <;> cases hpiece
  | @marker before marker after pieces hfirst hafter ih =>
    cases index with
    | zero =>
      obtain rfl := Option.some.inj hpiece
      refine ⟨before, rfl, ?_⟩
      rwa [List.drop_zero, List.flatten_cons, List.flatten_cons, hafter.flatten]
    | succ index => exact ih hpiece

theorem one_lt_length_iff (h : Cut text pieces) :
    1 < pieces.length ↔ ∃ marker, IsMarker marker ∧ marker <:+: text := by
  cases h with
  | whole hfree => simpa using hfree
  | @marker before marker after pieces hfirst hafter =>
    have hpart : marker <:+: before ++ (marker ++ after) := ⟨before, after, by simp⟩
    exact iff_of_true (by simp) ⟨marker, hfirst.1, hpart⟩

end Cut

theorem cut_split (text : String) : Cut text.toList ((split text).map String.toList) := by
  have hcut := cut_pieces 0 text.toList
  rw [List.drop_zero] at hcut
  simpa [split, Function.comp_def] using hcut

theorem getElem?_split {text piece : String} {place : Nat}
    (h : (split text)[place]? = some piece) :
    ((split text).map String.toList)[place]? = some piece.toList := by
  rw [List.getElem?_map, h, Option.map_some]

theorem not_occursIn_of_split {text literal : String} {index : Nat}
    (h : (split text)[2 * index]? = some literal) : ¬ OccursIn literal := by
  rintro ⟨marker, hmarker, hpart⟩
  exact (cut_split text).literal (getElem?_split h) marker hmarker hpart

theorem isMarker_of_split {text marker : String} {index : Nat}
    (h : (split text)[2 * index + 1]? = some marker) : IsMarker marker.toList := by
  obtain ⟨_, -, hfirst⟩ := (cut_split text).first (getElem?_split h)
  exact hfirst.1

theorem toList_join (pieces : List String) :
    (String.join pieces).toList = (pieces.map String.toList).flatten := by
  rw [String.toList_join, List.flatMap_def]

theorem split_exact (text : String) :
    (split text).length % 2 = 1 ∧ String.join (split text) = text ∧
      (∀ index literal, (split text)[2 * index]? = some literal → ¬ OccursIn literal) ∧
      (∀ index marker, (split text)[2 * index + 1]? = some marker →
        IsMarker marker.toList ∧ ∃ literal, (split text)[2 * index]? = some literal ∧
          FirstIn (String.join ((split text).drop (2 * index))).toList literal.toList
            marker.toList) ∧
      (occursIn text = true ↔ 1 < (split text).length) := by
  have hcut := cut_split text
  refine ⟨?_, ?_, ?_, ?_, ?_⟩
  · simpa using hcut.length_odd
  · rw [← String.toList_inj, toList_join, hcut.flatten]
  · exact fun _ _ => not_occursIn_of_split
  · intro index marker hmarker
    obtain ⟨before, hbefore, hfirst⟩ := hcut.first (getElem?_split hmarker)
    rw [List.getElem?_map] at hbefore
    obtain ⟨literal, hliteral, rfl⟩ := Option.map_eq_some_iff.mp hbefore
    rw [← List.map_drop, ← toList_join] at hfirst
    exact ⟨hfirst.1, literal, hliteral, hfirst⟩
  · rw [occursIn, occursInChars_iff, ← hcut.one_lt_length_iff, List.length_map]

end ScopedStyles.Marker
