import ScopedStyles.Proofs.Cuts
import ScopedStyles.Proofs.RawTemplates

namespace ScopedStyles

open JavaScript Expansion RawTemplates

namespace Marker

def Spells (sign : List Char) (text : String) (number : Nat) : Prop :=
  ∃ digits, digits ≠ [] ∧ (∀ c ∈ digits, c.isDigit = true) ∧
    text.toList = opening ++ (sign ++ digits) ++ closing ∧ Text.digitsOf digits = number

variable {text : String} {number : Nat}

theorem reads_iff : Reads text number ↔
    number < UInt64.size ∧ (Spells [] text number ∨ Spells ['+'] text number) := by
  refine and_congr_right fun _ => ⟨?_, ?_⟩
  · rintro ⟨sign, digits, rfl | rfl, hdigits⟩
    · exact .inl ⟨digits, hdigits⟩
    · exact .inr ⟨digits, hdigits⟩
  · rintro (⟨digits, hdigits⟩ | ⟨digits, hdigits⟩)
    · exact ⟨[], digits, .inl rfl, hdigits⟩
    · exact ⟨['+'], digits, .inr rfl, hdigits⟩

theorem isMarker_iff_spells : IsMarker text.toList ↔ ∃ number, Spells [] text number := by
  constructor
  · rintro ⟨digits, hne, hdigits, htext⟩
    exact ⟨_, digits, hne, hdigits, htext, rfl⟩
  · rintro ⟨_, digits, hne, hdigits, htext, -⟩
    exact ⟨digits, hne, hdigits, htext⟩

theorem Spells.unique {sign : List Char} {other : Nat} (h : Spells sign text number)
    (h' : Spells sign text other) : number = other := by
  obtain ⟨digits, -, -, htext, rfl⟩ := h
  obtain ⟨digits', -, -, htext', rfl⟩ := h'
  have hdigits := List.append_cancel_right (htext.symm.trans htext')
  rw [List.append_cancel_left (List.append_cancel_left hdigits)]

-- A marker has no sign, and is longer than what is in front of the sign and of other characters
-- than what is behind.
theorem Spells.not_occursIn (h : Spells ['+'] text number) : ¬ OccursIn text := by
  obtain ⟨digits, -, hdigits, htext, -⟩ := h
  rintro ⟨marker, hmarker, hpart⟩
  obtain ⟨inner, -, hinner, rfl⟩ := hmarker
  have hsign : '+' ∉ opening ++ inner ++ closing := by
    simp only [List.mem_append, not_or]
    exact ⟨⟨by decide, fun hmem => absurd (hinner _ hmem) (by decide)⟩, by decide⟩
  have htext : text.toList = opening ++ '+' :: (digits ++ closing) := by simp [htext]
  rw [htext] at hpart
  rcases Text.infix_append_cons hsign hpart with hfront | hback
  · have hlength := hfront.length_le
    have hclosing : 0 < closing.length := by decide
    simp only [List.length_append] at hlength
    omega
  · have hopening : 'B' ∈ opening := by decide
    have hletter : 'B' ∈ digits ++ closing :=
      hback.subset (List.mem_append_left _ (List.mem_append_left _ hopening))
    rcases List.mem_append.mp hletter with hdigit | hclosing
    · exact absurd (hdigits _ hdigit) (by decide)
    · exact absurd hclosing (by decide)

theorem split_eq_self_iff : split text = [text] ↔ ¬ OccursIn text := by
  have hlists : split text = [text] ↔ pieces 0 text.toList = [text.toList] := by
    rw [split, ← List.map_inj_right (f := String.toList) (fun _ _ => String.toList_inj.mp)]
    simp [Function.comp_def]
  rw [hlists, pieces_eq_singleton_iff, not_occursIn_iff]

theorem split_eq_marker_iff : split text = ["", text, ""] ↔ IsMarker text.toList := by
  constructor
  · intro h
    exact @isMarker_of_split text text 0 (by rw [h]; rfl)
  · intro h
    have hpieces := pieces_marker h []
    rw [List.append_nil] at hpieces
    simp [split, hpieces, pieces]

theorem index?_eq_some_iff_split (hbound : number < UInt64.size) :
    index? text = some number ↔
      split text = ["", text, ""] ∧ Spells [] text number ∨
        split text = [text] ∧ Spells ['+'] text number := by
  rw [index?_eq_some_iff, reads_iff, split_eq_marker_iff, split_eq_self_iff]
  constructor
  · rintro ⟨-, hplain | hsigned⟩
    · exact .inl ⟨isMarker_iff_spells.mpr ⟨number, hplain⟩, hplain⟩
    · exact .inr ⟨hsigned.not_occursIn, hsigned⟩
  · rintro (⟨-, hplain⟩ | ⟨-, hsigned⟩)
    · exact ⟨hbound, .inl hplain⟩
    · exact ⟨hbound, .inr hsigned⟩

variable {holes : List Tree} {piece : String} {place : Nat}

theorem element_spells {sign : List Char} (hsign : sign = [] ∨ sign = ['+'])
    (hbound : holes.length ≤ UInt64.size) (h : (split text)[place]? = some piece)
    (hspells : Spells sign piece number) (hnumber : number < holes.length) :
    (elements holes (split text))[place]? = holes[number]? := by
  obtain ⟨digits, hdigits⟩ := hspells
  exact element_reads h ⟨hnumber.trans_le hbound, sign, digits, hsign, hdigits⟩ hnumber

theorem element_marker (hbound : holes.length ≤ UInt64.size)
    (h : (split text)[2 * place + 1]? = some piece) :
    ∃ number, Spells [] piece number ∧
      (elements holes (split text))[2 * place + 1]? = some (holes[number]?.getD (.text piece)) := by
  obtain ⟨number, hspells⟩ := isMarker_iff_spells.mp (isMarker_of_split h)
  refine ⟨number, hspells, ?_⟩
  by_cases hnumber : number < holes.length
  · rw [element_spells (.inl rfl) hbound h hspells hnumber, List.getElem?_eq_getElem hnumber]
    rfl
  · have hliteral : IsLiteral holes piece := isLiteral_iff.mpr fun other hother hreads => by
      rcases (reads_iff.mp hreads).2 with hplain | hsigned
      · exact hnumber (hspells.unique hplain ▸ hother)
      · exact hsigned.not_occursIn ⟨_, isMarker_of_split h, List.infix_rfl⟩
    rw [element_literal h hliteral, List.getElem?_eq_none (Nat.not_lt.mp hnumber)]
    rfl

/-- The two ways to recognise a marker agree, but for a plus sign: a text stands for an expression
if it is cut out as the marker of its number, or would be were the sign left out. So a marker in
range always gives way to its expression, and a literal text stays unless it is such a marker with
a sign. -/
theorem recognised_alike (text : String) (holes : List Tree) (hbound : holes.length ≤ UInt64.size) :
    (∀ number < holes.length, index? text = some number ↔
      split text = ["", text, ""] ∧ Spells [] text number ∨
        split text = [text] ∧ Spells ['+'] text number) ∧
    (∀ place marker, (split text)[2 * place + 1]? = some marker →
      ∃ number, Spells [] marker number ∧ (elements holes (split text))[2 * place + 1]? =
        some (holes[number]?.getD (.text marker))) ∧
    (∀ place literal, (split text)[2 * place]? = some literal →
      (∀ number < holes.length, ¬ Spells ['+'] literal number) →
      (elements holes (split text))[2 * place]? = some (.text literal)) ∧
    (∀ place literal, (split text)[2 * place]? = some literal →
      ∀ number < holes.length, Spells ['+'] literal number →
      (elements holes (split text))[2 * place]? = holes[number]?) := by
  refine ⟨fun number hnumber => index?_eq_some_iff_split (hnumber.trans_le hbound),
    fun _ _ => element_marker hbound, ?_, ?_⟩
  · intro place literal hliteral hunsigned
    refine element_literal hliteral (isLiteral_iff.mpr fun number hnumber hreads => ?_)
    rcases (reads_iff.mp hreads).2 with hplain | hsigned
    · have hmarker := isMarker_iff_spells.mpr ⟨number, hplain⟩
      exact not_occursIn_of_split hliteral ⟨_, hmarker, List.infix_rfl⟩
    · exact hunsigned number hnumber hsigned
  · intro place literal hliteral number hnumber hsigned
    exact element_spells (.inr rfl) hbound hliteral hsigned hnumber

theorem recognised_alike_padded :
    let text := "__BEMED_VAR_0001__"
    let holes : List Tree := [.identifier "tone", .identifier "gap"]
    holes.length ≤ UInt64.size ∧ index? text = some 1 ∧ split text = ["", text, ""] ∧
      Spells [] text 1 ∧ (elements holes (split text))[1]? = some (.identifier "gap") := by
  intro text holes
  have hbound : holes.length ≤ UInt64.size := by decide
  obtain ⟨hindex, hmarkers, -, -⟩ := recognised_alike text holes hbound
  have hread : index? text = some 1 := by decide
  rcases (hindex 1 (by decide)).mp hread with ⟨hsplit, hspells⟩ | ⟨hsplit, -⟩
  · obtain ⟨number, hnumber, helement⟩ := hmarkers 0 text (by rw [hsplit]; rfl)
    obtain rfl := hnumber.unique hspells
    exact ⟨hbound, hread, hsplit, hspells, helement⟩
  · exact absurd hsplit (by decide)

theorem signed_text_replaced :
    (¬ ∀ (text : String) (count : Nat), count < UInt64.size →
      ((∃ number < count, index? text = some number) ↔
        split text = ["", text, ""] ∧ ∃ number < count, Spells [] text number)) ∧
      let text := "__BEMED_VAR_+0__"
      split text = [text] ∧ elements [.identifier "size"] (split text) = [.identifier "size"] := by
  have hsplit : split "__BEMED_VAR_+0__" = ["__BEMED_VAR_+0__"] := by decide
  refine ⟨fun halike => ?_, hsplit, ?_⟩
  · have hread := (halike "__BEMED_VAR_+0__" 1 (by decide)).mp ⟨0, by decide, by decide⟩
    exact absurd (hsplit.symm.trans hread.1) (by decide)
  · rw [hsplit]
    rfl

end Marker

end ScopedStyles
