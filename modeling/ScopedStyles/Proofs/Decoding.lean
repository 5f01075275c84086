import ScopedStyles.Proofs.Markers

namespace ScopedStyles

namespace Text

theorem dropPlus_append {sign digits : List Char} (hsign : sign = [] ∨ sign = ['+'])
    (hdigits : ∀ c ∈ digits, c.isDigit = true) :
    readIndex?.dropPlus (sign ++ digits) = digits := by
  rcases hsign with rfl | rfl
  · rw [List.nil_append]
    unfold readIndex?.dropPlus
    split
    · exact absurd (hdigits '+' List.mem_cons_self) (by decide)
    · rfl
  · rfl

theorem exists_sign (text : List Char) :
    ∃ sign, (sign = [] ∨ sign = ['+']) ∧ text = sign ++ readIndex?.dropPlus text := by
  unfold readIndex?.dropPlus
  split
  · exact ⟨['+'], .inr rfl, rfl⟩
  · exact ⟨[], .inl rfl, rfl⟩

theorem readIndex?_eq_some_iff {text : List Char} {number : Nat} :
    readIndex? text = some number ↔ number < UInt64.size ∧
      ∃ sign digits, (sign = [] ∨ sign = ['+']) ∧ digits ≠ [] ∧
        (∀ c ∈ digits, c.isDigit = true) ∧ text = sign ++ digits ∧ digitsOf digits = number := by
  unfold readIndex?
  constructor
  · intro h
    obtain ⟨sign, hsign, htext⟩ := exists_sign text
    dsimp only at h
    split at h
    · cases h
    · rename_i hread
      simp only [Bool.or_eq_true, Bool.not_eq_true', not_or, Bool.not_eq_false] at hread
      split at h
      · rename_i hbound
        obtain rfl := Option.some.inj h
        exact ⟨hbound, sign, _, hsign, by simpa using hread.1, List.all_eq_true.mp hread.2, htext,
          rfl⟩
      · cases h
  · rintro ⟨hbound, sign, digits, hsign, hne, hdigits, rfl, rfl⟩
    have hread : ¬ (digits.isEmpty || !digits.all Char.isDigit) := by
      simp [hne, List.all_eq_true.mpr hdigits]
    dsimp only
    rw [dropPlus_append hsign hdigits, if_neg hread]
    exact if_pos hbound

end Text

namespace Marker

def Reads (text : String) (number : Nat) : Prop :=
  number < UInt64.size ∧ ∃ sign digits, (sign = [] ∨ sign = ['+']) ∧ digits ≠ [] ∧
    (∀ c ∈ digits, c.isDigit = true) ∧ text.toList = opening ++ (sign ++ digits) ++ closing ∧
    Text.digitsOf digits = number

theorem index?_eq_some_iff {text : String} {number : Nat} :
    index? text = some number ↔ Reads text number := by
  simp only [index?, Option.bind_eq_bind, Option.bind_eq_some_iff, Text.dropFront?_eq_some_iff,
    Text.dropEnd?_eq_some_iff, Text.readIndex?_eq_some_iff]
  constructor
  · rintro ⟨_, htext, _, rfl, hbound, sign, digits, hsign, hne, hdigits, rfl, hvalue⟩
    exact ⟨hbound, sign, digits, hsign, hne, hdigits, by simp [← htext], hvalue⟩
  · rintro ⟨hbound, sign, digits, hsign, hne, hdigits, htext, hvalue⟩
    exact ⟨sign ++ digits ++ closing, by simp [htext], sign ++ digits, rfl, hbound,
      sign, digits, hsign, hne, hdigits, rfl, hvalue⟩

theorem pieces_ne_nil (skip : Nat) (text : List Char) : pieces skip text ≠ [] := by
  induction text generalizing skip with
  | nil => cases skip <;> simp [pieces]
  | cons c rest ih =>
    cases skip with
    | succ n => exact ih n
    | zero =>
      rw [pieces]
      split
      · exact List.cons_ne_nil _ _
      · unfold prepend
        split <;> exact List.cons_ne_nil _ _

theorem prepend_eq_cons {c : Char} {pieces later : List (List Char)} {first : List Char}
    (hne : pieces ≠ []) (h : prepend c pieces = (c :: first) :: later) :
    pieces = first :: later := by
  cases pieces with
  | nil => exact absurd rfl hne
  | cons piece rest =>
    simp only [prepend, List.cons.injEq, true_and] at h
    rw [h.1, h.2]

theorem pieces_cons_inv {c : Char} {text first : List Char} {later : List (List Char)}
    (h : pieces 0 (c :: text) = (c :: first) :: later) :
    atFront? (c :: text) = none ∧ pieces 0 text = first :: later := by
  rw [pieces] at h
  split at h
  · cases h
  · rename_i hnone
    exact ⟨hnone, prepend_eq_cons (pieces_ne_nil 0 text) h⟩

theorem atFront?_eq_none_of_prefix {text whole : List Char} (hpre : text <+: whole)
    (h : atFront? whole = none) : atFront? text = none :=
  atFront?_eq_none_iff.mpr fun marker hmarker hstarts =>
    atFront?_eq_none_iff.mp h marker hmarker (hstarts.trans hpre)

theorem occursInChars_of_first {text tail rest : List Char} {later : List (List Char)}
    (htail : occursInChars tail = false) (h : pieces 0 (text ++ (tail ++ rest)) = text :: later) :
    occursInChars (text ++ tail) = false := by
  induction text with
  | nil => exact htail
  | cons c text ih =>
    rw [List.cons_append] at h
    obtain ⟨hnone, hlater⟩ := pieces_cons_inv h
    have hpre : c :: (text ++ tail) <+: c :: (text ++ (tail ++ rest)) := ⟨rest, by simp⟩
    rw [List.cons_append, occursInChars, atFront?_eq_none_of_prefix hpre hnone, ih hlater]
    rfl

theorem pieces_eq_singleton_iff {text : List Char} :
    pieces 0 text = [text] ↔ occursInChars text = false := by
  refine ⟨fun h => ?_, pieces_of_no_marker⟩
  have h : pieces 0 (text ++ ([] ++ [])) = [text] := by simpa using h
  simpa using occursInChars_of_first rfl h

theorem pieces_append_token_iff {text rest : List Char} {index : Nat} {later : List (List Char)} :
    pieces 0 (text ++ ((token index).toList ++ rest)) = text :: (token index).toList :: later ↔
      occursInChars (text ++ closing) = false ∧ pieces 0 rest = later := by
  constructor
  · intro h
    obtain ⟨back, hback⟩ := token_eq index
    have hfirst : pieces 0 (text ++ (closing ++ ('B' :: back ++ rest))) =
        text :: (token index).toList :: later := by
      rw [← h, hback, List.append_assoc]
    have hfree := occursInChars_of_first (by decide) hfirst
    rw [pieces_append_token hfree] at h
    exact ⟨hfree, by simpa using h⟩
  · rintro ⟨hfree, rfl⟩
    exact pieces_append_token hfree index rest

def OccursIn (text : String) : Prop :=
  ∃ marker, IsMarker marker ∧ marker <:+: text.toList

theorem not_occursIn_iff {text : String} : ¬ OccursIn text ↔ occursInChars text.toList = false := by
  rw [OccursIn, ← occursInChars_iff, Bool.not_eq_true]

end Marker

namespace Template

theorem pieces_fill_iff {chunks : List String} (hne : chunks ≠ []) (index : Nat) :
    Marker.pieces 0 (String.join (interleave.fill Marker.token chunks index)).toList =
        (interleave.fill Marker.token chunks index).map String.toList ↔ Separable chunks := by
  refine ⟨fun h => ?_, fun h => pieces_fill hne h index⟩
  induction chunks generalizing index with
  | nil => exact absurd rfl hne
  | cons chunk rest ih =>
    cases rest with
    | nil => exact Marker.pieces_eq_singleton_iff.mp (by simpa [interleave.fill] using h)
    | cons next rest =>
      have hne := List.cons_ne_nil next rest
      rw [fill_cons hne, String.join_cons, String.join_cons, String.toList_append,
        String.toList_append, List.map_cons, List.map_cons] at h
      obtain ⟨hchunk, hrest⟩ := Marker.pieces_append_token_iff.mp h
      exact ⟨hchunk, ih hne (index + 1) hrest⟩

def recovered (chunks : List String) : List String :=
  Marker.split (String.join (tokens chunks))

theorem recovered_eq_tokens_iff {chunks : List String} (hne : chunks ≠ []) :
    recovered chunks = tokens chunks ↔ Separable chunks := by
  refine ⟨fun h => (pieces_fill_iff hne 0).mp ?_, split_tokens hne⟩
  have hlists := congrArg (List.map String.toList) h
  simpa [recovered, Marker.split, Function.comp_def, tokens, interleave] using hlists

theorem separable_append_singleton (before : List String) (last : String) :
    Separable (before ++ [last]) ↔
      (∀ chunk ∈ before, ¬ Marker.OccursIn (chunk ++ "__")) ∧ ¬ Marker.OccursIn last := by
  induction before with
  | nil => simp [Separable, Marker.not_occursIn_iff]
  | cons chunk rest ih =>
    have hstep : Separable (chunk :: rest ++ [last]) ↔
        ¬ Marker.OccursIn (chunk ++ "__") ∧ Separable (rest ++ [last]) := by
      rw [Marker.not_occursIn_iff, String.toList_append]
      cases rest <;> rfl
    rw [hstep, ih, List.forall_mem_cons, and_assoc]

theorem length_fill {chunks : List String} (gap : Nat → String) (start : Nat) {count : Nat}
    (h : chunks.length = count + 1) :
    (interleave.fill gap chunks start).length = 2 * count + 1 := by
  induction chunks generalizing start count with
  | nil => cases h
  | cons chunk rest ih =>
    cases count with
    | zero =>
      obtain rfl := List.eq_nil_of_length_eq_zero (Nat.succ.inj h)
      rfl
    | succ count =>
      have hne : rest ≠ [] := List.ne_nil_of_length_eq_add_one (Nat.succ.inj h)
      rw [fill_cons hne, List.length_cons, List.length_cons, ih (start + 1) (Nat.succ.inj h)]
      omega

theorem getElem?_fill_chunk {chunks : List String} (gap : Nat → String) (start index : Nat) :
    (interleave.fill gap chunks start)[2 * index]? = chunks[index]? := by
  induction chunks generalizing start index with
  | nil => rfl
  | cons chunk rest ih =>
    cases rest with
    | nil =>
      cases index with
      | zero => rfl
      | succ index => simp [interleave.fill]
    | cons next rest =>
      rw [fill_cons (List.cons_ne_nil next rest)]
      cases index with
      | zero => rfl
      | succ index => simpa [Nat.mul_succ] using ih (start + 1) index

theorem getElem?_fill_gap {chunks : List String} (gap : Nat → String) (start : Nat) {index : Nat}
    (h : index + 1 < chunks.length) :
    (interleave.fill gap chunks start)[2 * index + 1]? = some (gap (start + index)) := by
  induction chunks generalizing start index with
  | nil => cases h
  | cons chunk rest ih =>
    have hne : rest ≠ [] := List.length_pos_iff.mp (by simp at h; omega)
    rw [fill_cons hne]
    cases index with
    | zero => rfl
    | succ index =>
      have hrest := @ih (start + 1) index (by simpa using h)
      rw [show start + (index + 1) = start + 1 + index by omega]
      simpa [Nat.mul_succ] using hrest

/-- The tokens of a template are recovered exactly if no marker is seen in the last literal text,
nor in another one with the closing behind it. In that case the markers are read back as the
numbers of the expressions. -/
theorem tokens_recovered (before : List String) (last : String) :
    (recovered (before ++ [last]) = tokens (before ++ [last]) ↔
      (∀ chunk ∈ before, ¬ Marker.OccursIn (chunk ++ "__")) ∧ ¬ Marker.OccursIn last) ∧
    (recovered (before ++ [last]) = tokens (before ++ [last]) →
      ∀ index < before.length, index < UInt64.size →
        (recovered (before ++ [last]))[2 * index + 1]?.bind Marker.index? = some index) := by
  have hne : before ++ [last] ≠ [] := by simp
  refine ⟨(recovered_eq_tokens_iff hne).trans (separable_append_singleton before last), ?_⟩
  intro hrecovered index hindex hbound
  have hmarker : (tokens (before ++ [last]))[2 * index + 1]? = some (Marker.token (0 + index)) :=
    getElem?_fill_gap Marker.token 0 (by simpa using hindex)
  rw [Nat.zero_add] at hmarker
  rw [hrecovered, hmarker, Option.bind_some, Marker.index?_token hbound]

theorem tokens_recovered_hostile :
    let before := ["a: __BEMED_VAR_x", "_; b: __BEMED_VAR_"]
    let chunks := before ++ ["__BEMED_VAR_3_"]
    (recovered chunks = tokens chunks ∧ 1 < before.length ∧ 1 < UInt64.size) ∧
      (recovered chunks)[3]?.bind Marker.index? = some 1 ∧
      recovered (["c: __BEMED_VAR_7"] ++ [";"]) ≠ tokens (["c: __BEMED_VAR_7"] ++ [";"]) := by
  obtain ⟨hiff, hindex⟩ :=
    tokens_recovered ["a: __BEMED_VAR_x", "_; b: __BEMED_VAR_"] "__BEMED_VAR_3_"
  have hrecovered := hiff.mpr (by simp only [Marker.not_occursIn_iff]; decide)
  refine ⟨⟨hrecovered, by decide, by decide⟩, hindex hrecovered 1 (by decide) (by decide), ?_⟩
  intro h
  have hfree := ((tokens_recovered ["c: __BEMED_VAR_7"] ";").1.mp h).1 _ List.mem_cons_self
  exact absurd (Marker.not_occursIn_iff.mp hfree) (by decide)

end Template

end ScopedStyles
