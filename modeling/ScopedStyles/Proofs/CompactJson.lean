import Mathlib.Data.List.Basic
import Mathlib.Tactic.SplitIfs
import ScopedStyles.Json

namespace ScopedStyles.Json

mutual

def compact : Json → List Char
  | .null => ['n', 'u', 'l', 'l']
  | .bool true => ['t', 'r', 'u', 'e']
  | .bool false => ['f', 'a', 'l', 's', 'e']
  | .number literal => literal.toList
  | .string value => (quote value).toList
  | .array [] => ['[', ']']
  | .array (item :: more) => '[' :: (compact item ++ compactItems more)
  | .object [] => ['\x7b', '\x7d']
  | .object ((name, value) :: more) =>
    '\x7b' :: ((quote name).toList ++ ':' :: (compact value ++ compactFields more))

def compactItems : List Json → List Char
  | [] => [']']
  | item :: more => ',' :: (compact item ++ compactItems more)

def compactFields : List (String × Json) → List Char
  | [] => ['\x7d']
  | (name, value) :: more =>
    ',' :: ((quote name).toList ++ ':' :: (compact value ++ compactFields more))

end

def Ends : List Char → Prop
  | [] => True
  | c :: _ => c = ',' ∨ c = ']' ∨ c = '\x7d'

structure Numeral (literal : String) : Prop where
  starts : ∃ c rest, literal.toList = c :: rest ∧ (c = '-' ∨ c.isDigit = true)
  read : ∀ rest, Ends rest → readNumber? (literal.toList ++ rest) = some rest

inductive Legible : Nat → Json → Prop
  | null {depth : Nat} : Legible depth .null
  | bool {depth : Nat} (value : Bool) : Legible depth (.bool value)
  | number {depth : Nat} {literal : String} (h : Numeral literal) : Legible depth (.number literal)
  | string {depth : Nat} (value : String) : Legible depth (.string value)
  | array {depth : Nat} {items : List Json} (h : ∀ item ∈ items, Legible depth item) :
    Legible (depth + 1) (.array items)
  | object {depth : Nat} {fields : List (String × Json)}
    (h : ∀ field ∈ fields, Legible depth field.2) : Legible (depth + 1) (.object fields)

theorem takeWhile_ends {rest : List Char} (h : Ends rest) : rest.takeWhile Char.isDigit = [] := by
  cases rest with
  | nil => rfl
  | cons c rest => rcases h with rfl | rfl | rfl <;> simp [Char.isDigit]

theorem dropWhile_ends {rest : List Char} (h : Ends rest) : rest.dropWhile Char.isDigit = rest := by
  cases rest with
  | nil => rfl
  | cons c rest => rcases h with rfl | rfl | rfl <;> simp [Char.isDigit]

theorem readExponent?_ends {rest : List Char} (h : Ends rest) :
    readNumber?.readExponent? rest = some (0, rest) := by
  cases rest with
  | nil => rfl
  | cons c rest => rcases h with rfl | rfl | rfl <;> rfl

theorem Scaled.isTooLarge_of_exponent {scaled : Scaled} (h : scaled.exponent ≤ 0) :
    scaled.isTooLarge = false := by
  have hexponent : decide (scaled.exponent > 0) = false := decide_eq_false (by omega)
  unfold isTooLarge
  rw [hexponent, Bool.and_false, Bool.false_and]

theorem ofDigits_digit {c : Char} (h : c.isDigit = true) :
    (Scaled.ofDigits [c] []).exponent = 0 := by
  have hle : c.toNat ≤ 57 := by
    simp only [Char.isDigit, Bool.and_eq_true, decide_eq_true_eq] at h
    exact h.2
  have hfits : Scaled.fits {} c = true := by
    simp [Scaled.fits]
    omega
  simp [Scaled.ofDigits, Scaled.addWhole, hfits]

theorem numeral_digit {c : Char} (h : c.isDigit = true) : Numeral (String.singleton c) where
  starts := ⟨c, [], by simp, .inr h⟩
  read rest hends := by
    have hsign : c ≠ '-' := by
      rintro rfl
      exact absurd h (by decide)
    have hsmall := Scaled.isTooLarge_of_exponent (Int.le_of_eq (ofDigits_digit h))
    unfold readNumber?
    simp [h, hsign, takeWhile_ends hends, dropWhile_ends hends, readExponent?_ends hends, hsmall]
    split
    · exact absurd hends (by simp [Ends])
    · rfl

theorem readUnit?_control {n : Nat} (h : n < 0x20) (rest : List Char) :
    readUnit? ('0' :: '0' :: Text.hexDigit (n / 16) :: Text.hexDigit (n % 16) :: rest) =
      some (n, rest) := by
  have hdigits : ∀ n < 0x20,
      ['0', '0', Text.hexDigit (n / 16), Text.hexDigit (n % 16)].all Text.isHexDigit = true ∧
        Text.hexNumber ['0', '0', Text.hexDigit (n / 16), Text.hexDigit (n % 16)] = n := by
    decide
  obtain ⟨hall, hvalue⟩ := hdigits n h
  rw [readUnit?, if_pos hall, hvalue]

theorem readUnicode?_control {c : Char} (h : c.toNat < 0x20) (rest : List Char) :
    readUnicode? ('0' :: '0' :: Text.hexDigit (c.toNat / 16) ::
      Text.hexDigit (c.toNat % 16) :: rest) = some (c, rest) := by
  have hlow : ¬ (0xdc00 ≤ c.toNat ∧ c.toNat ≤ 0xdfff) := by omega
  have hhigh : ¬ (0xd800 ≤ c.toNat ∧ c.toNat ≤ 0xdbff) := by omega
  rw [readUnicode?, readUnit?_control h, Option.bind_eq_bind, Option.bind_some]
  simp only [if_neg hlow, if_neg hhigh, Char.ofNat_toNat]

theorem readString?_escape (fuel : Nat) (done : List Char) (c : Char) (rest : List Char) :
    readString? (fuel + 1) done (escape c ++ rest) = readString? fuel (c :: done) rest := by
  unfold escape
  split_ifs with hquote hslash hback htab hline hpage hreturn hcontrol
  · simp [readString?, plainEscape?, hquote]
  · simp [readString?, plainEscape?, hslash]
  · simp [readString?, plainEscape?, hback]
  · simp [readString?, plainEscape?, htab]
  · simp [readString?, plainEscape?, hline]
  · simp [readString?, plainEscape?, hpage]
  · simp [readString?, plainEscape?, hreturn]
  · simp [readString?, readUnicode?_control hcontrol]
  · simp [readString?, hquote, hslash, hcontrol]

theorem readString?_escaped (text done rest : List Char) {fuel : Nat} (h : text.length < fuel) :
    readString? fuel done (text.flatMap escape ++ '"' :: rest) =
      some (String.ofList (done.reverse ++ text), rest) := by
  induction text generalizing done fuel with
  | nil =>
    obtain ⟨fuel, rfl⟩ := Nat.exists_eq_succ_of_ne_zero (Nat.ne_zero_of_lt h)
    simp [readString?]
  | cons c text ih =>
    obtain ⟨fuel, rfl⟩ := Nat.exists_eq_succ_of_ne_zero (Nat.ne_zero_of_lt h)
    have hfuel : text.length < fuel := Nat.lt_of_succ_lt_succ h
    rw [List.flatMap_cons, List.append_assoc, readString?_escape, ih (c :: done) hfuel]
    simp

theorem length_le_escaped (text : List Char) : text.length ≤ (text.flatMap escape).length := by
  have hone : ∀ c, 1 ≤ (escape c).length := by
    intro c
    unfold escape
    split_ifs <;> simp
  induction text with
  | nil => exact Nat.zero_le _
  | cons c text ih =>
    have hc := hone c
    rw [List.flatMap_cons, List.length_append, List.length_cons]
    omega

theorem toList_quote (text : String) :
    (quote text).toList = '"' :: (text.toList.flatMap escape ++ ['"']) := by
  simp [quote]

theorem readString?_quoted (text : String) (rest : List Char) :
    readString? ((text.toList.flatMap escape ++ '"' :: rest).length + 1) []
      (text.toList.flatMap escape ++ '"' :: rest) = some (text, rest) := by
  have hlength := length_le_escaped text.toList
  rw [readString?_escaped]
  · simp
  · simp only [List.length_append]
    omega

theorem skipBlanks_cons {c : Char} (h : c ∉ [' ', '\t', '\n', '\r']) (rest : List Char) :
    skipBlanks (c :: rest) = c :: rest := by
  simp only [List.mem_cons, List.not_mem_nil, or_false, not_or] at h
  simp [skipBlanks, h]

theorem ends_compactItems (items : List Json) (rest : List Char) :
    Ends (compactItems items ++ rest) := by
  cases items with
  | nil => exact .inr (.inl rfl)
  | cons item more => exact .inl rfl

theorem ends_compactFields (fields : List (String × Json)) (rest : List Char) :
    Ends (compactFields fields ++ rest) := by
  cases fields with
  | nil => exact .inr (.inr rfl)
  | cons field more => exact .inl rfl

theorem Legible.starts {depth : Nat} {value : Json} (h : Legible depth value) :
    ∃ c rest, compact value = c :: rest ∧ c ∉ [' ', '\t', '\n', '\r', ']'] := by
  cases h with
  | null => exact ⟨_, _, rfl, by decide⟩
  | bool value => cases value <;> exact ⟨_, _, rfl, by decide⟩
  | number h =>
    obtain ⟨c, rest, heq, rfl | hdigit⟩ := h.starts
    · exact ⟨_, _, heq, by decide⟩
    · refine ⟨_, _, heq, fun hmem => ?_⟩
      simp only [List.mem_cons, List.not_mem_nil, or_false] at hmem
      rcases hmem with rfl | rfl | rfl | rfl | rfl <;> exact absurd hdigit (by decide)
  | string value => exact ⟨_, _, toList_quote value, by decide⟩
  | @array _ items h => cases items <;> exact ⟨_, _, rfl, by decide⟩
  | @object _ fields h => cases fields <;> exact ⟨_, _, rfl, by decide⟩

theorem toList_quote_append (text : String) (rest : List Char) :
    (quote text).toList ++ rest = '"' :: (text.toList.flatMap escape ++ '"' :: rest) := by
  rw [toList_quote, List.cons_append, List.append_assoc, List.singleton_append]

theorem readValue?_string (fuel depth : Nat) (value : String) (rest : List Char) :
    readValue? (fuel + 1) depth ((quote value).toList ++ rest) = some (.string value, rest) := by
  rw [toList_quote_append, readValue?, skipBlanks_cons (by decide)]
  simp only [readString?_quoted, Option.map_some]

theorem readValue?_number {literal : String} (h : Numeral literal) (fuel depth : Nat)
    {rest : List Char} (hends : Ends rest) :
    readValue? (fuel + 1) depth (literal.toList ++ rest) = some (.number literal, rest) := by
  obtain ⟨c, tail, heq, hc⟩ := h.starts
  have hread := h.read rest hends
  have hliteral : (literal.toList ++ rest).take ((literal.toList ++ rest).length - rest.length) =
      literal.toList := by
    simp
  have hstarts : c ∉ [' ', '\t', '\n', '\r', 'n', 't', 'f', '"', '[', '\x7b'] := by
    intro hmem
    simp only [List.mem_cons, List.not_mem_nil, or_false] at hmem
    rcases hmem with rfl | rfl | rfl | rfl | rfl | rfl | rfl | rfl | rfl | rfl <;> simp at hc
  simp only [List.mem_cons, List.not_mem_nil, or_false, not_or] at hstarts
  rw [heq, List.cons_append] at hliteral hread ⊢
  rw [readValue?, skipBlanks_cons (by simp [hstarts])]
  -- No other kind of value starts with the first character of a numeral.
  split
  case h_7 => rw [hread, Option.map_some, hliteral, ← heq, String.ofList_toList]
  all_goals simp_all only [List.cons.injEq, false_and]

def ReadsBack (depth : Nat) (value : Json) : Prop :=
  ∀ fuel rest, 2 * (compact value).length ≤ fuel → Ends rest →
    readValue? fuel depth (compact value ++ rest) = some (value, rest)

theorem readItems?_compact {depth : Nat} {item : Json} {more : List Json}
    (hitem : ReadsBack depth item) (hmore : ∀ next ∈ more, ReadsBack depth next)
    (done : List Json) {fuel : Nat}
    (hfuel : 2 * (compact item ++ compactItems more).length ≤ fuel) (rest : List Char) :
    readItems? fuel depth done (compact item ++ (compactItems more ++ rest)) =
      some (.array (done.reverse ++ item :: more), rest) := by
  induction more generalizing item done fuel with
  | nil =>
    simp only [compactItems, List.length_append, List.length_singleton] at hfuel
    obtain ⟨fuel, rfl⟩ : ∃ steps, fuel = steps + 1 := ⟨fuel - 1, by omega⟩
    rw [readItems?, hitem fuel _ (by omega) (ends_compactItems [] rest)]
    simp [compactItems, skipBlanks_cons]
  | cons next more ih =>
    simp only [compactItems, List.length_append, List.length_cons] at hfuel
    obtain ⟨fuel, rfl⟩ : ∃ steps, fuel = steps + 1 := ⟨fuel - 1, by omega⟩
    obtain ⟨hnext, hlater⟩ := List.forall_mem_cons.mp hmore
    have hleft : 2 * (compact next ++ compactItems more).length ≤ fuel := by
      simp only [List.length_append]
      omega
    have hrest := ih hnext hlater (item :: done) hleft
    rw [readItems?, hitem fuel _ (by omega) (ends_compactItems (next :: more) rest)]
    simp [compactItems, skipBlanks_cons, hrest]

section Fields

variable {fuel depth : Nat} {done : List (String × Json)} {name : String} {value : Json}
  {text rest : List Char}

theorem readFields?_comma (h : readValue? fuel depth text = some (value, ',' :: rest)) :
    readFields? (fuel + 1) depth done ((quote name).toList ++ ':' :: text) =
      readFields? fuel depth ((name, value) :: done) rest := by
  rw [toList_quote_append, readFields?, skipBlanks_cons (by decide)]
  simp only [readString?_quoted, Option.bind_eq_bind, Option.bind_some]
  simp [skipBlanks_cons, h]

theorem readFields?_close (h : readValue? fuel depth text = some (value, '\x7d' :: rest)) :
    readFields? (fuel + 1) depth done ((quote name).toList ++ ':' :: text) =
      some (.object (done.reverse ++ [(name, value)]), rest) := by
  rw [toList_quote_append, readFields?, skipBlanks_cons (by decide)]
  simp only [readString?_quoted, Option.bind_eq_bind, Option.bind_some]
  simp [skipBlanks_cons, h]

end Fields

theorem readFields?_compact {depth : Nat} {name : String} {value : Json}
    {more : List (String × Json)} (hvalue : ReadsBack depth value)
    (hmore : ∀ next ∈ more, ReadsBack depth next.2) (done : List (String × Json)) {fuel : Nat}
    (hfuel : 2 * (compact value ++ compactFields more).length ≤ fuel) (rest : List Char) :
    readFields? fuel depth done
        ((quote name).toList ++ ':' :: (compact value ++ (compactFields more ++ rest))) =
      some (.object (done.reverse ++ (name, value) :: more), rest) := by
  induction more generalizing name value done fuel with
  | nil =>
    simp only [compactFields, List.length_append, List.length_singleton] at hfuel
    obtain ⟨fuel, rfl⟩ : ∃ steps, fuel = steps + 1 := ⟨fuel - 1, by omega⟩
    exact readFields?_close (hvalue fuel _ (by omega) (ends_compactFields [] rest))
  | cons next more ih =>
    simp only [compactFields, List.length_append, List.length_cons] at hfuel
    obtain ⟨fuel, rfl⟩ : ∃ steps, fuel = steps + 1 := ⟨fuel - 1, by omega⟩
    obtain ⟨hnext, hlater⟩ := List.forall_mem_cons.mp hmore
    have hleft : 2 * (compact next.2 ++ compactFields more).length ≤ fuel := by
      simp only [List.length_append]
      omega
    have hread := hvalue fuel _ (by omega) (ends_compactFields (next :: more) rest)
    have hrest := @ih next.1 next.2 hnext hlater ((name, value) :: done) fuel hleft
    rw [readFields?_comma hread]
    simpa using hrest

theorem readValue?_items (fuel depth : Nat) {c : Char} (hc : c ∉ [' ', '\t', '\n', '\r', ']'])
    (text : List Char) :
    readValue? (fuel + 1) (depth + 1) ('[' :: c :: text) =
      readItems? fuel depth [] (c :: text) := by
  have htext : skipBlanks (c :: text) = c :: text :=
    skipBlanks_cons (fun hmem => hc (List.mem_append_left [']'] hmem)) text
  have hclose : c ≠ ']' := fun heq => hc (by simp [heq])
  simp [readValue?, skipBlanks_cons, htext, hclose]

theorem readValue?_fields (fuel depth : Nat) (text : List Char) :
    readValue? (fuel + 1) (depth + 1) ('\x7b' :: '"' :: text) =
      readFields? fuel depth [] ('"' :: text) := by
  simp [readValue?, skipBlanks_cons]

theorem Legible.readsBack_of_succ {depth : Nat} {value : Json} (h : Legible depth value)
    (hread : ∀ fuel rest, 2 * (compact value).length ≤ fuel + 1 → Ends rest →
      readValue? (fuel + 1) depth (compact value ++ rest) = some (value, rest)) :
    ReadsBack depth value := by
  intro fuel rest hfuel hends
  obtain ⟨c, tail, heq, -⟩ := h.starts
  have hpos : 0 < (compact value).length := by simp [heq]
  obtain ⟨fuel, rfl⟩ : ∃ steps, fuel = steps + 1 := ⟨fuel - 1, by omega⟩
  exact hread fuel rest hfuel hends

theorem Legible.readsBack {depth : Nat} {value : Json} (h : Legible depth value) :
    ReadsBack depth value := by
  -- By induction on what makes the value legible, so that each list comes with its members.
  induction h with
  | null =>
    refine Legible.null.readsBack_of_succ fun fuel rest _ _ => ?_
    simp [compact, readValue?, skipBlanks_cons]
  | bool value =>
    refine (Legible.bool value).readsBack_of_succ fun fuel rest _ _ => ?_
    cases value <;> simp [compact, readValue?, skipBlanks_cons]
  | number h =>
    exact (Legible.number h).readsBack_of_succ fun fuel rest _ hends =>
      readValue?_number h fuel _ hends
  | string value =>
    exact (Legible.string value).readsBack_of_succ fun fuel rest _ _ =>
      readValue?_string fuel _ value rest
  | @array depth items h ih =>
    refine (Legible.array h).readsBack_of_succ fun fuel rest hfuel _ => ?_
    cases items with
    | nil => simp [compact, readValue?, skipBlanks_cons]
    | cons item more =>
      obtain ⟨hitem, hmore⟩ := List.forall_mem_cons.mp ih
      obtain ⟨c, tail, heq, hc⟩ := (h item List.mem_cons_self).starts
      have hleft : 2 * (compact item ++ compactItems more).length ≤ fuel := by
        simp only [compact, List.length_cons] at hfuel
        omega
      have hitems := readItems?_compact hitem hmore [] hleft rest
      rw [heq, List.cons_append] at hitems
      simp only [compact, heq, List.cons_append, List.append_assoc]
      rw [readValue?_items fuel depth hc, hitems]
      rfl
  | @object depth fields h ih =>
    refine (Legible.object h).readsBack_of_succ fun fuel rest hfuel _ => ?_
    cases fields with
    | nil => simp [compact, readValue?, skipBlanks_cons]
    | cons field more =>
      obtain ⟨hvalue, hmore⟩ := List.forall_mem_cons.mp ih
      have hleft : 2 * (compact field.2 ++ compactFields more).length ≤ fuel := by
        simp only [compact, List.length_cons, List.length_append] at hfuel ⊢
        omega
      have hfields :=
        @readFields?_compact depth field.1 field.2 more hvalue hmore [] fuel hleft rest
      rw [toList_quote_append] at hfields
      simp only [compact, toList_quote_append, List.cons_append, List.append_assoc]
      rw [readValue?_fields, hfields]
      rfl

theorem read?_compact {value : Json} (h : Legible depthLimit value) :
    read? (String.ofList (compact value)) = some value := by
  have hread := h.readsBack (2 * (compact value).length + 2) [] (by omega) trivial
  rw [List.append_nil] at hread
  rw [read?, String.toList_ofList]
  dsimp only
  rw [hread]
  rfl

end ScopedStyles.Json
