namespace ScopedStyles.Text

def replaceFrom (pattern replacement : List Char) : Nat → List Char → List Char
  | _, [] => []
  | skip + 1, _ :: rest => replaceFrom pattern replacement skip rest
  | 0, c :: rest =>
    if pattern.isPrefixOf (c :: rest) then
      replacement ++ replaceFrom pattern replacement (pattern.length - 1) rest
    else
      c :: replaceFrom pattern replacement 0 rest

theorem replaceFrom_eq_drop (pattern replacement : List Char) (skip : Nat) (text : List Char) :
    replaceFrom pattern replacement skip text =
      replaceFrom pattern replacement 0 (text.drop skip) := by
  induction text generalizing skip with
  | nil => cases skip <;> simp [replaceFrom]
  | cons c rest ih =>
    cases skip with
    | zero => rfl
    | succ n => simpa [replaceFrom] using ih n

def replaceAll (pattern replacement text : String) : String :=
  if pattern.isEmpty then text
  else String.ofList (replaceFrom pattern.toList replacement.toList 0 text.toList)

def dropFront? (front text : List Char) : Option (List Char) :=
  front.isPrefixOf? text

def dropEnd? (ending text : List Char) : Option (List Char) :=
  (ending.reverse.isPrefixOf? text.reverse).map List.reverse

end ScopedStyles.Text
