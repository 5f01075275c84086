import ScopedStyles.Stylesheet.Image

namespace ScopedStyles.Stylesheet.Reader

def keywordOf (words : List String) : Reader Value :=
  Value.ofText <$> oneOf words

def wordValue (name : String) : Reader Value := keywordOf [name]

def colorValue : Reader Value := Value.ofColor <$> color

def lengthValue : Reader Value := Value.ofMeasure <$> length

def lengthPercentageValue : Reader Value := Value.ofMeasure <$> lengthPercentage

def measureOrAuto : Reader Value := wordValue "auto" <|> lengthPercentageValue

def numberValue : Reader Value := Value.ofNumber <$> number

def integerValue : Reader Value := do return Value.ofText (toString (← integer))

def shareValue : Reader Value := do
  match ← numberOrPercentage with
  | .inl value => return Value.ofNumber value
  | .inr value => return Value.ofNumber value

def numberOrPercentageValue : Reader Value := do
  match ← numberOrPercentage with
  | .inl value => return Value.ofNumber value
  | .inr share => return Value.ofText (Quantity.writePercentage share)

def lengthOrNumber : Reader Value := numberValue <|> lengthValue

def timeValue : Reader Value := do return Value.ofMeasure (.value (← time))

def urlValue : Reader Value := do return Value.ofText (Token.writeUrl (← Raw.url))

def noneOrUrl : Reader Value := wordValue "none" <|> urlValue

def customIdent : Reader String :=
  when (fun name => !Raw.reservedNames.contains name.toLower) ident

def customIdentValue : Reader Value := do
  return Value.ofText (Token.writeIdent (← customIdent))

def dashedIdentValue : Reader Value := do
  return Value.ofText (Token.writeIdent (← Raw.dashedName))

def stringValue : Reader Value := do return Value.ofText (Token.writeString (← string))

section

variable {α : Type}

def nextOf : List (Reader α × Option α) → Reader (List (Reader α × Option α))
  | [] => failure
  | (reader, some value) :: rest => return (reader, some value) :: (← nextOf rest)
  | (reader, none) :: rest => do
    match ← attempt reader with
    | some value => return (reader, some value) :: rest
    | none => return (reader, none) :: (← nextOf rest)

def inAnyOrder (readers : List (Reader α)) : Reader (List (Option α)) := do
  let found ← repeatSteps nextOf (readers.length + 1) (readers.map (·, none))
  return found.map Prod.snd

end

def valuesInAnyOrder (readers : List (Reader Value × Value)) : Reader (List Value) := do
  let found ← inAnyOrder (readers.map Prod.fst)
  return (found.zip readers).map fun (value, _, usual) => value.getD usual

def someInAnyOrder (readers : List (Reader Value × Value)) : Reader (List Value) := do
  let found ← inAnyOrder (readers.map Prod.fst)
  if found.all Option.isNone then failure
  return (found.zip readers).map fun (value, _, usual) => value.getD usual

def fourSides (reader : Reader Value) : Reader (List Value) := do
  let top ← reader
  let right ← orElse reader top
  let bottom ← orElse reader top
  return [top, right, bottom, ← orElse reader right]

def twoValues (reader : Reader Value) : Reader (List Value) := do
  let first ← reader
  return [first, ← orElse reader first]

def curves : List (String × List Float32) := [
  ("ease", [0.25, 0.1, 0.25, 1]), ("ease-in", [0.42, 0, 1, 1]), ("ease-out", [0, 0, 0.58, 1]),
  ("ease-in-out", [0.42, 0, 0.58, 1])]

def stepPosition : Reader String := do
  match ← oneOf ["start", "end", "jump-start", "jump-end", "jump-none", "jump-both"] with
  | "jump-start" => return "start"
  | "jump-end" => return "end"
  | other => return other

def writeSteps (count : Int) (position : String) : String :=
  if count = 1 ∧ position = "start" then "step-start"
  else if count = 1 ∧ position = "end" then "step-end"
  else "steps(" ++ toString count ++ "," ++ position ++ ")"

def easingNames : List String := ["linear", "ease", "ease-in", "ease-out", "ease-in-out"]

def easing : Reader Value := do
  let curve : Reader Value := call "cubic-bezier" do
    let first ← number
    comma
    let second ← number
    comma
    let third ← number
    comma
    let points := [first, second, third, ← number]
    match curves.find? (·.2 == points) with
    | some (name, _) => return Value.ofText name
    | none => return Value.call "cubic-bezier" (points.map Value.ofNumber)
  let steps : Reader Value := call "steps" do
    let count ← integer
    let position ← orElse (comma *> stepPosition) "end"
    return Value.ofText (writeSteps count position)
  keywordOf (easingNames ++ ["step-start", "step-end"]) <|> curve <|> steps

end ScopedStyles.Stylesheet.Reader
