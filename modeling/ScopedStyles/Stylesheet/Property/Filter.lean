import ScopedStyles.Stylesheet.Shortening
import ScopedStyles.Stylesheet.Value.Reader

namespace ScopedStyles.Stylesheet

namespace Filter

def amounts : List String :=
  ["brightness", "contrast", "grayscale", "invert", "opacity", "saturate", "sepia"]

def shadow : Reader Value := do
  let lengths : Reader (List Value) := do
    let x ← Reader.lengthValue
    let y ← Reader.lengthValue
    return [x, y, ← Reader.orElse Reader.lengthValue Value.zero]
  let color : Reader (List Value) := do return [← Reader.colorValue]
  match ← Reader.inAnyOrder [lengths, color] with
  | [some [x, y, blur], color] =>
    return Value.spaced ([x, y] ++ Value.unusual .zero blur ++
      Value.unusual .currentColor ((color.getD []).headD .currentColor))
  | _ => failure

def arguments (name : String) : Reader Value := do
  if name == "blur" then
    return (Value.unusual .zero (← Reader.orElse Reader.lengthValue .zero)).flatten
  else if name == "hue-rotate" then
    let angle ← Reader.orElse Reader.angleOrZero (.degrees 0)
    return if angle.isZero then [] else .ofText angle.write
  else if name == "drop-shadow" then shadow
  else if amounts.contains name then
    match ← Reader.orElse Reader.numberOrPercentage (.inl 1) with
    | .inl amount => return if amount == 1 then [] else .ofNumber amount
    | .inr share => return if share == 1 then [] else .ofText (Quantity.writePercentage share)
  else failure

def function : Reader Value := do
  let (name, content) ← Reader.function
  let value ← Reader.within content (arguments name)
  return .text (name ++ "(") :: value ++ [.text ")"]

def read : Reader Setting := do
  let filters ← Reader.many (Reader.urlValue <|> function)
  if filters.isEmpty then Setting.ofValue <$> Reader.orElse (Reader.wordValue "none") []
  else return .ofValue filters.flatten

end Filter

namespace ClipPath

def boxes : List String :=
  ["border-box", "padding-box", "content-box", "margin-box", "fill-box", "stroke-box", "view-box"]

def corners : Reader Value := do
  let sides := Reader.fourSides Reader.lengthPercentageValue
  let write : List Value → Value
    | [top, right, bottom, left] => Value.sides top right bottom left
    | values => Value.spaced values
  let widths ← sides
  let heights ← if ← Reader.succeeds (Reader.delim '/') then sides else pure widths
  if (widths ++ heights).all (· == .zero) then return []
  return .text " round " :: write widths ++
    (if widths == heights then [] else .text "/" :: write heights)

def inset : Reader Value := do
  match ← Reader.fourSides Reader.lengthPercentageValue with
  | [top, right, bottom, left] =>
    let round ← if ← Reader.succeeds (Reader.word "round") then corners else pure []
    return Value.sides top right bottom left ++ round
  | _ => failure

def radius : Reader Value :=
  Reader.lengthPercentageValue <|> Reader.keywordOf ["closest-side", "farthest-side"]

def round (radii : Reader (List Value)) : Reader Value := do
  let usual : Value := .ofText "closest-side"
  let radii ← Reader.orElse radii []
  let position ← if ← Reader.succeeds (Reader.word "at") then Reader.position else pure .center
  let place : Value := [.text "at ", .position position]
  return Value.spaced ((if radii.all (· == usual) then [] else radii) ++
    (if position.isCenter then [] else [place]))

def polygon : Reader Value := do
  let rule ← Reader.attempt (Reader.keywordOf ["nonzero", "evenodd"])
  if rule.isSome then Reader.comma
  let point : Reader Value := do
    let x ← Reader.lengthPercentageValue
    return Value.spaced [x, ← Reader.lengthPercentageValue]
  let points ← Reader.commaSeparated point
  return Value.commas (Value.unusual (.ofText "nonzero") (rule.getD (.ofText "nonzero")) ++ points)

def shape : Reader Value := do
  let (name, content) ← Reader.function
  let one : Reader (List Value) := do return [← radius]
  let two : Reader (List Value) := do
    let x ← radius
    return [x, ← radius]
  let arguments ← match name with
    | "inset" => Reader.within content inset
    | "circle" => Reader.within content (round one)
    | "ellipse" => Reader.within content (round two)
    | "polygon" => Reader.within content polygon
    | _ => failure
  return .text (name ++ "(") :: arguments ++ [.text ")"]

def read : Reader Setting := do
  let box := Reader.keywordOf boxes
  let write (shape box : Value) : Value :=
    Value.spaced (shape :: Value.unusual (.ofText "border-box") box)
  let shaped : Reader Value := do
    let shape ← shape
    return write shape (← Reader.orElse box (.ofText "border-box"))
  let boxed : Reader Value := do
    let box ← box
    match ← Reader.attempt shape with
    | some shape => return write shape box
    | none => return box
  Setting.ofValue <$> (Reader.urlValue <|> shaped <|> boxed <|> Reader.wordValue "none")

end ClipPath

end ScopedStyles.Stylesheet
