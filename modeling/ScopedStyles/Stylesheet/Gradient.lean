import ScopedStyles.Stylesheet.Color.Reader
import ScopedStyles.Stylesheet.Position

namespace ScopedStyles.Stylesheet

namespace Phrase

def write (browsers : Browsers) (phrase : Phrase) : String :=
  String.join <| phrase.map fun
    | .inl text => text
    | .inr measure => measure.write browsers

end Phrase

inductive GradientLine where
  | angle (quantity : Quantity)
  | horizontal (side : String)
  | vertical (side : String)
  | corner (horizontal vertical : String)
  deriving BEq, Inhabited

structure GradientStop where
  color : Option Color
  position : Option Calculation
  deriving BEq, Inhabited

structure Gradient where
  name : String
  spelling : Spelling
  line : GradientLine
  shape : Phrase
  stops : List GradientStop
  deriving BEq, Inhabited

namespace Gradient

def writeLine (isPlain : Bool) : GradientLine → String
  | .angle quantity => quantity.write
  | .horizontal side => if side == "left" then "270deg" else "90deg"
  | .vertical side => if side == "top" then "0deg" else "180deg"
  | .corner horizontal vertical => (if isPlain then "to " else "") ++ vertical ++ " " ++ horizontal

def degrees? : GradientLine → Option Float32
  | .angle quantity => some quantity.toDegrees
  | .vertical side => some (if side == "top" then 0 else 180)
  | _ => none

def flip? : Option Calculation → Option (Option Calculation)
  | none => some none
  | some (.value quantity) =>
    if quantity.unit == "%" then some (some (.value (.percent (1 - quantity.value)))) else none
  | some _ => none

def flipStops? (stops : List GradientStop) : Option (List GradientStop) :=
  stops.reverse.mapM fun stop => (flip? stop.position).map fun position => { stop with position }

def writePosition (browsers : Browsers) : Option Calculation → String
  | some position => position.write browsers
  | none => ""

def isMiddle (stop : GradientStop) : Bool :=
  stop == ⟨none, some (.value (.percent 0.5))⟩

def writeStops (browsers : Browsers) (previous : Option GradientStop) :
    List GradientStop → String
  | [] => ""
  | stop :: rest =>
    if isMiddle stop then writeStops browsers previous rest
    else
      let together := match previous with
        | some before => browsers.areRecent && stop.color.isSome && before.color == stop.color &&
            before.position.isSome && stop.position.isSome
        | none => false
      if together then
        " " ++ writePosition browsers stop.position ++ writeStops browsers none rest
      else
        let color := match stop.color with
          | some color => color.write browsers ++ (if stop.position.isSome then " " else "")
          | none => ""
        "," ++ color ++ writePosition browsers stop.position ++
          writeStops browsers (some stop) rest

def writeAllStops (browsers : Browsers) (stops : List GradientStop) : String :=
  ((writeStops browsers none stops).drop 1).toString

def writeLinear (browsers : Browsers) (gradient : Gradient) : String :=
  let told := writeLine (gradient.spelling == .plain) gradient.line ++ "," ++
    writeAllStops browsers gradient.stops
  match degrees? gradient.line with
  | some degrees =>
    if degrees == 180 then writeAllStops browsers gradient.stops
    else if degrees == 0 then
      match flipStops? gradient.stops with
      | some stops => writeAllStops browsers stops
      | none => told
    else told
  | none => told

def isLinear (gradient : Gradient) : Bool :=
  gradient.name == "linear-gradient" || gradient.name == "repeating-linear-gradient"

def write (browsers : Browsers) (gradient : Gradient) : String :=
  gradient.spelling.mark ++ gradient.name ++ "(" ++
    (if gradient.isLinear then writeLinear browsers gradient
      else gradient.shape.write browsers ++ writeAllStops browsers gradient.stops) ++ ")"

def opposite (side : String) : String :=
  match side with
  | "left" => "right"
  | "right" => "left"
  | "top" => "bottom"
  | _ => "top"

def vendorLine : GradientLine → GradientLine
  | .angle quantity =>
    let degrees := (450 - quantity.toDegrees).abs
    .angle (.degrees ((Number.remainder degrees 360 * 1000).round / 1000))
  | .horizontal side => .horizontal (opposite side)
  | .vertical side => .vertical (opposite side)
  | .corner horizontal vertical => .corner (opposite horizontal) (opposite vertical)

def spelled (spelling : Spelling) (gradient : Gradient) : Gradient :=
  if gradient.name.endsWith "conic-gradient" then gradient
  else if gradient.spelling == .plain && spelling != .plain then
    { gradient with spelling, line := vendorLine gradient.line }
  else { gradient with spelling }

def mapColors (f : Color → Color) (gradient : Gradient) : Gradient :=
  { gradient with stops := gradient.stops.map fun stop => { stop with color := stop.color.map f } }

def colors (gradient : Gradient) : List Color :=
  gradient.stops.filterMap (·.color)

def isKnown (browsers : Browsers) (gradient : Gradient) : Bool :=
  let stopIsKnown (stop : GradientStop) : Bool :=
    stop.color.all Color.isKnown && stop.position.all (Calculation.isKnown browsers)
  gradient.stops.all stopIsKnown && (browsers.areRecent || !gradient.name.endsWith "conic-gradient")

end Gradient

end ScopedStyles.Stylesheet
