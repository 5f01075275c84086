import ScopedStyles.Stylesheet.Browsers
import ScopedStyles.Stylesheet.Reader

namespace ScopedStyles.Stylesheet

inductive Dimension where
  | length
  | percentage
  | angle
  | time
  | resolution
  | other
  deriving DecidableEq, Repr

namespace Dimension

def absoluteUnits : List String := ["px", "in", "cm", "mm", "q", "pt", "pc"]

def relativeUnits : List String :=
  ["em", "rem", "ex", "rex", "ch", "rch", "cap", "rcap", "ic", "ric", "lh", "rlh", "vw", "lvw",
    "svw", "dvw", "cqw", "vh", "lvh", "svh", "dvh", "cqh", "vi", "svi", "lvi", "dvi", "cqi", "vb",
    "svb", "lvb", "dvb", "cqb", "vmin", "svmin", "lvmin", "dvmin", "cqmin", "vmax", "svmax",
    "lvmax", "dvmax", "cqmax"]

def ofUnit (unit : String) : Dimension :=
  if absoluteUnits.contains unit || relativeUnits.contains unit then length
  else if unit == "%" then percentage
  else if ["deg", "grad", "rad", "turn"].contains unit then angle
  else if ["s", "ms"].contains unit then time
  else if ["dpi", "dpcm", "dppx", "x"].contains unit then resolution
  else other

end Dimension

structure Quantity where
  value : Float32
  unit : String
  deriving BEq, Inhabited

namespace Quantity

def dimension (quantity : Quantity) : Dimension :=
  Dimension.ofUnit quantity.unit

def px (value : Float32) : Quantity := ⟨value, "px"⟩

def percent (share : Float32) : Quantity := ⟨share, "%"⟩

def degrees (value : Float32) : Quantity := ⟨value, "deg"⟩

def isZero (quantity : Quantity) : Bool :=
  quantity.value == 0

def scale (quantity : Quantity) (factor : Float32) : Quantity :=
  { quantity with value := quantity.value * factor }

def pi : Float32 := 3.14159274101257324219

def pixelsPerUnit? (unit : String) : Option Float32 :=
  match unit with
  | "px" => some 1
  | "in" => some 96
  | "cm" => some (96 / 2.54)
  | "mm" => some (96 / 2.54 / 10)
  | "q" => some (96 / 2.54 / 40)
  | "pt" => some (96 / 72)
  | "pc" => some (96 / 6)
  | _ => none

def pixels? (quantity : Quantity) : Option Float32 :=
  if quantity.unit == "px" then some quantity.value
  else (pixelsPerUnit? quantity.unit).map (quantity.value * ·)

def toDegrees (quantity : Quantity) : Float32 :=
  match quantity.unit with
  | "grad" => quantity.value * 180 / 200
  | "rad" => quantity.value * (180 / pi)
  | "turn" => quantity.value * 360
  | _ => quantity.value

def toRadians (quantity : Quantity) : Float32 :=
  match quantity.unit with
  | "rad" => quantity.value
  | _ => quantity.toDegrees * (pi / 180)

def common? (a b : Quantity) : Option (Float32 × Float32 × String) :=
  if a.unit == b.unit then some (a.value, b.value, a.unit)
  else
    match a.dimension, b.dimension with
    | .length, .length => do return (← a.pixels?, ← b.pixels?, "px")
    | .angle, .angle => some (a.toDegrees, b.toDegrees, "deg")
    | .time, .time =>
      some (a.value, if a.unit == "s" then b.value / 1000 else b.value * 1000, a.unit)
    | _, _ => none

def combine? (operation : Float32 → Float32 → Float32) (a b : Quantity) : Option Quantity := do
  let (x, y, unit) ← common? a b
  return ⟨operation x y, unit⟩

def compare? (a b : Quantity) : Option Ordering := do
  let (x, y, _) ← common? a b
  if x < y then some .lt else if x > y then some .gt else if x == y then some .eq else none

def unitsOfRecent : List String :=
  ["px", "in", "cm", "mm", "q", "pt", "pc", "em", "rem", "ex", "ch", "vw", "vh", "vmin", "vmax",
    "%"]

def unitsOfAll : List String :=
  ["px", "in", "cm", "mm", "pt", "pc", "em", "rem", "ex", "ch", "vw", "vh", "vmin", "vmax", "%"]

def isKnown (browsers : Browsers) (quantity : Quantity) : Bool :=
  match quantity.dimension with
  | .length =>
    (match browsers.generation with
      | .recent => unitsOfRecent
      | .old => unitsOfAll).contains quantity.unit
  | _ => true

def writePlain (value : Float32) (unit : String) : String :=
  let number := Number.writeVerbatim value false true
  (if value != 0 && value.abs < 1 then Number.withoutLeadingZero number else number) ++
    Token.writeUnit unit

def writePercentage (share : Float32) : String :=
  let number := Number.writeVerbatim (share * 100) false true
  (if share != 0 && share.abs < 0.01 then Number.withoutLeadingZero number else number) ++ "%"

def writeTime (quantity : Quantity) : String :=
  let value := quantity.value
  if quantity.unit == "s" then
    if value > 0 && value < 0.1 then writePlain (value * 1000) "ms" else writePlain value "s"
  else if value == 0 || value >= 100 then writePlain (value / 1000) "s"
  else writePlain value "ms"

def write (quantity : Quantity) : String :=
  match quantity.dimension with
  | .percentage => writePercentage quantity.value
  | .angle =>
    if quantity.unit == "rad" then writePlain quantity.toDegrees "deg"
    else writePlain quantity.value quantity.unit
  | .time => quantity.writeTime
  | .resolution =>
    writePlain quantity.value (if quantity.unit == "x" then "dppx" else quantity.unit)
  | _ => writePlain quantity.value quantity.unit

def writeShort (quantity : Quantity) : String :=
  if quantity.dimension == .length && quantity.isZero then "0" else quantity.write

end Quantity

namespace Reader

def quantityOf (dimension : Dimension) : Reader Quantity := do
  match ← token with
  | .dimension n unit =>
    let quantity : Quantity := ⟨n.value, unit.toLower⟩
    if quantity.dimension == dimension then return quantity else failure
  | _ => failure

end Reader

end ScopedStyles.Stylesheet
