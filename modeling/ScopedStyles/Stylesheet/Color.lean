import ScopedStyles.Stylesheet.Color.Names
import ScopedStyles.Stylesheet.Color.Space

namespace ScopedStyles.Stylesheet

inductive Color where
  | current
  | bytes (red green blue alpha : Nat)
  | inSpace (space : Color.Space) (coordinates : Color.Coordinates)
  | lightDark (light dark : Color)
  | system (name : String)
  deriving BEq, Inhabited

namespace Color

def byte (share : Float32) : Nat :=
  (Number.clamp 0 255 (share * 255).round).toUInt8.toNat

def ofWord (word : Nat) : Color :=
  .bytes (word / 0x10000) (word / 0x100 % 0x100) (word % 0x100) 255

def transparent : Color := .bytes 0 0 0 0

def ofName? (name : String) : Option Color :=
  if name == "currentcolor" then some .current
  else if name == "transparent" then some transparent
  else
    match named.lookup name with
    | some word => some (ofWord word)
    | none => if systemNames.contains name then some (.system name) else none

def ofHash? (digits : List Char) : Option Color :=
  let pair (a b : Char) : Nat := Text.hexNumber [a, b]
  if !digits.all Text.isHexDigit then none
  else
    match digits with
    | [r, g, b] => some (.bytes (pair r r) (pair g g) (pair b b) 255)
    | [r, g, b, a] => some (.bytes (pair r r) (pair g g) (pair b b) (pair a a))
    | [r, r', g, g', b, b'] => some (.bytes (pair r r') (pair g g') (pair b b') 255)
    | [r, r', g, g', b, b', a, a'] =>
      some (.bytes (pair r r') (pair g g') (pair b b') (pair a a'))
    | _ => none

def ofShares (p : Coordinates) : Color :=
  .bytes (byte p.a) (byte p.b) (byte p.c) (byte p.alpha)

def shares (red green blue alpha : Nat) : Coordinates :=
  let share (n : Nat) : Float32 := Float32.ofNat n / 255
  ⟨share red, share green, share blue, share alpha⟩

def bytesOf (space : Space) (p : Coordinates) : Color :=
  match space with
  | .rgb =>
    let p := p.resolve
    .bytes (byte (p.a / 255)) (byte (p.b / 255)) (byte (p.c / 255)) (byte p.alpha)
  | _ => ofShares (Space.resolve .srgb (Space.convert space .srgb p))

def Space.isByteSpace : Space → Bool
  | .rgb | .hsl | .hwb => true
  | _ => false

def coordinates? (space : Space) : Color → Option Coordinates
  | bytes r g b a => some (Space.convert .srgb space (shares r g b a))
  | inSpace own p => some (Space.convert own space p)
  | _ => none

inductive Fallback where
  | rgb
  | displayP3
  | lab
  | oklab
  deriving DecidableEq, Repr

def Fallback.union (a b : List Fallback) : List Fallback :=
  [.rgb, .displayP3, .lab, .oklab].filter fun kind => a.contains kind || b.contains kind

-- No browser knows colours by their lightness and not those of wide screens, so these are of use
-- only where old browsers are found to know them.
def Fallback.below (browsers : Browsers) (others : List Fallback) : List Fallback :=
  if browsers.knows .lab then others
  else if browsers.areOld && browsers.knows .displayP3 then .displayP3 :: others
  else .rgb :: others

def possibleFallbacks (browsers : Browsers) : Color → List Fallback
  | inSpace .lab _ | inSpace .lch _ =>
    if browsers.knows .lab then [] else Fallback.below browsers [.lab]
  | inSpace .oklab _ | inSpace .oklch _ =>
    if browsers.knows .oklab then [] else Fallback.below browsers [.lab, .oklab]
  | inSpace space _ =>
    if space == .displayP3 && !browsers.knows .displayP3 then [.rgb, .displayP3]
    else if space.isByteSpace || browsers.knows .inSpace then []
    else Fallback.below browsers [.lab]
  | lightDark light dark =>
    Fallback.union (possibleFallbacks browsers light) (possibleFallbacks browsers dark)
  | _ => []

def neededFallbacks (browsers : Browsers) (color : Color) : List Fallback :=
  (possibleFallbacks browsers color).dropLast

def styles : Color → List ColorStyle
  | inSpace .lab _ | inSpace .lch _ => [.lab]
  | inSpace .oklab _ | inSpace .oklch _ => [.oklab]
  | inSpace .displayP3 _ => [.inSpace, .displayP3]
  | inSpace space _ => if space.isByteSpace then [.spaced] else [.inSpace]
  | lightDark light dark => .lightDark :: styles light ++ styles dark
  | _ => []

def fallback (kind : Fallback) : Color → Color
  | bytes r g b a => bytes r g b a
  | inSpace space p =>
    match kind with
    | .rgb => bytesOf space p
    | .displayP3 => inSpace .displayP3 (Space.convert space .displayP3 p)
    | .lab => inSpace .lab (Space.convert space .lab p)
    | .oklab => inSpace space p
  | lightDark light dark => lightDark (fallback kind light) (fallback kind dark)
  | color => color

def isKnown : Color → Bool
  | current | bytes _ _ _ _ => true
  | inSpace space _ => space.isByteSpace
  | lightDark _ _ => false
  | system name => name != "accentcolor" && name != "accentcolortext"

def writeHex (bytes : List Nat) : String :=
  let digits (n : Nat) : List Char := [Text.hexDigit (n / 16), Text.hexDigit (n % 16)]
  if bytes.all fun n => n / 16 = n % 16 then
    String.ofList ('#' :: bytes.map fun n => Text.hexDigit (n % 16))
  else String.ofList ('#' :: bytes.flatMap digits)

def writeAlpha (alpha : Nat) : String :=
  let share := Float32.ofNat alpha / 255
  let two := (share * 100).round / 100
  Number.write (if byte two = alpha then two else (share * 1000).round / 1000)

def writeBytes (browsers : Browsers) (r g b a : Nat) : String :=
  if a = 255 then
    match shortNames.lookup (r * 0x10000 + g * 0x100 + b) with
    | some name => name
    | none => writeHex [r, g, b]
  else if browsers.areRecent then writeHex [r, g, b, a]
  else if r = 0 ∧ g = 0 ∧ b = 0 ∧ a = 0 then "transparent"
  else "rgba(" ++ String.intercalate "," ([r, g, b].map toString ++ [writeAlpha a]) ++ ")"

def writeCoordinate (value : Float32) : String :=
  if value.isNaN then "none" else Number.write value

def Space.writtenName : Space → String
  | .rgb => "rgb("
  | .hsl => "hsl("
  | .hwb => "hwb("
  | .lab => "lab("
  | .lch => "lch("
  | .oklab => "oklab("
  | .oklch => "oklch("
  | .srgb => "color(srgb "
  | .srgbLinear => "color(srgb-linear "
  | .displayP3 => "color(display-p3 "
  | .a98 => "color(a98-rgb "
  | .prophoto => "color(prophoto-rgb "
  | .rec2020 => "color(rec2020 "
  | .xyzD50 => "color(xyz-d50 "
  | .xyzD65 => "color(xyz "

def Space.writeFirst (space : Space) (value : Float32) : String :=
  if value.isNaN then "none"
  else
    match space with
    | .lab | .lch => Quantity.writePercentage (value / 100)
    | .oklab | .oklch => Quantity.writePercentage value
    | _ => Number.write value

def writeInSpace (space : Space) (p : Coordinates) : String :=
  let opacity := if p.alpha.isNaN || (p.alpha - 1).abs > 0.00000011920929
    then "/" ++ writeCoordinate p.alpha else ""
  space.writtenName ++ space.writeFirst p.a ++ " " ++ writeCoordinate p.b ++ " " ++
    writeCoordinate p.c ++ opacity ++ ")"

def beforeLight (browsers : Browsers) : String :=
  if browsers.knows .lightDark then "light-dark(" else "var(--lightningcss-light,"

def betweenSchemes (browsers : Browsers) : String :=
  if browsers.knows .lightDark then "," else ")var(--lightningcss-dark,"

def write (browsers : Browsers) : Color → String
  | current => "currentColor"
  | bytes r g b a => writeBytes browsers r g b a
  | inSpace space p =>
    if space.isByteSpace then
      match bytesOf space p with
      | bytes r g b a => writeBytes browsers r g b a
      | _ => ""
    else writeInSpace space p
  | lightDark light dark =>
    beforeLight browsers ++ write browsers light ++ betweenSchemes browsers ++
      write browsers dark ++ ")"
  | system name => name

end Color

end ScopedStyles.Stylesheet
