import ScopedStyles.Stylesheet.Calculation
import ScopedStyles.Stylesheet.Color.Mix

namespace ScopedStyles.Stylesheet.Color

def Space.coordinateNames : Space → String × String × String
  | hsl => ("h", "s", "l")
  | hwb => ("h", "w", "b")
  | lab | oklab => ("l", "a", "b")
  | lch | oklch => ("l", "c", "h")
  | xyzD50 | xyzD65 => ("x", "y", "z")
  | _ => ("r", "g", "b")

structure Parts where
  source : Option (Space × Coordinates) := none
  allowsNone : Bool := true

namespace Parts

def named? (parts : Parts) (wantsAngle : Bool) (name : String) : Option Float32 := do
  let (space, p) ← parts.source
  let (a, b, c) := space.coordinateNames
  let name := name.toLower
  if name == a && (wantsAngle || !space.hasHueFirst) then some p.a
  else if name == b then some p.b
  else if name == c && (wantsAngle || !space.hasHueLast) then some p.c
  else if name == "alpha" then some p.alpha
  else none

def relative (parts : Parts) (wantsAngle : Bool) : Reader Float32 := do
  if parts.source.isNone then failure
  let named : Reader Float32 := Reader.bindOption Reader.ident (parts.named? wantsAngle)
  let calculated : Reader Float32 := do
    match ← Calculation.read { dimensions := [], numberOf := parts.named? wantsAngle } with
    | .number n => return n
    | _ => failure
  named <|> calculated

def absent (parts : Parts) : Reader Float32 := do
  if parts.allowsNone then Reader.word "none" else failure
  return Space.missing

def numberOrPercentage (parts : Parts) : Reader (Float32 ⊕ Float32) :=
  .inl <$> parts.relative false <|> Reader.numberOrPercentage <|> .inl <$> parts.absent

def number (parts : Parts) (basis : Float32) : Reader Float32 := do
  match ← parts.numberOrPercentage with
  | .inl value => return value
  | .inr share => return share * basis

def hue (parts : Parts) : Reader Float32 :=
  parts.relative true <|> Quantity.toDegrees <$> Reader.angle <|> Reader.number <|> parts.absent

def clampedNumber (parts : Parts) (basis low high : Float32) : Reader Float32 :=
  Number.clamp low high <$> parts.number basis

def alpha (parts : Parts) : Reader Float32 := do
  if ← Reader.succeeds (Reader.delim '/') then parts.clampedNumber 1 0 1 else return 1

def alphaAfterComma (parts : Parts) : Reader Float32 := do
  if ← Reader.isFinished then return 1
  Reader.comma
  parts.clampedNumber 1 0 1

def commaFollows (parts : Parts) (first : Float32) : Reader Bool := do
  if parts.source.isNone && !first.isNaN then Reader.succeeds Reader.comma else return false

def rgb (parts : Parts) : Reader (Float32 × Float32 × Float32 × Bool) := do
  let toByte : Float32 ⊕ Float32 → Float32
    | .inl value => if value.isNaN then value else Number.clamp 0 255 value.round
    | .inr share => Number.clamp 0 255 (share * 255).round
  let red ← parts.numberOrPercentage
  if ← parts.commaFollows (toByte red) then
    let isNumber := red.isLeft
    let next : Reader Float32 :=
      if isNumber then toByte <$> .inl <$> Reader.number else toByte <$> .inr <$> Reader.percentage
    let green ← next
    Reader.comma
    let blue ← next
    return (toByte red, green, blue, true)
  else
    let green ← parts.numberOrPercentage
    let blue ← parts.numberOrPercentage
    return (toByte red, toByte green, toByte blue, false)

def hueAndTwo (parts : Parts) (allowsCommas : Bool) :
    Reader (Float32 × Float32 × Float32 × Bool) := do
  let h ← parts.hue
  let isOld ← if allowsCommas then parts.commaFollows h else pure false
  let a ← parts.clampedNumber 100 0 100
  if isOld then Reader.comma
  let b ← parts.clampedNumber 100 0 100
  if isOld && (a.isNaN || b.isNaN) then failure
  return (h, a, b, isOld)

end Parts

def ofCoordinates (space : Space) (p : Coordinates) : Color :=
  if space.isByteSpace && !p.hasMissing then bytesOf space p else inSpace space p

def spaceOfFunction? (name : String) : Option Space :=
  match name with
  | "lab" => some .lab
  | "lch" => some .lch
  | "oklab" => some .oklab
  | "oklch" => some .oklch
  | "rgb" | "rgba" => some .rgb
  | "hsl" | "hsla" => some .hsl
  | "hwb" => some .hwb
  | _ => none

def spaceOfName? (name : String) : Option Space :=
  match name with
  | "srgb" => some .srgb
  | "srgb-linear" => some .srgbLinear
  | "display-p3" => some .displayP3
  | "a98-rgb" => some .a98
  | "prophoto-rgb" => some .prophoto
  | "rec2020" => some .rec2020
  | "xyz-d50" => some .xyzD50
  | "xyz" | "xyz-d65" => some .xyzD65
  | _ => none

def spaceOfMixture? (name : String) : Option Space :=
  match name with
  | "srgb" => some .srgb
  | "srgb-linear" => some .srgbLinear
  | "lab" => some .lab
  | "oklab" => some .oklab
  | "xyz" | "xyz-d65" => some .xyzD65
  | "xyz-d50" => some .xyzD50
  | "hsl" => some .hsl
  | "hwb" => some .hwb
  | "lch" => some .lch
  | "oklch" => some .oklch
  | _ => none

def greatest : Float32 := 340282346638528859811704183484516925440

def coordinates (space : Space) (parts : Parts) : Reader Coordinates := do
  match space with
  | .rgb => do
    let (r, g, b, isOld) ← parts.rgb
    return ⟨r, g, b, ← if isOld then parts.alphaAfterComma else parts.alpha⟩
  | .hsl | .hwb => do
    let (h, a, b, isOld) ← parts.hueAndTwo (space = .hsl)
    return ⟨h, a, b, ← if isOld then parts.alphaAfterComma else parts.alpha⟩
  | .lab | .oklab => do
    let scale : Float32 × Float32 := if space = .lab then (100, 125) else (1, 0.4)
    let l ← parts.clampedNumber scale.1 0 greatest
    let a ← parts.number scale.2
    let b ← parts.number scale.2
    return ⟨l, a, b, ← parts.alpha⟩
  | .lch | .oklch => do
    let scale : Float32 × Float32 := if space = .lch then (100, 150) else (1, 0.4)
    let l ← parts.clampedNumber scale.1 0 greatest
    let c ← parts.clampedNumber scale.2 0 greatest
    let h ← parts.hue
    return ⟨l, c, h, ← parts.alpha⟩
  | _ => do
    let a ← parts.number 1
    let b ← parts.number 1
    let c ← parts.number 1
    return ⟨a, b, c, ← parts.alpha⟩

def relativeTo (space : Space) (needsGamut : Bool) : Color → Reader Color
  | lightDark light dark => do
    let rest ← get
    let first ← relativeTo space needsGamut light
    set rest
    return lightDark first (← relativeTo space needsGamut dark)
  | source =>
    match coordinates? space source with
    | some p =>
      let p := if needsGamut then space.resolve p else p.resolve
      ofCoordinates space <$> coordinates space { source := some (space, p) }
    | none => failure

mutual

def readNested : Nat → Reader Color
  | fuel => do
    match ← Reader.piece with
    | .token (.hash digits _) =>
      match ofHash? digits.toList with
      | some color => return color
      | none => failure
    | .token (.ident name) =>
      match ofName? name.toLower with
      | some color => return color
      | none => failure
    | .function name content => Reader.within content (readFunction fuel name.toLower)
    | _ => failure

def readFunction : Nat → String → Reader Color
  | 0, _ => failure
  | fuel + 1, name =>
    match name with
    | "color" => do
      let source ← Reader.attempt (Reader.word "from" *> readNested fuel)
      let space ← Reader.bindOption Reader.keyword spaceOfName?
      match source with
      | some source => relativeTo space false source
      | none => inSpace space <$> coordinates space {}
    | "color-mix" => do
      Reader.word "in"
      let space ← Reader.bindOption Reader.keyword spaceOfMixture?
      let path ← if space.hasHueFirst || space.hasHueLast then
          Reader.attempt (Reader.bindOption Reader.keyword HuePath.ofName?)
        else pure none
      if path.isSome then Reader.word "hue"
      let share : Reader (Option Float32) := Reader.attempt Reader.plainPercentage
      let colorWithShare : Reader (Color × Option Float32) := do
        Reader.comma
        let before ← share
        let color ← readNested fuel
        let after ← if before.isSome then pure before else share
        return (color, after.map (Number.clamp 0 1))
      let (first, x) ← colorWithShare
      let (second, y) ← colorWithShare
      let (x, y) := match x, y with
        | none, none => ((0.5 : Float32), (0.5 : Float32))
        | some x, none => (x, 1 - x)
        | none, some y => (1 - y, y)
        | some x, some y => (x, y)
      if x + y == 0 then failure
      match mix? space (path.getD .shorter) first x second y with
      | some color => return color
      | none => failure
    | "light-dark" => do
      let light ← readNested fuel
      Reader.comma
      let dark ← readNested fuel
      let light := match light with
        | lightDark color _ => color
        | color => color
      let dark := match dark with
        | lightDark _ color => color
        | color => color
      return lightDark light dark
    | _ => do
      let space ← Reader.bindOption (pure name) spaceOfFunction?
      let rest ← get
      if ← Reader.succeeds (Reader.word "from") then
        let source ← readNested fuel
        relativeTo space true source
      else
        set rest
        ofCoordinates space <$> coordinates space {}

end

end ScopedStyles.Stylesheet.Color

namespace ScopedStyles.Stylesheet

namespace Reader

def color : Reader Color := do
  Color.readNested (Piece.depthOfAll (← get) + 1)

end Reader

end ScopedStyles.Stylesheet
