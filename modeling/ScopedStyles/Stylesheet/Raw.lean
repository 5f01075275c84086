import ScopedStyles.Stylesheet.Color.Reader

namespace ScopedStyles.Stylesheet

namespace Raw

inductive Part where
  | token (token : Token)
  | color (color : Color)
  | quantity (quantity : Quantity)
  | rgbUpToAlpha (red green blue : Float32)
  | hslUpToAlpha (hue saturation lightness : Float32)
  | lightStart
  | darkStart
  deriving BEq, Inhabited

namespace Part

def isSpace : Part → Bool
  | token (.space _) => true
  | _ => false

def close : Part := token (.closing ')')

end Part

end Raw

abbrev Raw := List Raw.Part

namespace Raw

def trim (raw : Raw) : Raw :=
  if raw.length < 2 then raw
  else
    let dropFirst : Raw → Raw
      | part :: rest => if part.isSpace then rest else part :: rest
      | [] => []
    (dropFirst (dropFirst raw).reverse).reverse

structure State where
  parts : Raw := []
  lastIsDelim : Bool := false
  lastIsSpace : Bool := false

namespace State

def push (state : State) (part : Part) : State :=
  ⟨part :: state.parts, false, false⟩

def pushAll (state : State) (parts : Raw) : State :=
  ⟨parts.reverse ++ state.parts, true, false⟩

def space (state : State) : State :=
  if state.lastIsDelim then state
  else { state with parts := .token (.space " ") :: state.parts, lastIsSpace := true }

def delim (state : State) (token : Token) : State :=
  let before := if state.lastIsSpace then state.parts.drop 1 else state.parts
  ⟨.token token :: before, true, false⟩

end State

def colorFunctions : List String :=
  ["rgb", "rgba", "hsl", "hsla", "hwb", "lab", "lch", "oklab", "oklch", "color", "color-mix",
    "light-dark"]

def environmentNames : List String :=
  ["safe-area-inset-top", "safe-area-inset-right", "safe-area-inset-bottom",
    "safe-area-inset-left", "viewport-segment-width", "viewport-segment-height",
    "viewport-segment-top", "viewport-segment-left", "viewport-segment-bottom",
    "viewport-segment-right"]

def reservedNames : List String :=
  ["inherit", "initial", "unset", "default", "revert", "revert-layer"]

def dashedName : Reader String :=
  Reader.when (·.startsWith "--") Reader.ident

def environmentName : Reader String := do
  let name ← Reader.ident
  if environmentNames.contains name.toLower then return name.toLower
  else if !name.startsWith "--" && reservedNames.contains name.toLower then failure
  else return name

def url : Reader String := do
  match ← Reader.piece with
  | .token (.url address) => return address
  | .function name content =>
    if name.toLower == "url" then Reader.within content Reader.string else failure
  | _ => failure

def upToSlash (name : String) (parts : Color.Parts) : Reader Part := do
  let part ← match name with
    | "rgb" => do
      let (r, g, b, isOld) ← Color.Parts.rgb parts
      if isOld then failure else pure (.rgbUpToAlpha r g b)
    | "hsl" => do
      let (h, s, l, _) ← Color.Parts.hueAndTwo parts false
      pure (.hslUpToAlpha h s l)
    | _ => failure
  Reader.delim '/'
  return part

def upToAlpha (name : String) : Reader (List Part) := do
  let space : Color.Space := if name == "rgb" then .rgb else .hsl
  let relativeTo (source : Color) : Reader Part :=
    match Color.coordinates? space source with
    | some p => upToSlash name { source := some (space, space.resolve p), allowsNone := false }
    | none => failure
  if ← Reader.succeeds (Reader.word "from") then
    match ← Reader.color with
    | .lightDark light dark =>
      let rest ← get
      let first ← relativeTo light
      set rest
      return [first, ← relativeTo dark]
    | source => return [← relativeTo source]
  else return [← upToSlash name { allowsNone := false }]

def readToken (state : State) (token : Token) : Option State :=
  match token with
  | .space _ | .comment => some state.space
  | .hash digits _ =>
    match Color.ofHash? digits.toList with
    | some color => some (state.push (.color color))
    | none => some (state.push (.token (.hash digits false)))
  | .dimension n unit =>
    let quantity : Quantity := ⟨n.value, unit.toLower⟩
    match quantity.dimension with
    | .other | .percentage => some (state.push (.token token))
    | _ => some (state.push (.quantity quantity))
  | .comma | .delim _ => some (state.delim token)
  | .closing _ | .broken => none
  | .atKeyword name _ => some (state.push (.token (.atKeyword name [])))
  | _ => some (state.push (.token token))

mutual

def readParts : Nat → List Piece → Option Raw
  | 0, _ => none
  | fuel + 1, pieces =>
    (pieces.foldlM (readPiece fuel) {}).map fun state => state.parts.reverse

def readTrimmed : Nat → List Piece → Option Raw
  | 0, _ => none
  | fuel + 1, pieces => (readParts fuel pieces).map trim

def readPiece : Nat → State → Piece → Option State
  | _, state, .token token => readToken state token
  | 0, _, _ => none
  | fuel + 1, state, .block bracket content => do
    let inner ← readParts fuel content
    return state.pushAll
      (.token (.opening bracket) :: inner ++ [.token (.closing (Piece.closerOf bracket))])
  | fuel + 1, state, .function name content => readFunction fuel state name content

def readFunction : Nat → State → String → List Piece → Option State
  | 0, _, _, _ => none
  | fuel + 1, state, name, content =>
    let lower := name.toLower
    let color? := if colorFunctions.contains lower
      then Reader.readAll? Reader.color [.function name content] else none
    match color?, readUnresolved fuel lower content with
    | some color, _ => some (state.push (.color color))
    | none, some parts => some (state.pushAll parts)
    | none, none =>
      match name with
      | "url" => do
        let address ← Reader.readAll? url [.function name content]
        return state.push (.token (.url address))
      | "var" => do
        let (subject, rest) ← dashedName.run content
        return state.pushAll (.token (.function "var") :: .token (.ident subject) ::
          (← readDefault fuel rest) ++ [.close])
      | "env" => do
        let (subject, rest) ← environmentName.run content
        let (indices, rest) ← (Reader.many Reader.integer).run rest
        let index (i : Int) : Raw :=
          [.token (.space " "), .token (.number ⟨Float32.ofInt i, some i, false⟩)]
        return state.pushAll (.token (.function "env") :: .token (.ident subject) ::
          indices.flatMap index ++ (← readDefault fuel rest) ++ [.close])
      | _ => do
        return state.pushAll (.token (.function name) :: (← readTrimmed fuel content) ++ [.close])

def readDefault : Nat → List Piece → Option Raw
  | 0, _ => none
  | fuel + 1, pieces =>
    match Piece.dropSpace pieces with
    | [] => some []
    | .token .comma :: rest => (readTrimmed fuel rest).map (.token .comma :: ·)
    | _ => none

def readUnresolved : Nat → String → List Piece → Option Raw
  | 0, _, _ => none
  | fuel + 1, name, content =>
    if name == "light-dark" then
      match Piece.splitByCommas content with
      | light :: dark :: more => do
        let light ← readTrimmed fuel light
        let dark ← readTrimmed fuel (more.foldl (fun all part => all ++ .token .comma :: part) dark)
        return .lightStart :: light ++ .darkStart :: dark ++ [.close]
      | _ => none
    else do
      let (parts, rest) ← (upToAlpha name).run content
      let alpha ← readTrimmed fuel rest
      match parts with
      | [light, dark] =>
        return .lightStart :: light :: alpha ++ .close :: .darkStart :: dark :: alpha ++
          [.close, .close]
      | _ => return parts ++ alpha ++ [.close]

end

def ofPieces? (pieces : List Piece) : Option Raw :=
  readTrimmed (4 * (Piece.depthOfAll pieces + 2)) pieces

def colors (raw : Raw) : List Color :=
  raw.filterMap fun
    | .color c => some c
    | _ => none

def possibleFallbacks (browsers : Browsers) (raw : Raw) : List Color.Fallback :=
  (colors raw).foldl
    (fun kinds color => Color.Fallback.union kinds (color.possibleFallbacks browsers)) []

def colorStyles (raw : Raw) : List ColorStyle :=
  raw.flatMap fun
    | .color c => c.styles
    | .rgbUpToAlpha .. | .hslUpToAlpha .. => [.spaced]
    | .lightStart => [.spaced, .lightDark]
    | _ => []

def fallback (kind : Color.Fallback) (raw : Raw) : Raw :=
  raw.map fun
    | .color c => .color (c.fallback kind)
    | part => part

def Part.write (browsers : Browsers) : Part → String
  | .color c => c.write browsers
  | .quantity q => q.write
  | .rgbUpToAlpha r g b =>
    let texts := [r, g, b].map fun value => toString (Number.toInt (Number.clamp 0 255 value.round))
    if browsers.areOld && !browsers.knows .spaced then
      "rgba(" ++ String.intercalate "," texts ++ ","
    else "rgb(" ++ String.intercalate " " texts ++ "/"
  | .hslUpToAlpha h s l =>
    let texts :=
      [Number.write h, Quantity.writePercentage (s / 100), Quantity.writePercentage (l / 100)]
    if browsers.areOld && !browsers.knows .spaced then
      "hsla(" ++ String.intercalate "," texts ++ ","
    else "hsl(" ++ String.intercalate " " texts ++ "/"
  | .lightStart => Color.beforeLight browsers
  | .darkStart => Color.betweenSchemes browsers
  | .token (.delim c) =>
    if c = '+' ∨ c = '-' then String.ofList [' ', c, ' '] else String.singleton c
  | .token (.number n) => Number.write n.value
  | .token (.dimension n unit) => Quantity.writePlain n.value unit
  | .token (.url address) => Token.writeUrl address
  | .token t => t.write

def write (browsers : Browsers) (raw : Raw) : String :=
  String.join (raw.map (Part.write browsers))

end Raw

end ScopedStyles.Stylesheet
