import ScopedStyles.Stylesheet.Condition.Demand
import ScopedStyles.Stylesheet.Value.Reader

namespace ScopedStyles.Stylesheet

inductive Comparison where
  | equal
  | above
  | atLeast
  | below
  | atMost
  deriving DecidableEq, Repr, Inhabited

namespace Comparison

def flip : Comparison → Comparison
  | equal => equal
  | above => below
  | atLeast => atMost
  | below => above
  | atMost => atLeast

def opposite? : Comparison → Option Comparison
  | equal => none
  | above => some atMost
  | atLeast => some below
  | below => some atLeast
  | atMost => some above

def sign : Comparison → String
  | equal => "="
  | above => ">"
  | atLeast => ">="
  | below => "<"
  | atMost => "<="

def isStrict (comparison : Comparison) : Bool :=
  comparison == above || comparison == below

def goesWith : Comparison → Comparison → Bool
  | above, other | atLeast, other => other == above || other == atLeast
  | below, other | atMost, other => other == below || other == atMost
  | equal, _ => false

def nameMark : Comparison → String
  | equal => ""
  | above | atMost => "max-"
  | below | atLeast => "min-"

def read : Reader Comparison := do
  let orEqual (strict other : Comparison) : Reader Comparison := do
    if ← Reader.succeeds (Reader.delim '=') then return other else return strict
  match ← Reader.token with
  | .delim '=' => return equal
  | .delim '>' => orEqual above atLeast
  | .delim '<' => orEqual below atMost
  | _ => failure

end Comparison

inductive FeatureKind where
  | length
  | number
  | integer
  | ratio
  | resolution
  | flag
  | word
  | any
  deriving DecidableEq, Repr, Inhabited

namespace FeatureKind

def hasRanges (kind : FeatureKind) : Bool :=
  kind != flag && kind != word

end FeatureKind

structure Feature where
  name : String
  kind : FeatureKind
  deriving DecidableEq, Repr, Inhabited

namespace Feature

def vendorMark : String := "-webkit-"

def ofMedia : List Feature :=
  [⟨"width", .length⟩, ⟨"height", .length⟩, ⟨"device-width", .length⟩,
    ⟨"device-height", .length⟩, ⟨"aspect-ratio", .ratio⟩, ⟨"device-aspect-ratio", .ratio⟩,
    ⟨"horizontal-viewport-segments", .integer⟩, ⟨"vertical-viewport-segments", .integer⟩,
    ⟨"color", .integer⟩, ⟨"color-index", .integer⟩, ⟨"monochrome", .integer⟩,
    ⟨"resolution", .resolution⟩, ⟨"grid", .flag⟩, ⟨"-webkit-device-pixel-ratio", .number⟩,
    ⟨"-moz-device-pixel-ratio", .number⟩] ++
  (["orientation", "overflow-block", "overflow-inline", "display-mode", "scan", "update",
    "environment-blending", "color-gamut", "dynamic-range", "inverted-colors", "pointer", "hover",
    "any-pointer", "any-hover", "nav-controls", "video-color-gamut", "video-dynamic-range",
    "scripting", "prefers-reduced-motion", "prefers-reduced-transparency", "prefers-contrast",
    "forced-colors", "prefers-color-scheme", "prefers-reduced-data"].map (⟨·, .word⟩))

def ofContainers : List Feature :=
  [⟨"width", .length⟩, ⟨"height", .length⟩, ⟨"inline-size", .length⟩, ⟨"block-size", .length⟩,
    ⟨"aspect-ratio", .ratio⟩, ⟨"orientation", .word⟩]

def read (known : List Feature) : Reader (Feature × Option Comparison) := do
  let written ← Reader.ident
  let lower := written.toLower
  let dropMark (mark name : String) : Option String :=
    if name.startsWith mark then some (name.drop mark.length).toString else none
  let (mark, name) :=
    match dropMark vendorMark lower with
    | some name => (vendorMark, name)
    | none => ("", lower)
  let (comparison, name) :=
    match dropMark "min-" name, dropMark "max-" name with
    | some name, _ => (some Comparison.atLeast, name)
    | none, some name => (some Comparison.atMost, name)
    | none, none => (none, name)
  match known.find? (·.name == mark ++ name) with
  | some feature =>
    if written.startsWith "--" then return (⟨written, .any⟩, none) else return (feature, comparison)
  | none => return (⟨written, .any⟩, none)

def write (feature : Feature) (mark : String) : String :=
  if feature.name == "-webkit-device-pixel-ratio" then vendorMark ++ mark ++ "device-pixel-ratio"
  else mark ++ Token.writeIdent feature.name

end Feature

inductive FeatureValue where
  | value (value : Value)
  | resolution (quantity : Quantity)
  | environment (raw : Raw)
  deriving BEq, Inhabited

namespace FeatureValue

def write (browsers : Browsers) : FeatureValue → String
  | value v => v.write browsers
  | resolution quantity => quantity.write
  | environment raw => Raw.write browsers raw

def ratio (needsSecond : Bool) : Reader FeatureValue := do
  let first ← Reader.number
  let hasSecond ← Reader.succeeds (Reader.delim '/')
  if needsSecond && !hasSecond then failure
  let second ← if hasSecond then Reader.number else pure 1
  if second == 1 then return .value (Value.ofNumber first)
  else return .value (Value.ofNumber first ++ [.text "/"] ++ Value.ofNumber second)

def readResolution : Reader FeatureValue := do
  let quantity ← Reader.quantityOf .resolution
  return .resolution (if quantity.unit == "x" then { quantity with unit := "dppx" } else quantity)

def readEnvironment : Reader FeatureValue := do
  match ← Reader.piece with
  | .function name content =>
    if name.toLower != "env" then failure
    match Raw.ofPieces? [.function "env" content] with
    | some raw => return .environment raw
    | none => failure
  | _ => failure

def readWord : Reader FeatureValue := do
  return .value (.ofText (Token.writeIdent (← Reader.ident)))

def readKind : FeatureKind → Reader FeatureValue
  | .length => value <$> Reader.lengthValue
  | .number => value <$> Reader.numberValue
  | .integer => value <$> Reader.integerValue
  | .ratio => ratio false
  | .resolution => readResolution
  | .flag => do
    let number ← Reader.integer
    if number = 0 ∨ number = 1 then return .value (.ofText (toString number)) else failure
  | .word => readWord
  | .any => failure

def read (kind : FeatureKind) : Reader (FeatureValue × Bool) := do
  let fits (reader : Reader FeatureValue) : Reader (FeatureValue × Bool) := (·, true) <$> reader
  let mayFit (reader : Reader FeatureValue) : Reader (FeatureValue × Bool) :=
    (·, kind == .any) <$> reader
  Reader.firstOf [fits (readKind kind), mayFit (ratio true), mayFit (value <$> Reader.numberValue),
    mayFit (value <$> Reader.lengthValue), mayFit readResolution, fits readEnvironment,
    mayFit readWord]

end FeatureValue

inductive FeatureTest where
  | present (feature : Feature)
  | plain (feature : Feature) (value : FeatureValue)
  | range (feature : Feature) (comparison : Comparison) (value : FeatureValue)
  | interval (start : FeatureValue) (first : Comparison) (feature : Feature) (second : Comparison)
      (finish : FeatureValue)
  deriving BEq, Inhabited

namespace FeatureTest

open DemandReader (lifted attempt)

def featureFirst (known : List Feature) : DemandReader FeatureTest := do
  let (feature, named) ← lifted (Feature.read known)
  let operator : Reader (Option Comparison) :=
    (Reader.colon *> pure none) <|> some <$> Comparison.read
  match ← attempt (lifted operator) with
  | none => return .present feature
  | some operator =>
    if operator.isSome && named.isSome then throw .refused
    let (value, _) ← lifted (FeatureValue.read feature.kind)
    match operator <|> named with
    | none => return .plain feature value
    | some comparison =>
      if !feature.kind.hasRanges then throw .refused
      return .range feature comparison value

def isIdent : Piece → Bool
  | .token (.ident _) => true
  | _ => false

def valueFirst (known : List Feature) : DemandReader FeatureTest := do
  let (feature, named) ←
    match (Feature.read known).run ((← get).dropWhile (!isIdent ·)) with
    | some (found, _) => pure found
    | none => throw .refused
  if named.isSome then throw .refused
  let value : DemandReader FeatureValue := do
    let (value, fits) ← lifted (FeatureValue.read feature.kind)
    if !fits then throw .refused
    return value
  let start ← value
  let first ← lifted Comparison.read
  let _ ← lifted (Feature.read known)
  if !feature.kind.hasRanges then throw .refused
  match ← attempt (lifted Comparison.read) with
  | none => return .range feature first.flip start
  | some second =>
    if !first.goesWith second then throw .refused
    return .interval start first feature second (← value)

def read (known : List Feature) : DemandReader FeatureTest :=
  tryCatch (featureFirst known) fun
    | .refused => throw .refused
    | _ => valueFirst known

def writeNamed (browsers : Browsers) (isInner : Bool) (feature : Feature)
    (comparison : Comparison) (value : FeatureValue) : String :=
  let test := "(" ++ feature.write comparison.nameMark ++ ":" ++ value.write browsers ++ ")"
  if !comparison.isStrict then test
  else if isInner then "(not " ++ test ++ ")"
  else "not " ++ test

def write (browsers : Browsers) (keepsComparisons : Bool) : FeatureTest → String
  | present feature => "(" ++ feature.write "" ++ ")"
  | plain feature value => "(" ++ feature.write "" ++ ":" ++ value.write browsers ++ ")"
  | range feature comparison value =>
    if keepsComparisons then
      "(" ++ feature.write "" ++ comparison.sign ++ value.write browsers ++ ")"
    else writeNamed browsers false feature comparison value
  | interval start first feature second finish =>
    if keepsComparisons then
      "(" ++ start.write browsers ++ first.sign ++ feature.write "" ++ second.sign ++
        finish.write browsers ++ ")"
    else
      writeNamed browsers true feature first.flip start ++ " and " ++
        writeNamed browsers true feature second finish

def needsParentheses (around : Option Junction) : FeatureTest → Bool
  | range _ comparison _ => comparison.isStrict
  | interval .. => around != some .both
  | _ => false

def opposite? : FeatureTest → Option FeatureTest
  | range feature comparison value =>
    comparison.opposite?.map fun comparison => range feature comparison value
  | _ => none

end FeatureTest

end ScopedStyles.Stylesheet
