import ScopedStyles.Stylesheet.Condition.Feature

namespace ScopedStyles.Stylesheet

structure MediaQuery where
  qualifier : Option String
  medium : String
  demand : Option (Demand FeatureTest)
  deriving BEq, Inhabited

namespace MediaQuery

open DemandReader (lifted attempt)

def tests : DemandReader.TestReader FeatureTest where
  inParentheses := FeatureTest.read Feature.ofMedia
  call := fun _ _ => throw .wrong

def mediumName : Reader String := do
  let name ← Reader.ident
  return if ["all", "print", "screen"].contains name.toLower then name.toLower else name

def read : DemandReader MediaQuery := do
  let named ← attempt do
    let qualifier ← attempt (lifted (Reader.oneOf ["not", "only"]))
    return (qualifier, ← lifted mediumName)
  match named with
  | none => return ⟨none, "all", some (← DemandReader.demand tests true)⟩
  | some (qualifier, medium) =>
    match ← attempt (lifted (Reader.word "and")) with
    | none => return ⟨qualifier, medium, none⟩
    | some () => return ⟨qualifier, medium, some (← DemandReader.demand tests false)⟩

def readParts : List (List Piece) → Option (List MediaQuery)
  | [] => some []
  | part :: rest =>
    match (DemandReader.within part read).run [] with
    | .ok (query, _) => (readParts rest).map (query :: ·)
    | .error .early => if rest.isEmpty then some [] else none
    | .error _ => none

def listOfPieces? (pieces : List Piece) : Option (List MediaQuery) :=
  if (Piece.dropSpace pieces).isEmpty then some [] else readParts (Piece.splitByCommas pieces)

def holdsAlways (query : MediaQuery) : Bool :=
  query.qualifier.isNone && query.medium == "all" && query.demand.isNone

def holdsNever (query : MediaQuery) : Bool :=
  query.qualifier == some "not" && query.medium == "all" && query.demand.isNone

def dotsPerPixel (resolution : Quantity) : Float32 :=
  match resolution.unit with
  | "dpi" => resolution.value / 96
  | "dpcm" => resolution.value * 2.54 / 96
  | _ => resolution.value

def vendorTest : FeatureTest → FeatureTest
  | .range ⟨"resolution", kind⟩ comparison value =>
    match value with
    | .resolution quantity =>
      .range ⟨"-webkit-device-pixel-ratio", .number⟩ comparison
        (.value (Value.ofNumber (dotsPerPixel quantity)))
    | _ => .range ⟨"resolution", kind⟩ comparison value
  | test => test

def addVendorQueries (before : List MediaQuery) : List MediaQuery → List MediaQuery
  | [] => before
  | query :: rest =>
    let vendorQuery := { query with demand := query.demand.map (Demand.map vendorTest) }
    if (before ++ query :: rest).contains vendorQuery then
      addVendorQueries (before ++ [query]) rest
    else addVendorQueries (before ++ [vendorQuery, query]) rest

def wording (browsers : Browsers) : Demand.Wording FeatureTest where
  write := FeatureTest.write browsers false
  needsParentheses := FeatureTest.needsParentheses
  opposite? := FeatureTest.opposite?
  dropsDouble := true

def isEither : Demand FeatureTest → Bool
  | .joined .either _ => true
  | _ => false

def write (browsers : Browsers) (query : MediaQuery) : String :=
  let hasMedium := query.qualifier.isSome || query.medium != "all"
  let qualifier := (query.qualifier.map (· ++ " ")).getD ""
  match query.demand with
  | none => qualifier ++ query.medium
  | some demand =>
    let text := demand.write (wording browsers)
    if hasMedium then
      qualifier ++ query.medium ++ " and " ++ Demand.parenthesized (isEither demand) text
    else text

end MediaQuery

end ScopedStyles.Stylesheet
