import ScopedStyles.Stylesheet.Shortening
import ScopedStyles.Stylesheet.Value.Reader

namespace ScopedStyles.Stylesheet

namespace Flex

def directions : List String := ["row", "row-reverse", "column", "column-reverse"]

def wraps : List String := ["nowrap", "wrap", "wrap-reverse"]

def writeFlow : List Value → Value
  | [direction, wrap] =>
    let wraps := Value.unusual (.ofText "nowrap") wrap
    Value.spaced ((if direction.isText "row" && !wraps.isEmpty then [] else [direction]) ++ wraps)
  | values => Value.spaced values

def writeFlex : List Value → Value
  | [grow, shrink, basis] =>
    if grow.isText "0" && shrink.isText "0" && basis.isText "auto" then .none
    else
      let isShare := match basis with
        | [.measure (.value quantity)] => quantity.unit == "%"
        | _ => false
      let isNoShare := basis.isZero && isShare
      let isNoLength := basis.isZero && !isShare
      let isPlain := grow.isText "1" && shrink.isText "1"
      let factors := if isPlain && !basis.isZero then []
        else grow :: (if !shrink.isText "1" || isNoLength then [shrink] else [])
      Value.spaced (factors ++ (if isNoShare then [] else [basis]))
  | values => Value.spaced values

def readFlex : Reader (List Value) := do
  if ← Reader.succeeds (Reader.word "none") then
    return [.ofText "0", .ofText "0", .ofText "auto"]
  let one : Value := .ofText "1"
  let factors : Reader (List Value) := do
    let grow ← Reader.numberValue
    return [grow, ← Reader.orElse Reader.numberValue one]
  let basis : Reader (List Value) := do return [← Reader.measureOrAuto]
  match ← Reader.inAnyOrder [factors, basis] with
  | [factors, basis] => return factors.getD [one, one] ++ basis.getD [.ofPercentage 0]
  | _ => failure

def standard : List String :=
  ["flex-direction", "flex-wrap", "flex-flow", "flex-grow", "flex-shrink", "flex-basis", "flex",
    "order"]

def early : List (String × List String) :=
  [("box-orient", ["flex-direction", "flex-flow"]),
    ("box-direction", ["flex-direction", "flex-flow"]), ("box-ordinal-group", ["order"]),
    ("box-flex", ["flex-grow", "flex"]), ("box-lines", ["flex-wrap"]),
    ("flex-positive", ["flex-grow", "flex"]), ("flex-negative", ["flex-shrink", "flex"]),
    ("flex-preferred-size", ["flex-basis", "flex"]), ("flex-order", ["order"])]

def properties : List String := standard ++ early.map Prod.fst

def readOne (name : String) : Reader Value :=
  match name with
  | "flex-direction" => Reader.keywordOf directions
  | "flex-wrap" => Reader.keywordOf wraps
  | "flex-grow" | "flex-shrink" | "box-flex" | "flex-positive" | "flex-negative" =>
    Reader.numberValue
  | "flex-basis" | "flex-preferred-size" => Reader.measureOrAuto
  | "order" | "box-ordinal-group" | "flex-order" => Reader.integerValue
  | "box-orient" =>
    Reader.keywordOf ["horizontal", "vertical", "inline-axis", "block-axis"]
  | "box-direction" => Reader.keywordOf ["normal", "reverse"]
  | "box-lines" => Reader.keywordOf ["single", "multiple"]
  | _ => failure

def read (name : String) : Reader Setting :=
  match name with
  | "flex" => Setting.ofRecord writeFlex <$> readFlex
  | "flex-flow" => Setting.ofRecord writeFlow <$> Reader.valuesInAnyOrder
      [(Reader.keywordOf directions, .ofText "row"), (Reader.keywordOf wraps, .ofText "nowrap")]
  | _ => Setting.ofValue <$> readOne name

abbrev Step := StateT SpelledValues Shortening

def writeSingly (names : List String) : Step Unit := do
  let browsers ← (Shortening.browsers : Shortening Browsers)
  for name in names do
    if let some spelled := (← get).get? name then
      (Shortening.push ⟨name, browsers.spellings name spelled.spellings,
        .ofRecord Value.spaced spelled.value⟩ : Shortening Unit)

def writeTogether (name : String) (longhands : List String) (write : List Value → Value) :
    Step Unit := do
  let browsers ← (Shortening.browsers : Shortening Browsers)
  if let some (values, spellings) := (← get).common? longhands then
    (Shortening.push ⟨name, browsers.spellings name spellings,
      .ofRecord write values.flatten⟩ : Shortening Unit)
    modify fun g => g.without longhands spellings

def flush : Step Unit := do
  for (name, _) in early do
    if let some spelled := (← get).get? name then
      (Shortening.push ⟨name, spelled.spellings, .ofRecord Value.spaced spelled.value⟩ :
        Shortening Unit)
  writeTogether "flex-flow" ["flex-direction", "flex-wrap"] writeFlow
  writeSingly ["flex-direction", "flex-wrap"]
  writeTogether "flex" ["flex-grow", "flex-shrink", "flex-basis"] writeFlex
  writeSingly ["flex-grow", "flex-shrink", "flex-basis", "order"]
  set ([] : SpelledValues)

def takeEntries (entries : List (String × Value)) (spellings : List Spelling) : Step Unit := do
  for (name, value) in entries do
    if (← get).conflicts name [value] spellings then flush
  for (name, value) in entries do
    modify fun g => g.put name [value] spellings

def take (declaration : Declaration) : Step Bool := do
  let name := declaration.name
  if !properties.contains name then return false
  match declaration.setting with
  | .raw _ =>
    flush
    (Shortening.push declaration : Shortening Unit)
  | .known _ layers =>
    let values := layers.flatten
    let superfluous := (early.filter fun (_, names) => names.contains name).map Prod.fst
    modify fun g => g.drop superfluous
    let entries := match name with
      | "flex" => ["flex-grow", "flex-shrink", "flex-basis"].zip values
      | "flex-flow" => ["flex-direction", "flex-wrap"].zip values
      | _ => [(name, values.flatten)]
    takeEntries entries declaration.spellings
  return true

end Flex

namespace Alignment

def baseline : Reader Value := do
  let last : Reader String := Reader.word "last" *> Reader.word "baseline" *> pure "last baseline"
  let first : Reader String := Reader.word "first" *> Reader.word "baseline" *> pure "baseline"
  Value.ofText <$> (Reader.oneOf ["baseline"] <|> first <|> last)

def place (words : List String) : Reader Value := do
  match ← Reader.attempt (Reader.oneOf ["safe", "unsafe"]) with
  | some word => return Value.ofText (word ++ " " ++ (← Reader.oneOf words))
  | none => Reader.keywordOf words

def distributions : List String := ["space-between", "space-around", "space-evenly", "stretch"]

def contentPlaces : List String := ["center", "start", "end", "flex-start", "flex-end"]

def selfPlaces : List String :=
  ["center", "start", "end", "self-start", "self-end", "flex-start", "flex-end"]

def sides : List String := ["left", "right"]

def legacy : Reader Value := do
  let side := Reader.oneOf ["left", "right", "center"]
  let behind : Reader String := Reader.word "legacy" *> side
  let before : Reader String := side <* Reader.word "legacy"
  return Value.ofText ("legacy " ++ (← behind <|> before))

def readOne (name : String) : Reader Value :=
  let words (names : List String) : Reader Value := Reader.keywordOf names
  match name with
  | "align-content" => words ("normal" :: distributions) <|> baseline <|> place contentPlaces
  | "justify-content" => words ("normal" :: distributions) <|> place (contentPlaces ++ sides)
  | "align-self" => words ["auto", "normal", "stretch"] <|> baseline <|> place selfPlaces
  | "justify-self" =>
    words ["auto", "normal", "stretch"] <|> baseline <|> place (selfPlaces ++ sides)
  | "align-items" => words ["normal", "stretch"] <|> baseline <|> place selfPlaces
  | "justify-items" =>
    words ["normal", "stretch"] <|> baseline <|> legacy <|> place (selfPlaces ++ sides)
  | "row-gap" | "column-gap" => words ["normal"] <|> Reader.lengthPercentageValue
  | "box-align" => words ["start", "end", "center", "baseline", "stretch"]
  | "box-pack" => words ["start", "end", "center", "justify"]
  | "flex-pack" => words ["start", "end", "center", "justify", "distribute"]
  | "flex-align" => words ["start", "end", "center", "baseline", "stretch"]
  | "flex-item-align" => words ["auto", "start", "end", "center", "baseline", "stretch"]
  | "flex-line-pack" => words ["start", "end", "center", "justify", "distribute", "stretch"]
  | _ => failure

def shorthands : List (String × String × String) :=
  [("place-content", "align-content", "justify-content"),
    ("place-self", "align-self", "justify-self"), ("place-items", "align-items", "justify-items"),
    ("gap", "row-gap", "column-gap")]

def early : List (String × List String) :=
  [("flex-line-pack", ["align-content", "place-content"]),
    ("box-pack", ["justify-content", "place-content"]),
    ("flex-pack", ["justify-content", "place-content"]), ("box-align", ["align-items",
    "place-items"]), ("flex-align", ["align-items", "place-items"]),
    ("flex-item-align", ["align-self", "place-self"])]

def properties : List String :=
  shorthands.flatMap (fun (name, first, second) => [name, first, second]) ++ early.map Prod.fst

def writePair : List Value → Value
  | [first, second] => Value.pair first second
  | values => Value.spaced values

def readBoth (name first second : String) : Reader (List Value) := do
  let value ← readOne first
  let isBaseline := value.isText "baseline" || value.isText "last baseline"
  let copy := if name == "place-content" && isBaseline then Value.ofText "start" else value
  return [value, ← Reader.orElse (readOne second) copy]

def read (name : String) : Reader Setting :=
  match shorthands.find? (·.1 == name) with
  | some (_, first, second) => Setting.ofRecord writePair <$> readBoth name first second
  | none => Setting.ofValue <$> readOne name

abbrev Step := StateT SpelledValues Shortening

def writeTogether (name first second : String) : Step Unit := do
  let browsers ← (Shortening.browsers : Shortening Browsers)
  if let (some a, some b) := ((← get).get? first, (← get).get? second) then
    if a.spellings.contains .plain && b.spellings.contains .plain then
      for (longhand, spelled) in [(first, a), (second, b)] do
        let vendors := Spelling.diff (browsers.spellings longhand spelled.spellings) [.plain]
        if !vendors.isEmpty then
          (Shortening.push ⟨longhand, vendors, .ofRecord Value.spaced spelled.value⟩ :
            Shortening Unit)
      (Shortening.push (.plain name (.ofRecord writePair (a.value ++ b.value))) : Shortening Unit)
      modify fun g => g.drop [first, second]

def flush : Step Unit := do
  let browsers ← (Shortening.browsers : Shortening Browsers)
  for (name, _) in early do
    if let some spelled := (← get).get? name then
      (Shortening.push ⟨name, spelled.spellings, .ofRecord Value.spaced spelled.value⟩ :
        Shortening Unit)
  for (name, first, second) in shorthands do
    if browsers.areRecent || name == "gap" then writeTogether name first second
    Flex.writeSingly [first, second]
  set ([] : SpelledValues)

def takeEntries (entries : List (String × Value)) (spellings : List Spelling) : Step Unit := do
  let isSpelled (name : String) : Bool :=
    !(["justify-self", "justify-items", "row-gap", "column-gap"].contains name)
  for (name, value) in entries do
    if isSpelled name && (← get).conflicts name [value] spellings then flush
  for (name, value) in entries do
    modify fun g => g.put name [value] spellings

def take (declaration : Declaration) : Step Bool := do
  let name := declaration.name
  if !properties.contains name then return false
  match declaration.setting with
  | .raw _ =>
    flush
    (Shortening.push declaration : Shortening Unit)
  | .known _ layers =>
    let values := layers.flatten
    let superfluous := (early.filter fun (_, names) => names.contains name).map Prod.fst
    modify fun g => g.drop superfluous
    let entries := match shorthands.find? (·.1 == name) with
      | some (_, first, second) => [first, second].zip values
      | none => [(name, values.flatten)]
    takeEntries entries declaration.spellings
  return true

end Alignment

end ScopedStyles.Stylesheet
