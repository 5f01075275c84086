import ScopedStyles.Stylesheet.Shortening
import ScopedStyles.Stylesheet.Value.Reader

namespace ScopedStyles.Stylesheet.Font

def ofWeight (value : Float32) : Value :=
  let text := Number.write value
  let isCommon := 100 ≤ value && value ≤ 900 && Number.remainder value 100 == 0
  [if isCommon then .text text else .modern text]

def weight : Reader Value := do
  let named : Reader Value := do
    match ← Reader.oneOf ["normal", "bold", "bolder", "lighter"] with
    | "normal" => return [.renamed "normal" "400"]
    | "bold" => return [.renamed "bold" "700"]
    | other => return .ofText other
  ofWeight <$> Reader.number <|> named

def sizeNames : List String :=
  ["xx-small", "x-small", "small", "medium", "large", "x-large", "xx-large", "smaller", "larger"]

def size : Reader Value :=
  let largest : Reader Value := do
    Reader.word "xxx-large"
    return [.rare "xxx-large"]
  Reader.lengthPercentageValue <|> largest <|> Reader.keywordOf sizeNames

def stretches : List (String × String) := [
  ("normal", "100%"), ("ultra-condensed", "50%"), ("extra-condensed", "62.5%"),
  ("condensed", "75%"), ("semi-condensed", "87.5%"), ("semi-expanded", "112.5%"),
  ("expanded", "125%"), ("extra-expanded", "150%"), ("ultra-expanded", "200%")]

def namedStretch : Reader Value := do
  let name ← Reader.keyword
  match stretches.lookup name with
  | some share => return [.renamed name share]
  | none => failure

def stretch : Reader Value :=
  let share : Reader Value := do
    return [.modern (Quantity.writePercentage (← Reader.percentage))]
  namedStretch <|> share

def style : Reader Value := do
  match ← Reader.oneOf ["normal", "italic", "oblique"] with
  | "oblique" =>
    match ← Reader.attempt Reader.angle with
    | some angle =>
      return if angle == Quantity.degrees 14 then .ofText "oblique"
        else [.modern ("oblique " ++ angle.write)]
    | none => return .ofText "oblique"
  | other => return .ofText other

def capitals : List String :=
  ["normal", "small-caps", "all-small-caps", "petite-caps", "all-petite-caps", "unicase",
    "titling-caps"]

def lineHeight : Reader Value :=
  Reader.wordValue "normal" <|> Reader.numberValue <|> Reader.lengthPercentageValue

def genericFamilies : List String :=
  ["serif", "sans-serif", "cursive", "fantasy", "monospace", "system-ui", "emoji", "math",
    "fangsong", "ui-serif", "ui-sans-serif", "ui-monospace", "ui-rounded", "initial", "inherit",
    "unset", "default", "revert", "revert-layer"]

def genericFamily (name : String) : Value :=
  if name == "system-ui" then [.modern name]
  else if name.startsWith "ui-" then [.rare name]
  else .ofText name

def writeFamily (name : String) : String :=
  let plain := String.intercalate " " ((name.splitOn " ").map Token.writeIdent)
  let needsQuotes := name.isEmpty || genericFamilies.contains name.toLower ||
    plain.utf8ByteSize ≥ name.utf8ByteSize + 2
  if needsQuotes then Token.writeString name else plain

def family : Reader Value := do
  let quoted : Reader Value := do return .ofText (writeFamily (← Reader.string))
  let words : Reader Value := do
    let names ← Reader.many1 Reader.ident
    return .ofText (writeFamily (String.intercalate " " names))
  let generic : Reader Value := genericFamily <$> Reader.oneOf genericFamilies
  generic <|> quoted <|> words

def systemFonts : List Value :=
  ["-apple-system", "BlinkMacSystemFont", "Segoe UI", "Roboto", "Noto Sans", "Ubuntu", "Cantarell",
    "Helvetica Neue"].map Value.ofText

def withSystemFonts : List Value → List Value
  | [] => []
  | name :: rest =>
    if name == genericFamily "system-ui" then name :: systemFonts ++ rest
    else name :: withSystemFonts rest

def longhands : List String :=
  ["font-family", "font-size", "font-style", "font-variant-caps", "font-weight", "font-stretch",
    "line-height"]

def writeFont : List Value → Value
  | [family, size, style, capitals, weight, stretch, height] =>
    let normal : Value := .ofText "normal"
    let front := Value.unusual normal style ++ Value.unusual normal capitals ++
      Value.unusual [.renamed "normal" "400"] weight ++
      Value.unusual [.renamed "normal" "100%"] stretch
    let measures := if height == normal then size else size ++ .text "/" :: height
    Value.spaced (front ++ [measures, family])
  | values => Value.spaced values

def readFront : Reader (List (Option Value)) := do
  let normal : Reader Value := Reader.wordValue "normal"
  let notNormal (reader : Reader Value) : Reader Value := do
    if ← Reader.succeeds normal then failure
    reader
  let found ← Reader.inAnyOrder
    [normal, normal, normal, normal, normal, notNormal style, notNormal weight,
      Reader.keywordOf ["small-caps"], notNormal namedStretch]
  if (found.filter Option.isSome).length > 4 then failure
  return found.drop 5

def families : Reader (List Value) := Reader.commaSeparated family

def readFont : Reader (List Value) := do
  match ← readFront with
  | [style, weight, capitals, stretch] =>
    let size ← size
    let normal : Value := .ofText "normal"
    let height ← if ← Reader.succeeds (Reader.delim '/') then lineHeight else pure normal
    let families ← families
    let weight := weight.getD [.renamed "normal" "400"]
    let stretch := stretch.getD [.renamed "normal" "100%"]
    return [Value.commas families, size, style.getD normal, capitals.getD normal, weight, stretch,
      height] ++ families
  | _ => failure

def properties : List String := "font" :: longhands

def read (name : String) : Reader Setting :=
  match name with
  | "font" => do
    let values ← readFont
    return .known (writeFont (values.take 7)) [(values.take 7).drop 1, values.drop 7]
  | "font-family" => Setting.ofList <$> families
  | "font-size" => Setting.ofValue <$> size
  | "font-style" => Setting.ofValue <$> style
  | "font-variant-caps" => Setting.ofValue <$> Reader.keywordOf capitals
  | "font-weight" => Setting.ofValue <$> weight
  | "font-stretch" => Setting.ofValue <$> stretch
  | "line-height" => Setting.ofValue <$> lineHeight
  | _ => failure

structure Gathered where
  values : List (String × List Value) := []
  flushed : List String := []
  deriving Inhabited

abbrev Step := StateT Gathered Shortening

def write (name : String) (setting : Setting) : Step Unit := do
  (Shortening.push (.plain name setting) : Shortening Unit)
  modify fun g => { g with flushed := name :: g.flushed }

def settingOf (name : String) (values : List Value) : Setting :=
  if name == "font-family" then .ofList values else .ofRecord Value.spaced values

def flush : Step Unit := do
  let g ← get
  set { g with values := [] }
  let browsers ← (Shortening.browsers : Shortening Browsers)
  let isFirst := !(g.flushed.contains "font-family" || g.flushed.contains "font")
  let values := g.values.map fun (name, values) =>
    if name == "font-family" then
      let all := if browsers.areOld && isFirst then withSystemFonts values else values
      (name, all.eraseDups)
    else (name, values)
  match longhands.mapM fun name => values.lookup name with
  | some [families, size, style, capitals, weight, stretch, height] =>
    let capitals := capitals.flatten
    let isSimple := capitals.isText "normal" || capitals.isText "small-caps"
    let shown := [Value.commas families, size.flatten, style.flatten,
      if isSimple then capitals else .ofText "normal", weight.flatten, stretch.flatten,
      height.flatten]
    write "font" (.known (writeFont shown) [shown.drop 1, families])
    if !isSimple then write "font-variant-caps" (.ofValue capitals)
  | _ =>
    for name in longhands do
      if let some values := values.lookup name then write name (settingOf name values)

def flushBefore (name : String) (values : List Value) : Step Unit := do
  let browsers ← (Shortening.browsers : Shortening Browsers)
  if let some old := (← get).values.lookup name then
    if old != values && !values.all (Value.isKnown browsers) then flush

def take (declaration : Declaration) : Step Bool := do
  let name := declaration.name
  if !properties.contains name then return false
  match declaration.setting with
  | .raw _ =>
    flush
    (Shortening.push declaration : Shortening Unit)
    modify fun g => { g with flushed := name :: g.flushed }
  | .known _ layers =>
    let entries := match name, layers with
      | "font", [values, families] =>
        longhands.zip (families :: values.map ([·]))
      | _, _ => [(name, layers.flatten)]
    for (name, values) in entries do
      flushBefore name values
    for (name, values) in entries do
      modify fun g => { g with
        values := (name, values) :: g.values.filter fun (other, _) => other != name }
  return true

def finish : Step Unit := do
  flush
  modify fun g => { g with flushed := [] }

end ScopedStyles.Stylesheet.Font
