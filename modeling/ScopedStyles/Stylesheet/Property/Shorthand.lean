import ScopedStyles.Stylesheet.Property.Border

namespace ScopedStyles.Stylesheet

structure Shorthand where
  name : String
  longhands : List String
  order : List String
  write : List Value → Value

namespace Shorthand

def outline : Shorthand where
  name := "outline"
  longhands := ["outline-width", "outline-style", "outline-color"]
  order := ["outline-width", "outline-style", "outline-color"]
  write := Border.writeLine

def outlineStyle : Reader Value := Reader.wordValue "auto" <|> Reader.lineStyle

def countingStyles : List String :=
  ["decimal", "decimal-leading-zero", "arabic-indic", "armenian", "upper-armenian",
    "lower-armenian", "bengali", "cambodian", "khmer", "cjk-decimal", "devanagari", "georgian",
    "gujarati", "gurmukhi", "hebrew", "kannada", "lao", "malayalam", "mongolian", "myanmar",
    "oriya", "persian", "lower-roman", "upper-roman", "tamil", "telugu", "thai", "tibetan",
    "lower-alpha", "lower-latin", "upper-alpha", "upper-latin", "lower-greek", "hiragana",
    "hiragana-iroha", "katakana", "katakana-iroha", "disc", "circle", "square", "disclosure-open",
    "disclosure-closed", "cjk-earthly-branch", "cjk-heavenly-stem", "japanese-informal",
    "japanese-formal", "korean-hangul-formal", "korean-hanja-informal", "korean-hanja-formal",
    "simp-chinese-informal", "simp-chinese-formal", "trad-chinese-informal",
    "trad-chinese-formal", "ethiopic-numeric"]

def symbols : Reader Value :=
  Reader.call "symbols" do
    let kinds := ["cyclic", "numeric", "alphabetic", "symbolic", "fixed"]
    let kind ← Reader.orElse (Reader.oneOf kinds) "symbolic"
    let found ← Reader.many1 (Reader.stringValue <|> Reader.image)
    let shown := if kind == "symbolic" then found else Value.ofText kind :: found
    return .rare "symbols(" :: Value.spaced shown ++ [.text ")"]

def markerKind : Reader Value :=
  let quoted : Reader Value := do return [.modern (Token.writeString (← Reader.string))]
  let named : Reader Value := do
    let name ← Reader.when (·.toLower != "none") Reader.customIdent
    return Value.ofText (Token.writeIdent name)
  quoted <|> Reader.keywordOf countingStyles <|> symbols <|> named

def markerPosition : Reader Value := Reader.keywordOf ["inside", "outside"]

def writeUnusual (usual values : List Value) : Value :=
  let shown := (values.zip usual).flatMap fun (value, usual) => Value.unusual usual value
  if shown.isEmpty then values.headD [] else Value.spaced shown

def listStyle : Shorthand where
  name := "list-style"
  longhands := ["list-style-position", "list-style-image", "list-style-type"]
  order := ["list-style-image", "list-style-type", "list-style-position"]
  write := writeUnusual [.ofText "outside", .none, .ofText "disc"]

def markerImage : Reader Value := Reader.when (· != .none) Reader.image

def readListStyle : Reader (List Value) := do
  let nothing := Reader.wordValue "none"
  match ← Reader.inAnyOrder [markerPosition, markerImage, markerKind, nothing, nothing] with
  | [position, image, kind, first, second] =>
    if [position, image, kind, first].all Option.isNone then failure
    let position := position.getD (Value.ofText "outside")
    let disc := Value.ofText "disc"
    match image, kind, first, second with
    | image, kind, none, none => return [position, image.getD Value.none, kind.getD disc]
    | image, none, some _, none => return [position, image.getD Value.none, Value.none]
    | none, some kind, some _, none => return [position, Value.none, kind]
    | none, none, some _, some _ => return [position, Value.none, Value.none]
    | _, _, _, _ => failure
  | _ => failure

def containerName : Reader Value := do
  let isName (name : String) : Bool := !(["none", "and", "not", "or"].contains name.toLower)
  let name ← Reader.when isName Reader.customIdent
  return Value.ofText (Token.writeIdent name)

def containerNames : Reader Value :=
  Reader.wordValue "none" <|> Value.spaced <$> Reader.many1 containerName

def containerType : Reader Value := Reader.keywordOf ["normal", "inline-size", "size"]

def container : Shorthand where
  name := "container"
  longhands := ["container-name", "container-type"]
  order := ["container-type", "container-name"]
  write
    | [name, type] => if type.isText "normal" then name else name ++ .text "/" :: type
    | values => Value.spaced values

def all : List Shorthand := [outline, listStyle, container]

def properties (shorthand : Shorthand) : List String := shorthand.name :: shorthand.longhands

def readLonghand (name : String) : Reader Value :=
  match name with
  | "outline-width" => Reader.lineWidth
  | "outline-style" => outlineStyle
  | "outline-color" => Reader.colorValue
  | "list-style-position" => markerPosition
  | "list-style-image" => Reader.image
  | "list-style-type" => Reader.wordValue "none" <|> markerKind
  | "container-name" => containerNames
  | "container-type" => containerType
  | _ => failure

def readValues (name : String) : Reader (List Value) :=
  match name with
  | "outline" => Reader.line outlineStyle
  | "list-style" => readListStyle
  | _ => do
    let name ← containerNames
    return [name, ← Reader.orElse (Reader.delim '/' *> containerType) (Value.ofText "normal")]

def read (name : String) : Reader Setting :=
  match all.find? (·.name == name) with
  | some shorthand => Setting.ofRecord shorthand.write <$> readValues name
  | none => Setting.ofValue <$> readLonghand name

structure Gathered where
  values : List (String × Value) := []
  flushed : List String := []
  deriving Inhabited

abbrev Step := StateT Gathered Shortening

def writeForms (name : String) (isFirst : Bool) (shown : List Value → Value) (values : List Value) :
    Step Unit := do
  let browsers ← (Shortening.browsers : Shortening Browsers)
  let declare (layers : List (List Value)) : Declaration :=
    .plain name (.ofRecord shown layers.flatten)
  let forms := Value.imageForms browsers [values]
  if isFirst then
    (Shortening.pushAll (forms.earlier.map declare) : Shortening Unit)
    (Shortening.push (declare forms.last) : Shortening Unit)
  else (Shortening.push (declare [values]) : Shortening Unit)
  modify fun g => { g with flushed := name :: g.flushed }

def flush (shorthand : Shorthand) : Step Unit := do
  let g ← get
  set { g with values := [] }
  match shorthand.longhands.mapM fun name => g.values.lookup name with
  | some values => writeForms shorthand.name g.flushed.isEmpty shorthand.write values
  | none =>
    for name in shorthand.order do
      if let some value := g.values.lookup name then
        let isFirst := !(g.flushed.contains name || g.flushed.contains shorthand.name)
        writeForms name isFirst Value.spaced [value]

def flushBefore (shorthand : Shorthand) (name : String) (value : Value) : Step Unit := do
  let browsers ← (Shortening.browsers : Shortening Browsers)
  if ((← get).values.lookup name).isSome && !value.isKnown browsers then shorthand.flush

def put (name : String) (value : Value) : Step Unit :=
  modify fun g => { g with
    values := (name, value) :: g.values.filter fun (other, _) => other != name }

def take (shorthand : Shorthand) (declaration : Declaration) : Step Bool := do
  let name := declaration.name
  if !shorthand.properties.contains name then return false
  match declaration.setting with
  | .raw _ =>
    shorthand.flush
    (Shortening.pushRaw declaration : Shortening Unit)
    modify fun g => { g with flushed := name :: g.flushed }
  | .known _ layers =>
    let values := layers.flatten
    let entries := if name == shorthand.name then shorthand.longhands.zip values
      else [(name, values.flatten)]
    for (name, value) in entries do
      shorthand.flushBefore name value
    for (name, value) in entries do
      put name value
  return true

def finish (shorthand : Shorthand) : Step Unit := do
  shorthand.flush
  modify fun g => { g with flushed := [] }

end Shorthand

end ScopedStyles.Stylesheet
