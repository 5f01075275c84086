import ScopedStyles.Stylesheet.Shortening
import ScopedStyles.Stylesheet.Value.Reader

namespace ScopedStyles.Stylesheet.TextDecoration

def lineKinds : List String := ["underline", "overline", "line-through", "blink"]

def line : Reader Value := do
  let alone : Reader Value := Reader.keywordOf ["none", "spelling-error", "grammar-error"]
  let several : Reader Value := do
    let words ← Reader.many1 (Reader.oneOf lineKinds)
    return .ofText (String.intercalate " " (lineKinds.filter words.contains))
  alone <|> several

def thickness : Reader Value :=
  Reader.keywordOf ["auto", "from-font"] <|> Reader.lengthPercentageValue

def style : Reader Value := Reader.keywordOf ["solid", "double", "dotted", "dashed", "wavy"]

def writeDecoration : List Value → Value
  | [line, thickness, style, color] =>
    if line == .none then line
    else
      Value.spaced (line :: Value.unusual (.ofText "auto") thickness ++
        Value.unusual (.ofText "solid") style ++ Value.unusual .currentColor color)
  | values => Value.spaced values

def marks : List String := ["dot", "circle", "double-circle", "triangle", "sesame"]

def emphasisStyle : Reader Value := do
  let shaped : Reader Value := do
    let shape ← Reader.attempt (Reader.oneOf marks)
    let fill ← Reader.attempt (Reader.oneOf ["filled", "open"])
    let shape ← if shape.isSome then pure shape else Reader.attempt (Reader.oneOf marks)
    match fill, shape with
    | none, none => failure
    | some fill, none => return .ofText fill
    | some "open", some shape => return .ofText ("open " ++ shape)
    | _, some shape => return .ofText shape
  Reader.wordValue "none" <|> Reader.stringValue <|> shaped

def writeEmphasis : List Value → Value
  | [style, color] =>
    if style == .none then style
    else Value.spaced (style :: Value.unusual .currentColor color)
  | values => Value.spaced values

def emphasisPosition : Reader Value := do
  let vertical := Reader.oneOf ["over", "under"]
  let horizontal := Reader.oneOf ["left", "right"]
  let write (vertical horizontal : String) : Value :=
    .ofText (if horizontal == "left" then vertical ++ " left" else vertical)
  match ← Reader.attempt horizontal with
  | some side => return write (← vertical) side
  | none =>
    let vertical ← vertical
    return write vertical (← Reader.orElse horizontal "right")

def alignments : List String :=
  ["start", "end", "left", "right", "center", "justify", "match-parent", "justify-all"]

def decorations : List String :=
  ["text-decoration", "text-decoration-line", "text-decoration-thickness", "text-decoration-style",
    "text-decoration-color"]

def emphases : List String :=
  ["text-emphasis", "text-emphasis-style", "text-emphasis-color", "text-emphasis-position"]

def properties : List String := decorations ++ emphases ++ ["text-align"]

def read (name : String) : Reader Setting :=
  let auto : Value := .ofText "auto"
  match name with
  | "text-decoration" => Setting.ofRecord writeDecoration <$> Reader.valuesInAnyOrder
      [(line, .none), (thickness, auto), (style, .ofText "solid"),
        (Reader.colorValue, .currentColor)]
  | "text-decoration-line" => Setting.ofValue <$> line
  | "text-decoration-thickness" => Setting.ofValue <$> thickness
  | "text-decoration-style" => Setting.ofValue <$> style
  | "text-decoration-color" | "text-emphasis-color" => Setting.ofValue <$> Reader.colorValue
  | "text-emphasis" => Setting.ofRecord writeEmphasis <$> Reader.valuesInAnyOrder
      [(emphasisStyle, .none), (Reader.colorValue, .currentColor)]
  | "text-emphasis-style" => Setting.ofValue <$> emphasisStyle
  | "text-emphasis-position" => Setting.ofValue <$> emphasisPosition
  | "text-align" => Setting.ofValue <$> Reader.keywordOf alignments
  | _ => failure

structure Gathered where
  values : SpelledValues := []
  thickness : Option Value := none
  deriving Inhabited

abbrev Step := StateT Gathered Shortening

def writeForms (name : String) (spellings : List Spelling) (write : List Value → Value)
    (values : List Value) : Step Unit := do
  let browsers ← (Shortening.browsers : Shortening Browsers)
  let declare (layers : List (List Value)) : Declaration :=
    ⟨name, spellings, .ofRecord write layers.flatten⟩
  let forms := Value.colorForms browsers [values]
  if spellings.contains .plain then
    (Shortening.pushAll (forms.earlier.map declare) : Shortening Unit)
    (Shortening.push (declare forms.last) : Shortening Unit)
  else (Shortening.push (declare [values]) : Shortening Unit)

def writeDecorations : Step Unit := do
  let browsers ← (Shortening.browsers : Shortening Browsers)
  let g ← get
  let names := ["text-decoration-line", "text-decoration-style", "text-decoration-color"]
  match names.mapM g.values.get?, g.thickness with
  | some [line, style, color], some thickness =>
    let auto : Value := .ofText "auto"
    let given := [line, style, color].foldl
      (fun all one => Spelling.union all one.spellings) []
    let isPlain := style.value == [.ofText "solid"] && color.value == [.currentColor]
    let values := line.value ++ auto :: style.value ++ color.value
    if given.contains .plain && !isPlain then
      writeForms "text-decoration" (browsers.spellings "text-decoration" [.plain])
        writeDecoration values
    else
      (Shortening.push ⟨"text-decoration", given, .ofRecord writeDecoration values⟩ :
        Shortening Unit)
    set { g with
      values := g.values.drop names
      thickness := if thickness == auto then none else some thickness }
  | _, _ => pure ()

def writeSingly (names : List String) : Step Unit := do
  let browsers ← (Shortening.browsers : Shortening Browsers)
  for name in names do
    if let some spelled := (← get).values.get? name then
      writeForms name (browsers.spellings name spelled.spellings) Value.spaced spelled.value

def thicknessOf (thickness : Value) : Value :=
  match thickness with
  | [.measure (.value quantity)] =>
    if quantity.unit == "%" then
      .ofMeasure (.function "calc" [.product quantity.value (.value ⟨1, "em"⟩)])
    else thickness
  | _ => thickness

def writeEmphases : Step Unit := do
  let browsers ← (Shortening.browsers : Shortening Browsers)
  let names := ["text-emphasis-style", "text-emphasis-color"]
  if let some (values, spellings) := (← get).values.common? names then
    writeForms "text-emphasis" (browsers.spellings "text-emphasis" spellings) writeEmphasis
      values.flatten
    modify fun g => { g with values := g.values.without names spellings }
  writeSingly names
  let name := "text-emphasis-position"
  if let some position := (← get).values.get? name then
    let isLeft := position.value.any fun value => value.isText "over left" ||
      value.isText "under left"
    let spellings := if isLeft then [.plain] else browsers.spellings name position.spellings
    (Shortening.push ⟨name, spellings, .ofRecord Value.spaced position.value⟩ : Shortening Unit)

def flush : Step Unit := do
  writeDecorations
  writeSingly ["text-decoration-line", "text-decoration-style", "text-decoration-color"]
  if let some thickness := (← get).thickness then
    (Shortening.push (.plain "text-decoration-thickness" (.ofValue (thicknessOf thickness))) :
      Shortening Unit)
  writeEmphases
  set ({} : Gathered)

def takeAlignment (declaration : Declaration) (value : Value) : Step Unit := do
  let browsers ← (Shortening.browsers : Shortening Browsers)
  let named (side : String) : Declaration := .plain "text-align" (.ofValue (.ofText side))
  let directed (ltr rtl : String) : Step Unit :=
    (Shortening.pushDirected (named ltr) (named rtl) : Shortening Unit)
  if browsers.areOld && value.isText "start" then directed "left" "right"
  else if browsers.areOld && value.isText "end" then directed "right" "left"
  else (Shortening.push declaration : Shortening Unit)

def takeEntries (entries : List (String × Value)) (spellings : List Spelling) : Step Unit := do
  for (name, value) in entries do
    if (← get).values.conflicts name [value] spellings then flush
  for (name, value) in entries do
    modify fun g => { g with values := g.values.put name [value] spellings }

def take (declaration : Declaration) : Step Bool := do
  let name := declaration.name
  let spellings := declaration.spellings
  match declaration.setting with
  | .raw _ =>
    if !(decorations ++ emphases).contains name then return false
    flush
    let family := if decorations.contains name then "text-decoration" else "text-emphasis"
    let isThickness := name == "text-decoration-thickness"
    let declaration ← (if isThickness then pure declaration
      else Shortening.respelled family declaration : Shortening Declaration)
    (Shortening.pushRaw declaration : Shortening Unit)
  | .known _ layers =>
    if !properties.contains name then return false
    let values := layers.flatten
    match name, values with
    | "text-align", _ => takeAlignment declaration values.flatten
    | "text-decoration-thickness", _ =>
      modify fun g => { g with thickness := some values.flatten }
    | "text-decoration", [line, thickness, style, color] =>
      takeEntries [("text-decoration-line", line), ("text-decoration-style", style),
        ("text-decoration-color", color)] spellings
      modify fun g => { g with thickness := some thickness }
    | "text-emphasis", [style, color] =>
      takeEntries [("text-emphasis-style", style), ("text-emphasis-color", color)] spellings
    | _, _ => takeEntries [(name, values.flatten)] spellings
  return true

def finish : Step Unit := flush

end ScopedStyles.Stylesheet.TextDecoration
