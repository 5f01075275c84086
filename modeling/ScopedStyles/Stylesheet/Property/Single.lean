import ScopedStyles.Stylesheet.Property.Filter
import ScopedStyles.Stylesheet.Property.Shadow

namespace ScopedStyles.Stylesheet

namespace Single

def cursors : List String :=
  ["auto", "default", "none", "context-menu", "help", "pointer", "progress", "wait", "cell",
    "crosshair", "text", "vertical-text", "alias", "copy", "move", "no-drop", "not-allowed", "grab",
    "grabbing", "e-resize", "n-resize", "ne-resize", "nw-resize", "s-resize", "se-resize",
    "sw-resize", "w-resize", "ew-resize", "ns-resize", "nesw-resize", "nwse-resize", "col-resize",
    "row-resize", "all-scroll", "zoom-in", "zoom-out"]

def words : List (String × List String) := [
  ("transform-style", ["flat", "preserve-3d"]),
  ("transform-box", ["content-box", "border-box", "fill-box", "stroke-box", "view-box"]),
  ("backface-visibility", ["visible", "hidden"]),
  ("box-sizing", ["content-box", "border-box"]),
  ("hyphens", ["none", "manual", "auto"]),
  ("text-align-last",
    ["auto", "start", "end", "left", "right", "center", "justify", "match-parent"]),
  ("text-decoration-skip-ink", ["auto", "none", "all"]),
  ("text-overflow", ["clip", "ellipsis"]),
  ("user-select", ["auto", "text", "none", "contain", "all"]),
  ("box-decoration-break", ["slice", "clone"]),
  ("print-color-adjust", ["economy", "exact"]),
  ("visibility", ["visible", "hidden", "collapse"]),
  ("white-space", ["normal", "pre", "nowrap", "pre-wrap", "break-spaces", "pre-line"]),
  ("word-break", ["normal", "keep-all", "break-all", "break-word"]),
  ("line-break", ["auto", "loose", "normal", "strict", "anywhere"]),
  ("overflow-wrap", ["normal", "anywhere", "break-word"]),
  ("word-wrap", ["normal", "anywhere", "break-word"]),
  ("text-justify", ["auto", "none", "inter-word", "inter-character"]),
  ("direction", ["ltr", "rtl"]),
  ("unicode-bidi",
    ["normal", "embed", "isolate", "bidi-override", "isolate-override", "plaintext"]),
  ("resize", ["none", "both", "horizontal", "vertical", "block", "inline"]),
  ("caret-shape", ["auto", "bar", "block", "underscore"]),
  ("marker-side", ["match-self", "match-parent"]),
  ("fill-rule", ["nonzero", "evenodd"]),
  ("clip-rule", ["nonzero", "evenodd"]),
  ("stroke-linecap", ["butt", "round", "square"]),
  ("stroke-linejoin", ["miter", "miter-clip", "round", "bevel", "arcs"]),
  ("color-interpolation", ["auto", "srgb", "linearrgb"]),
  ("color-interpolation-filters", ["auto", "srgb", "linearrgb"]),
  ("color-rendering", ["auto", "optimizespeed", "optimizequality"]),
  ("shape-rendering", ["auto", "optimizespeed", "crispedges", "geometricprecision"]),
  ("text-rendering", ["auto", "optimizespeed", "optimizelegibility", "geometricprecision"]),
  ("image-rendering", ["auto", "optimizespeed", "optimizequality"]),
  ("mask-type", ["luminance", "alpha"])]

def positionValue : Reader Value := do return [.position (← Reader.position)]

def paint : Reader Value := do
  let addressed : Reader Value := do
    let address ← Reader.urlValue
    let other ← Reader.attempt (Reader.wordValue "none" <|> Reader.colorValue)
    return Value.spaced (address :: other.toList)
  addressed <|> Reader.colorValue <|> Reader.keywordOf ["none", "context-fill", "context-stroke"]

def autoOrColor : Reader Value := Reader.wordValue "auto" <|> Reader.colorValue

def caretShapes : List String := ["auto", "bar", "block", "underscore"]

def caret : Reader Value := do
  let auto : Value := .ofText "auto"
  match ← Reader.someInAnyOrder [(autoOrColor, auto), (Reader.keywordOf caretShapes, auto)] with
  | [color, shape] =>
    let values := Value.unusual auto color ++ Value.unusual auto shape
    return if values.isEmpty then auto else Value.spaced values
  | _ => failure

def appearances : List String :=
  ["none", "auto", "textfield", "menulist-button", "button", "checkbox", "listbox", "menulist",
    "meter", "progress-bar", "push-button", "radio", "searchfield", "slider-horizontal",
    "square-button", "textarea"]

def appearance : Reader Value := do
  let name ← Reader.ident
  return .ofText (if appearances.contains name.toLower then name.toLower else name)

def aspectRatio : Reader Value := do
  let ratio : Reader Value := do
    let width ← Reader.number
    let height ← Reader.orElse (Reader.delim '/' *> Reader.number) 1
    return .ofText (Number.write width ++ if height == 1 then "" else "/" ++ Number.write height)
  match ← Reader.inAnyOrder [Reader.wordValue "auto", ratio] with
  | [none, none] => failure
  | values => return Value.spaced values.reduceOption

def textTransform : Reader Value := do
  let single := Reader.oneOf ["none", "uppercase", "lowercase", "capitalize"]
  let wide := Reader.word "full-width" *> pure "full-width"
  let kana := Reader.word "full-size-kana" *> pure "full-size-kana"
  match ← Reader.inAnyOrder [single, wide, kana] with
  | [some "none", none, none] => return .none
  | [some "none", _, _] => failure
  | words =>
    let found := words.reduceOption
    return .ofText (if found.isEmpty then "none" else String.intercalate " " found)

def textIndent : Reader Value := do
  match ← Reader.inAnyOrder [Reader.lengthPercentageValue, Reader.wordValue "hanging",
      Reader.wordValue "each-line"] with
  | some value :: flags => return Value.spaced (value :: flags.reduceOption)
  | _ => failure

def cursor : Reader Value := do
  let image : Reader Value := do
    let address ← Reader.urlValue
    let point : Reader (List Value) := do
      let x ← Reader.numberValue
      return [x, ← Reader.numberValue]
    let point ← Reader.orElse point []
    Reader.comma
    return Value.spaced (address :: point)
  let images ← Reader.many image
  return Value.commas (images ++ [← Reader.keywordOf cursors])

def dashes : Reader Value := do
  let dash : Reader Value := do
    match ← Reader.lengthPercentage with
    | .value ⟨value, "px"⟩ => return .ofNumber value
    | measure => return .ofMeasure measure
  let next : Reader Value := (Reader.comma *> dash) <|> dash
  let several : Reader Value := do
    let first ← dash
    return Value.spaced (first :: (← Reader.many next))
  Reader.wordValue "none" <|> several

def colorScheme : Reader Value := do
  let first ← Reader.keyword
  let rest ← if first == "normal" then pure [] else Reader.many Reader.keyword
  let all := first :: rest
  if rest.contains "normal" || 1 < all.count "only" then failure
  if rest.contains "only" && rest.getLast? != some "only" then failure
  let schemes := ["light", "dark"].filter all.contains
  let isOnly := all.contains "only"
  return .ofText <|
    (if schemes.isEmpty && !isOnly then "normal" else String.intercalate " " schemes) ++
      (if isOnly then " only" else "")

def customIdents : Reader Value := Value.spaced <$> Reader.many1 Reader.customIdentValue

def lengthPair : Reader Value := do
  match ← Reader.twoValues Reader.lengthValue with
  | [x, y] => return Value.pair x y
  | _ => failure

def readValue (name : String) : Reader Value :=
  let auto := Reader.wordValue "auto"
  match name with
  | "color" => Reader.colorValue
  | "fill" | "stroke" => paint
  | "caret-color" | "accent-color" => autoOrColor
  | "caret" => caret
  | "transform-origin" | "perspective-origin" => positionValue
  | "perspective" => Reader.wordValue "none" <|> Reader.lengthValue
  | "tab-size" => Reader.lengthOrNumber
  | "appearance" => appearance
  | "text-size-adjust" =>
    Reader.keywordOf ["auto", "none"] <|> Value.ofPercentage <$> Reader.percentage
  | "opacity" | "fill-opacity" | "stroke-opacity" => Reader.shareValue
  | "aspect-ratio" => aspectRatio
  | "z-index" => auto <|> Reader.integerValue
  | "vertical-align" =>
    Reader.keywordOf ["baseline", "sub", "super", "top", "text-top", "middle", "bottom",
      "text-bottom"] <|> Reader.lengthPercentageValue
  | "border-spacing" => lengthPair
  | "text-transform" => textTransform
  | "word-spacing" | "letter-spacing" => Reader.wordValue "normal" <|> Reader.lengthValue
  | "text-indent" => textIndent
  | "cursor" => cursor
  | "stroke-width" | "stroke-dashoffset" => Reader.lengthPercentageValue
  | "stroke-dasharray" => dashes
  | "stroke-miterlimit" => Reader.numberValue
  | "box-flex-group" => Reader.integerValue
  | "marker" | "marker-start" | "marker-mid" | "marker-end" => Reader.noneOrUrl
  | "view-transition-name" => Reader.keywordOf ["none", "auto"] <|> Reader.customIdentValue
  | "view-transition-class" => Reader.wordValue "none" <|> customIdents
  | "view-transition-group" =>
    Reader.keywordOf ["normal", "contain", "nearest"] <|> Reader.customIdentValue
  | "font-palette" => Reader.dashedIdentValue
  | "color-scheme" => colorScheme
  | _ =>
    match words.lookup name with
    | some words => Reader.keywordOf words
    | none => failure

def read (name : String) : Reader Setting :=
  match name with
  | "text-shadow" => Shadow.readAll false
  | "filter" | "backdrop-filter" => Filter.read
  | "clip-path" => ClipPath.read
  | _ => Setting.ofValue <$> readValue name

def colored : List String :=
  ["color", "text-shadow", "filter", "backdrop-filter", "fill", "stroke", "caret-color", "caret"]

def marked : List String :=
  ["transform-origin", "transform-style", "backface-visibility", "perspective",
    "perspective-origin", "box-sizing", "tab-size", "hyphens", "text-align-last",
    "text-decoration-skip-ink", "text-overflow", "user-select", "appearance", "clip-path",
    "box-decoration-break", "text-size-adjust"]

abbrev Gathered := List (String × Nat)

abbrev Step := StateT Gathered Shortening

def pushAt (declaration : Declaration) : Step Unit := do
  let place ← (Shortening.count : Shortening Nat)
  (Shortening.push declaration : Shortening Unit)
  modify fun g => (declaration.name, place) :: g.filter (·.1 != declaration.name)

def pushOrReplace (declaration : Declaration) : Step Unit := do
  match (← get).lookup declaration.name with
  | some place => (Shortening.replace place declaration : Shortening Unit)
  | none => pushAt declaration

def takeColored (declaration : Declaration) : Step Bool := do
  if !colored.contains declaration.name then return false
  let browsers ← (Shortening.browsers : Shortening Browsers)
  let name := declaration.name
  let isFilter := name == "filter" || name == "backdrop-filter"
  let declaration := { declaration with
    spellings := browsers.spellings name declaration.spellings }
  match declaration.setting with
  | .raw _ => pushOrReplace (← (Shortening.withFallbacks declaration : Shortening Declaration))
  | .known shown _ =>
    if ((← get).lookup name).isNone then
      let (earlier, last) := declaration.setting.forms browsers
      (Shortening.pushAll (earlier.map fun setting => { declaration with setting }) :
        Shortening Unit)
      let isPlainOnly := !earlier.isEmpty && declaration.spellings.contains .plain
      pushAt { declaration with
        setting := last
        spellings := if isPlainOnly then [.plain] else declaration.spellings }
    else if isFilter || shown.isKnown browsers then pushOrReplace declaration
    else pushAt declaration
  return true

def takeMarked (declaration : Declaration) : Step Bool := do
  match declaration.setting with
  | .raw _ => return false
  | .known _ _ =>
    let name := declaration.name
    if !marked.contains name then return false
    let browsers ← (Shortening.browsers : Shortening Browsers)
    let place? := (← get).lookup name
    let old? ← (match place? with
      | some place => Shortening.written? place
      | none => pure none : Shortening (Option Declaration))
    match place?, old? with
    | some place, some old =>
      if old.setting == declaration.setting ||
          declaration.spellings.all old.spellings.contains then
        let spellings := browsers.spellings name
          (Spelling.union old.spellings declaration.spellings)
        (Shortening.replace place { declaration with spellings } : Shortening Unit)
        return true
    | _, _ => pure ()
    pushAt { declaration with spellings := browsers.spellings name declaration.spellings }
    return true

def takeScheme (declaration : Declaration) : Shortening Bool := do
  match declaration.name, declaration.setting with
  | "color-scheme", .known shown _ =>
    let isOf (scheme : String) : Bool := ((shown.write .recent).splitOn " ").contains scheme
    let on : Raw := [.token (.ident "initial")]
    let off : Raw := [.token (.space " ")]
    let define (scheme : String) (raw : Raw) : Declaration :=
      .plain ("--lightningcss-" ++ scheme) (.raw raw)
    if (← Shortening.browsers).knows .lightDark then pure ()
    else if isOf "light" then
      Shortening.pushAll [define "light" on, define "dark" off]
      if isOf "dark" then
        Shortening.pushDark (define "light" off)
        Shortening.pushDark (define "dark" on)
    else if isOf "dark" then
      Shortening.pushAll [define "light" off, define "dark" on]
    Shortening.push declaration
    return true
  | _, _ => return false

end Single

end ScopedStyles.Stylesheet
