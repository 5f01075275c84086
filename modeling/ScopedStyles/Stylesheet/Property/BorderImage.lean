import ScopedStyles.Stylesheet.Property.Background
import ScopedStyles.Stylesheet.Property.Border

namespace ScopedStyles.Stylesheet

namespace Reader

def imageSlice : Reader Value := do
  let isFilled ← succeeds (word "fill")
  match ← fourSides numberOrPercentageValue with
  | [top, right, bottom, left] =>
    let isFilledAfter ← if isFilled then pure true else succeeds (word "fill")
    return Value.sides top right bottom left ++ (if isFilledAfter then [.text " fill"] else [])
  | _ => failure

def sideWidth : Reader Value :=
  numberValue <|> lengthPercentageValue <|> wordValue "auto"

def sidesOf (reader : Reader Value) : Reader Value := Border.writeSides <$> fourSides reader

def sideRepeat : Reader Value := do
  let recent : Reader Value := do return [.modern (← oneOf ["round", "space"])]
  match ← twoValues (keywordOf ["stretch", "repeat"] <|> recent) with
  | [x, y] => return Value.pair x y
  | _ => failure

def imageParts : Reader (List (Option Value)) := do
  let slice ← imageSlice
  let more : Reader (List (Option Value)) := do
    delim '/'
    let width ← attempt (sidesOf sideWidth)
    let outset ← attempt (delim '/' *> sidesOf lengthOrNumber)
    if width.isNone && outset.isNone then failure
    return [width, outset]
  return some slice :: (← orElse more [none, none])

def imageAround (others : List (Reader Value)) : Reader (List (Option Value)) := do
  let one (reader : Reader Value) : Reader (List (Option Value)) := (fun v => [some v]) <$> reader
  let found ← inAnyOrder (imageParts :: one image :: one sideRepeat :: others.map one)
  match found with
  | parts :: image :: repetition :: others =>
    if found.all Option.isNone then failure
    let single (value : Option (List (Option Value))) : Option Value :=
      (value.bind List.head?).join
    return single image :: parts.getD [none, none, none] ++ single repetition ::
      others.map single
  | _ => failure

end Reader

namespace BorderImage

def usual : List Value :=
  [.none, .ofText "100%", .ofText "1", .ofText "0", .ofText "stretch"]

def writeImage : List Value → Value
  | source :: slice :: width :: outset :: repetition :: others =>
    let hasWidth := !width.isText "1"
    let hasOutset := !outset.isText "0"
    let slash : Value := .ofText "/"
    let parts : Value :=
      if !slice.isText "100%" || hasWidth || hasOutset then
        .text " " :: slice ++ (if hasWidth || hasOutset then slash else []) ++
          (if hasWidth then width else []) ++ (if hasOutset then slash ++ outset else [])
      else []
    (if source == .none then [] else source) ++ parts ++
      (if repetition.isText "stretch" then [] else .text " " :: repetition) ++
      others.flatten
  | values => Value.spaced values

def longhands : List String :=
  ["border-image-source", "border-image-slice", "border-image-width", "border-image-outset",
    "border-image-repeat"]

def properties : List String := "border-image" :: longhands

def read (name : String) : Reader Setting :=
  match name with
  | "border-image" => do
    let values ← Reader.imageAround []
    return Setting.ofRecord writeImage
      ((values.zip usual).map fun (value, usual) => value.getD usual)
  | "border-image-source" => Setting.ofValue <$> Reader.image
  | "border-image-slice" => Setting.ofValue <$> Reader.imageSlice
  | "border-image-width" => Setting.ofValue <$> Reader.sidesOf Reader.sideWidth
  | "border-image-outset" => Setting.ofValue <$> Reader.sidesOf Reader.lengthOrNumber
  | "border-image-repeat" => Setting.ofValue <$> Reader.sideRepeat
  | _ => failure

structure Gathered where
  values : List (String × Value) := []
  spellings : List Spelling := []
  flushed : List String := []
  deriving Inhabited

abbrev Step := StateT Gathered Shortening

def imageSpellings (value : Value) (among : List Spelling) : List Spelling :=
  Spelling.inter (value.filterMap Value.Part.spelling?) among

def spellingsFor (value : Value) (among : List Spelling) : List Spelling :=
  let own := imageSpellings value among
  if own.isEmpty then among else own

def isFilled (slice : Value) : Bool :=
  slice.getLast? == some (.text " fill")

def flush : Step Unit := do
  let g ← get
  set { g with values := [], spellings := [] }
  let browsers ← (Shortening.browsers : Shortening Browsers)
  let written (name : String) : Step Unit :=
    modify fun g => { g with flushed := name :: g.flushed }
  match longhands.mapM fun name => g.values.lookup name with
  | some values =>
    let needsForms := g.spellings.contains .plain && !isFilled (values.getD 1 [])
    let spellings := if needsForms then browsers.spellings "border-image" g.spellings
      else g.spellings
    let declare (layers : List (List Value)) : Declaration :=
      let values := layers.flatten
      ⟨"border-image", spellingsFor (values.headD []) spellings,
        .ofRecord writeImage values⟩
    let forms := Value.imageForms browsers [values]
    if needsForms && g.flushed.isEmpty then
      (Shortening.pushAll (forms.earlier.map declare) : Shortening Unit)
      (Shortening.push (declare forms.last) : Shortening Unit)
    else (Shortening.push (declare [values]) : Shortening Unit)
    written "border-image"
  | none =>
    for name in longhands do
      if let some value := g.values.lookup name then
        let declare (layers : List (List Value)) : Declaration :=
          .plain name (.ofValue layers.flatten.flatten)
        let forms := Value.imageForms browsers [[value]]
        if name == "border-image-source" && !g.flushed.contains name &&
            !g.flushed.contains "border-image" then
          (Shortening.pushAll (forms.earlier.map declare) : Shortening Unit)
          (Shortening.push (declare forms.last) : Shortening Unit)
        else (Shortening.push (declare [[value]]) : Shortening Unit)
        written name

def flushBefore (name : String) (value : Value) : Step Unit := do
  let browsers ← (Shortening.browsers : Shortening Browsers)
  if let some old := (← get).values.lookup name then
    if old != value && !value.isKnown browsers then flush

def put (name : String) (value : Value) : Step Unit :=
  modify fun g => { g with
    values := (name, value) :: g.values.filter fun (other, _) => other != name }

def willFlush (declaration : Declaration) (g : Gathered) : Bool :=
  properties.contains declaration.name &&
    match declaration.setting with
    | .raw _ => true
    | .known _ _ => declaration.name != "border-image" && g.spellings != [.plain]

def take (declaration : Declaration) : Step Bool := do
  let name := declaration.name
  if !properties.contains name then return false
  match declaration.setting with
  | .raw _ =>
    flush
    (Shortening.pushRaw declaration : Shortening Unit)
    modify fun g => { g with flushed := name :: g.flushed }
  | .known _ layers =>
    let values := layers.flatten
    if name == "border-image" then
      for (name, value) in longhands.zip values do
        flushBefore name value
      for (name, value) in longhands.zip values do
        put name value
      modify fun g => { g with spellings := Spelling.union g.spellings declaration.spellings }
    else
      let value := values.flatten
      if (← get).spellings != [.plain] then flush
      flushBefore name value
      put name value
      modify fun g => { g with spellings := [.plain] }
  return true

def finish : Step Unit := do
  flush
  modify fun g => { g with flushed := [] }

end BorderImage

namespace BorderRadius

def corners : List String :=
  ["border-top-left-radius", "border-top-right-radius", "border-bottom-right-radius",
    "border-bottom-left-radius"]

def directedCorners : List (String × String × String) :=
  [("border-start-start-radius", "border-top-left-radius", "border-top-right-radius"),
    ("border-start-end-radius", "border-top-right-radius", "border-top-left-radius"),
    ("border-end-end-radius", "border-bottom-right-radius", "border-bottom-left-radius"),
    ("border-end-start-radius", "border-bottom-left-radius", "border-bottom-right-radius")]

def properties : List String :=
  "border-radius" :: corners ++ directedCorners.map Prod.fst

def pairOf : Value → Value → List Value := fun width height => [width, height]

def writeRadii (corners : List (List Value)) : Value :=
  let widths := Border.writeSides (corners.map (·.getD 0 []))
  let heights := Border.writeSides (corners.map (·.getD 1 []))
  if corners.all fun corner => corner.getD 0 [] == corner.getD 1 [] then widths
  else widths ++ .text "/" :: heights

def readRadii : Reader (List (List Value)) := do
  let widths ← Reader.fourSides Reader.lengthPercentageValue
  let heights ← if ← Reader.succeeds (Reader.delim '/') then
      Reader.fourSides Reader.lengthPercentageValue
    else pure widths
  return List.zipWith pairOf widths heights

def read (name : String) : Reader Setting := do
  if name == "border-radius" then
    let corners ← readRadii
    return .known (writeRadii corners) corners
  else if properties.contains name then
    Setting.ofRecord Border.writeSides <$> Reader.twoValues Reader.lengthPercentageValue
  else failure

structure Gathered where
  corners : List (String × Spelled (List Value)) := []
  directed : List (String × Setting) := []
  isLogical : Bool := false
  deriving Inhabited

abbrev Step := StateT Gathered Shortening

def commonSpellings (all : List (Spelled (List Value))) : List Spelling :=
  all.foldl (fun common corner => Spelling.inter common corner.spellings) Spelling.all

def flush : Step Unit := do
  let g ← get
  set { g with corners := [], directed := [] }
  let browsers ← (Shortening.browsers : Shortening Browsers)
  let common := match corners.mapM fun name => g.corners.lookup name with
    | some all => commonSpellings all
    | none => []
  if !common.isEmpty then
    let values := corners.filterMap fun name => (g.corners.lookup name).map (·.value)
    (Shortening.push ⟨"border-radius", browsers.spellings "border-radius" common,
      .known (writeRadii values) values⟩ : Shortening Unit)
  for name in corners do
    if let some corner := g.corners.lookup name then
      let rest := Spelling.diff corner.spellings common
      if !rest.isEmpty then
        (Shortening.push ⟨name, browsers.spellings name rest,
          .ofRecord Border.writeSides corner.value⟩ : Shortening Unit)
  for (name, ltr, rtl) in directedCorners do
    if let some setting := g.directed.lookup name then
      if browsers.areRecent then (Shortening.push (.plain name setting) : Shortening Unit)
      else (Shortening.pushDirected (.plain ltr setting) (.plain rtl setting) : Shortening Unit)

def flushBefore (name : String) (value : List Value) (spellings : List Spelling) : Step Unit := do
  let browsers ← (Shortening.browsers : Shortening Browsers)
  if Spelled.conflicts ((← get).corners.lookup name) value spellings then flush
  if ((← get).corners.lookup name).isSome && !value.all (Value.isKnown browsers) then flush

def takeCorner (name : String) (value : List Value) (spellings : List Spelling) : Step Unit := do
  if (← get).isLogical then flush
  flushBefore name value spellings
  modify fun g => { g with
    corners := (name, Spelled.update (g.corners.lookup name) value spellings) ::
      g.corners.filter fun (other, _) => other != name
    isLogical := false }

def takeDirected (name : String) (setting : Setting) : Step Unit := do
  if !(← get).isLogical then flush
  modify fun g => { g with
    directed := (name, setting) :: g.directed.filter fun (other, _) => other != name
    isLogical := true }

def take (declaration : Declaration) : Step Bool := do
  let name := declaration.name
  if !properties.contains name then return false
  let isDirected := (directedCorners.lookup name).isSome
  match declaration.setting with
  | .raw raw =>
    if isDirected then takeDirected name (.raw raw)
    else
      flush
      let declaration ← (Shortening.respelled "border-radius" declaration : Shortening Declaration)
      (Shortening.push declaration : Shortening Unit)
  | .known _ layers =>
    if isDirected then takeDirected name declaration.setting
    else if name == "border-radius" then
      modify fun g => { g with directed := [] }
      for (name, value) in corners.zip layers do
        flushBefore name value declaration.spellings
      for (name, value) in corners.zip layers do
        takeCorner name value declaration.spellings
    else takeCorner name layers.flatten declaration.spellings
  return true

def finish : Step Unit := flush

end BorderRadius

end ScopedStyles.Stylesheet
