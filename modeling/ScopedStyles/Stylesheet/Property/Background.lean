import ScopedStyles.Stylesheet.Shortening
import ScopedStyles.Stylesheet.Value.Reader

namespace ScopedStyles.Stylesheet

namespace Reader

def imageSize : Reader Value := do
  let measured : Reader Value := do
    let width ← measureOrAuto
    let height ← orElse measureOrAuto (Value.ofText "auto")
    return if height.isText "auto" then width else Value.spaced [width, height]
  measured <|> keywordOf ["contain", "cover"]

def imageRepeat : Reader Value := do
  match ← oneOf ["repeat-x", "repeat-y", "repeat", "space", "round", "no-repeat"] with
  | "repeat-x" => return Value.ofText "repeat-x"
  | "repeat-y" => return Value.ofText "repeat-y"
  | x =>
    let y ← orElse (oneOf ["repeat", "space", "round", "no-repeat"]) x
    return Value.ofText <|
      if x == "repeat" && y == "no-repeat" then "repeat-x"
      else if x == "no-repeat" && y == "repeat" then "repeat-y"
      else if x == y then x else x ++ " " ++ y

def positionValues : Reader (List Value) := do
  let position ← position
  return [[.coordinate position.x], [.coordinate position.y]]

def placeAndSize : Reader (List Value) := do
  let place ← positionValues
  return place ++ [← orElse (delim '/' *> imageSize) (Value.ofText "auto")]

end Reader

namespace Background

def attachments : List String := ["scroll", "fixed", "local"]

def boxes : List String := ["border-box", "padding-box", "content-box"]

def clips : List String := boxes ++ ["border", "text"]

def place (x y : Value) : Value :=
  match x, y with
  | [.coordinate x], [.coordinate y] => [.position ⟨x, y⟩]
  | _, _ => Value.spaced [x, y]

def placeIsZero (x y : Value) : Bool :=
  match x, y with
  | [.coordinate x], [.coordinate y] => x.isZero && y.isZero
  | _, _ => false

def writeLayer : List Value → Value
  | [color, image, x, y, size, repetition, attachment, origin, clip] =>
    let text := Value.ofText
    let isSized := !size.isText "auto"
    let needsOrigin := !origin.isText "padding-box" ||
      (!clip.isText "border-box" && boxes.any (clip.isText ·))
    let values :=
      Value.unusual Value.transparent color ++ Value.unusual Value.none image ++
      (if !placeIsZero x y || isSized
        then [place x y ++ (if isSized then .text "/" :: size else [])] else []) ++
      Value.unusual (text "repeat") repetition ++ Value.unusual (text "scroll") attachment ++
      (if needsOrigin then [origin] else []) ++
      (if (needsOrigin && clip != origin) || !clip.isText "border-box" then [clip] else [])
    if values.isEmpty then place x y else Value.spaced values
  | values => Value.spaced values

def readLayer : Reader (List Value) := do
  let one (reader : Reader Value) : Reader (List Value) := (fun value => [value]) <$> reader
  let found ← Reader.inAnyOrder
    [one Reader.colorValue, Reader.placeAndSize, one Reader.image, one Reader.imageRepeat,
      one (Reader.keywordOf attachments), one (Reader.keywordOf boxes),
      one (Reader.keywordOf clips)]
  match found with
  | [color, place, image, repetition, attachment, origin, clip] =>
    let text (name : String) : List Value := [Value.ofText name]
    let start : Value := [.coordinate .start]
    return color.getD [Value.transparent] ++ image.getD [Value.none] ++
      place.getD [start, start, Value.ofText "auto"] ++ repetition.getD (text "repeat") ++
      attachment.getD (text "scroll") ++ origin.getD (text "padding-box") ++
      (clip <|> origin).getD (text "border-box")
  | _ => failure

def read (name : String) : Reader Setting :=
  let list (reader : Reader Value) : Reader Setting :=
    Setting.ofList <$> Reader.commaSeparated reader
  match name with
  | "background" => Setting.ofLayers writeLayer <$> Reader.commaSeparated readLayer
  | "background-color" => Setting.ofValue <$> Reader.colorValue
  | "background-image" => list Reader.image
  | "background-position" => do
    let layers ← Reader.commaSeparated Reader.positionValues
    return Setting.ofLayers (fun | [x, y] => place x y | values => Value.spaced values) layers
  | "background-position-x" => list do return [.coordinate (← Reader.xCoordinate)]
  | "background-position-y" => list do return [.coordinate (← Reader.yCoordinate)]
  | "background-size" => list Reader.imageSize
  | "background-repeat" => list Reader.imageRepeat
  | "background-attachment" => list (Reader.keywordOf attachments)
  | "background-origin" => list (Reader.keywordOf boxes)
  | "background-clip" => list (Reader.keywordOf clips)
  | _ => failure

def properties : List String :=
  ["background", "background-color", "background-image", "background-position",
    "background-position-x", "background-position-y", "background-size", "background-repeat",
    "background-attachment", "background-origin", "background-clip"]

structure Gathered where
  color : Option Value := none
  images : Option (List Value) := none
  xs : Option (List Value) := none
  ys : Option (List Value) := none
  sizes : Option (List Value) := none
  repetitions : Option (List Value) := none
  attachments : Option (List Value) := none
  origins : Option (List Value) := none
  clips : Option (Spelled (List Value)) := none
  vendorImages : List Declaration := []
  endsWithVendorImage : Bool := false
  flushed : List String := []
  deriving Inhabited

abbrev Step := StateT Gathered Shortening

def column (layers : List (List Value)) (place : Nat) : List Value :=
  layers.map fun layer => layer.getD place []

def list (name : String) (values : List Value) : Declaration :=
  .plain name (.ofList values)

def isFlushed (name : String) (gathered : Gathered) : Bool :=
  gathered.flushed.contains name || gathered.flushed.contains "background"

def write (declaration : Declaration) : Step Unit := do
  (Shortening.push declaration : Shortening Unit)
  modify fun g => { g with flushed := declaration.name :: g.flushed }

def writeForms (isFirst : Bool) (forms : Value.Forms)
    (declare : List (List Value) → Declaration) : Step Unit := do
  if isFirst then
    for form in forms.earlier do
      write (declare form)
  write (declare forms.last)

def clipSpellings (clips : Spelled (List Value)) : List Spelling :=
  if clips.value.any (·.isText "text") && clips.spellings.contains .plain then [.webkit, .plain]
  else clips.spellings

def layers? (g : Gathered) : Option (List (List Value) × Spelled (List Value)) := do
  let color ← g.color
  let images ← g.images
  let clips ← g.clips
  let columns := [← g.xs, ← g.ys, ← g.sizes, ← g.repetitions, ← g.attachments, ← g.origins,
    clips.value]
  let count := images.length
  if columns.any (·.length != count) then none
  let rows := (List.range count).map fun i =>
    (if i + 1 = count then color else Value.transparent) :: images.getD i [] ::
      columns.map (·.getD i [])
  return (rows, clips)

def flushLayers (rows : List (List Value)) (clips : Spelled (List Value)) : Step Unit := do
  let browsers ← (Shortening.browsers : Shortening Browsers)
  let spellings := clipSpellings clips
  let isPlain := spellings == [.plain]
  let rows := if isPlain then rows else rows.map fun row => row.dropLast ++ [.ofText "border-box"]
  let declare (layers : List (List Value)) : Declaration :=
    .plain "background" (.ofLayers writeLayer layers)
  writeForms (← get).flushed.isEmpty (Value.imageForms browsers rows) declare
  if !isPlain then
    write ⟨"background-clip", spellings, .ofList clips.value⟩

def flushSingly (g : Gathered) : Step Unit := do
  let browsers ← (Shortening.browsers : Shortening Browsers)
  if let some color := g.color then
    writeForms (!isFlushed "background-color" (← get)) (Value.colorForms browsers [[color]])
      fun layers => .plain "background-color" (.ofValue layers.flatten.flatten)
  if let some images := g.images then
    writeForms (!isFlushed "background-image" (← get))
      (Value.imageForms browsers (images.map ([·])))
      fun layers => list "background-image" layers.flatten
  match g.xs, g.ys with
  | some xs, some ys =>
    if xs.length = ys.length then
      write (list "background-position" (List.zipWith place xs ys))
    else
      write (list "background-position-x" xs)
      write (list "background-position-y" ys)
  | some xs, none => write (list "background-position-x" xs)
  | none, some ys => write (list "background-position-y" ys)
  | none, none => pure ()
  let others := [("background-repeat", g.repetitions), ("background-size", g.sizes),
    ("background-attachment", g.attachments), ("background-origin", g.origins)]
  for (name, values) in others do
    if let some values := values then write (list name values)
  if let some clips := g.clips then
    write ⟨"background-clip", clipSpellings clips, .ofList clips.value⟩

def flush : Step Unit := do
  let g ← get
  set { vendorImages := g.vendorImages, endsWithVendorImage := g.endsWithVendorImage,
        flushed := g.flushed : Gathered }
  match layers? g with
  | some (rows, clips) => flushLayers rows clips
  | none => flushSingly g

def flushBefore (old : Option (List Value)) (new : List Value) : Step Unit := do
  let browsers ← (Shortening.browsers : Shortening Browsers)
  if let some old := old then
    if old != new && !new.all (Value.isKnown browsers) then flush

def prepareImages (declaration : Declaration) (images : List Value) : Step Unit := do
  flushBefore (← get).images images
  let isVendors := images.any Value.hasVendorImage
  modify fun g => { g with
    endsWithVendorImage := isVendors
    vendorImages := if isVendors then g.vendorImages ++ [declaration] else [] }

def prepareColor (color : Value) : Step Unit := do
  flushBefore ((← get).color.map ([·])) [color]

def takeClips (values : List Value) (spellings : List Spelling) : Step Unit := do
  let old := (← get).clips
  let isOther := old.any fun old => old.spellings != spellings && old.value != values
  if isOther then flush
  modify fun g => { g with clips := some (Spelled.update (if isOther then none else old) values
    spellings) }

def takeLayers (declaration : Declaration) (layers : List (List Value)) : Step Unit := do
  let column := column layers
  let color := (column 0).getLast?.getD Value.transparent
  prepareImages declaration (column 1)
  prepareColor color
  takeClips (column 8) [.plain]
  modify fun g => { g with
    color
    images := some (column 1)
    xs := some (column 2)
    ys := some (column 3)
    sizes := some (column 4)
    repetitions := some (column 5)
    attachments := some (column 6)
    origins := some (column 7) }

def take (declaration : Declaration) : Step Bool := do
  if !properties.contains declaration.name then return false
  match declaration.setting with
  | .raw _ =>
    flush
    let declaration ← (Shortening.withFallbacks declaration : Shortening Declaration)
    write declaration
  | .known _ layers =>
    let values := layers.flatten
    match declaration.name with
    | "background" => takeLayers declaration layers
    | "background-color" =>
      prepareColor values.flatten
      modify fun g => { g with color := some values.flatten }
    | "background-image" =>
      prepareImages declaration values
      modify fun g => { g with images := some values }
    | "background-position" =>
      modify fun g => { g with xs := some (column layers 0), ys := some (column layers 1) }
    | "background-position-x" => modify fun g => { g with xs := some values }
    | "background-position-y" => modify fun g => { g with ys := some values }
    | "background-size" => modify fun g => { g with sizes := some values }
    | "background-repeat" => modify fun g => { g with repetitions := some values }
    | "background-attachment" => modify fun g => { g with attachments := some values }
    | "background-origin" => modify fun g => { g with origins := some values }
    | _ => takeClips values declaration.spellings
  return true

def finish : Step Unit := do
  let g ← get
  let kept := if g.endsWithVendorImage then g.vendorImages.dropLast else g.vendorImages
  (Shortening.pushAll kept : Shortening Unit)
  set { g with vendorImages := [], endsWithVendorImage := false }
  flush
  modify fun g => { g with flushed := [] }

end Background

end ScopedStyles.Stylesheet
