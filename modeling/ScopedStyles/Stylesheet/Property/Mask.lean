import ScopedStyles.Stylesheet.Property.BorderImage

namespace ScopedStyles.Stylesheet.Mask

def boxes : List String :=
  ["border-box", "padding-box", "content-box", "margin-box", "fill-box", "stroke-box", "view-box"]

def borderBox : Value := .ofText "border-box"

def startPosition : Value := [.position .start]

def composites : List (String × String) :=
  [("add", "source-over"), ("subtract", "source-out"), ("intersect", "source-in"),
    ("exclude", "xor")]

def modes : List (String × String) :=
  [("luminance", "luminance"), ("alpha", "alpha"), ("match-source", "auto")]

def earlyComposites : List String :=
  ["clear", "copy", "source-over", "source-in", "source-out", "source-atop", "destination-over",
    "destination-in", "destination-out", "destination-atop", "xor"]

def early (names : List (String × String)) (value : Value) : Value :=
  match names.find? fun (name, _) => value.isText name with
  | some (_, name) => .ofText name
  | none => value

def box : Reader Value := Reader.keywordOf boxes

def clip : Reader Value := Reader.keywordOf (boxes ++ ["no-clip"])

def composite : Reader Value := Reader.keywordOf (composites.map Prod.fst)

def mode : Reader Value := Reader.keywordOf (modes.map Prod.fst)

def placeValue : Reader Value := do return [.position (← Reader.position)]

def longhands : List String :=
  ["mask-image", "mask-position", "mask-size", "mask-repeat", "mask-clip", "mask-origin",
    "mask-composite", "mask-mode"]

def usual : List Value :=
  [.none, startPosition, .ofText "auto", .ofText "repeat", borderBox, borderBox, .ofText "add",
    .ofText "match-source"]

def writeLayer : List Value → Value
  | [image, position, size, repetition, clip, origin, composite, mode] =>
    let isSized := !size.isText "auto"
    Value.spaced <|
      [image] ++
      (if position != startPosition || isSized
        then [position ++ (if isSized then .text "/" :: size else [])] else []) ++
      Value.unusual (.ofText "repeat") repetition ++
      (if origin != borderBox || clip != borderBox
        then origin :: Value.unusual origin clip else []) ++
      Value.unusual (.ofText "add") composite ++ Value.unusual (.ofText "match-source") mode
  | values => Value.spaced values

def readLayer : Reader (List Value) := do
  let one (reader : Reader Value) : Reader (List Value) := (fun value => [value]) <$> reader
  let auto : Value := .ofText "auto"
  let place : Reader (List Value) := do
    let position ← placeValue
    return [position, ← Reader.orElse (Reader.delim '/' *> Reader.imageSize) auto]
  match ← Reader.inAnyOrder [one Reader.image, place, one Reader.imageRepeat, one box, one clip,
      one composite, one mode] with
  | [image, place, repetition, origin, clip, composite, mode] =>
    return image.getD [.none] ++ place.getD [startPosition, auto] ++
      repetition.getD [.ofText "repeat"] ++ (clip <|> origin).getD [borderBox] ++
      origin.getD [borderBox] ++ composite.getD [.ofText "add"] ++
      mode.getD [.ofText "match-source"]
  | _ => failure

def borderLonghands : List (String × String) :=
  [("mask-border-source", "mask-box-image-source"), ("mask-border-slice", "mask-box-image-slice"),
    ("mask-border-width", "mask-box-image-width"), ("mask-border-outset", "mask-box-image-outset"),
    ("mask-border-repeat", "mask-box-image-repeat")]

def borderMode : Reader Value := Reader.keywordOf ["luminance", "alpha"]

def writeBorder : List Value → Value
  | [source, slice, width, outset, repetition, mode] =>
    BorderImage.writeImage [source, slice, width, outset, repetition,
      if mode.isText "alpha" then [] else .text " " :: mode]
  | values => BorderImage.writeImage values

def readBorder : Reader (List Value) := do
  let values ← Reader.imageAround [borderMode]
  return (values.zip (BorderImage.usual ++ [.ofText "alpha"])).map fun (value, usual) =>
    value.getD usual

def readBorderLonghand (name : String) : Reader Value :=
  match name with
  | "mask-border-source" => Reader.image
  | "mask-border-slice" => Reader.imageSlice
  | "mask-border-width" => Reader.sidesOf Reader.sideWidth
  | "mask-border-outset" => Reader.sidesOf Reader.lengthOrNumber
  | "mask-border-repeat" => Reader.sideRepeat
  | _ => failure

def standardName (name : String) : String :=
  ((borderLonghands.find? (·.2 == name)).map Prod.fst).getD name

def layerProperties : List String := "mask" :: longhands

def borderProperties : List String :=
  "mask-border" :: "mask-border-mode" :: borderLonghands.map Prod.fst

def properties : List String :=
  layerProperties ++ borderProperties ++ "mask-box-image" :: "mask-source-type" ::
    borderLonghands.map Prod.snd

def read (name : String) (spelling : Spelling) : Reader Setting :=
  let list (reader : Reader Value) : Reader Setting :=
    Setting.ofList <$> Reader.commaSeparated reader
  match name with
  | "mask" => Setting.ofLayers writeLayer <$> Reader.commaSeparated readLayer
  | "mask-image" => list Reader.image
  | "mask-position" => list placeValue
  | "mask-size" => list Reader.imageSize
  | "mask-repeat" => list Reader.imageRepeat
  | "mask-clip" => list clip
  | "mask-origin" => list box
  | "mask-composite" =>
    list (if spelling == .webkit then Reader.keywordOf earlyComposites else composite)
  | "mask-mode" => list mode
  | "mask-source-type" => list (Reader.keywordOf ["auto", "luminance", "alpha"])
  | "mask-border" => Setting.ofRecord writeBorder <$> readBorder
  | "mask-border-mode" => Setting.ofValue <$> borderMode
  | "mask-box-image" => do
    let values ← Reader.imageAround []
    return Setting.ofRecord writeBorder
      ((values.zip BorderImage.usual).map fun (value, usual) => value.getD usual)
  | _ => Setting.ofValue <$> readBorderLonghand (standardName name)

structure Gathered where
  values : SpelledValues := []
  composites : Option (List Value) := none
  modes : Option (List Value) := none
  borderMode : Option Value := none
  flushed : List (String × List Spelling) := []
  deriving Inhabited

abbrev Step := StateT Gathered Shortening

def write (declaration : Declaration) : Step Unit := do
  (Shortening.push declaration : Shortening Unit)
  modify fun g =>
    { g with flushed := (declaration.name, declaration.spellings) :: g.flushed }

def spellingsFor (values : List Value) (among : List Spelling) : List Spelling :=
  let own := Spelling.diff
    (Spelling.inter (values.flatten.filterMap Value.Part.spelling?) among) [.plain]
  if own.isEmpty then among else own

def writeLayers (rows : List (List Value)) (spellings : List Spelling) : Step Unit := do
  let column (i : Nat) : List Value := rows.map (·.getD i [])
  let isUnusual (i : Nat) : Bool := (column i).any (· != usual.getD i [])
  let push (spellings : List Spelling) (rows : List (List Value)) : Step Unit :=
    (Shortening.push ⟨"mask", spellings, .ofLayers writeLayer rows⟩ : Shortening Unit)
  if spellings.contains .webkit && (isUnusual 6 || isUnusual 7) then
    push [.webkit] (rows.map fun row => row.take 6 ++ usual.drop 6)
    if isUnusual 6 then
      (Shortening.push ⟨"mask-composite", [.webkit],
        .ofList ((column 6).map (early composites))⟩ : Shortening Unit)
    if isUnusual 7 then
      (Shortening.push ⟨"mask-source-type", [.webkit], .ofList ((column 7).map (early modes))⟩ :
        Shortening Unit)
    let rest := Spelling.diff spellings [.webkit]
    if !rest.isEmpty then push rest rows
  else push spellings rows
  modify fun g => { g with flushed := ("mask", Spelling.diff spellings
    (if isUnusual 6 || isUnusual 7 then [.webkit] else [])) :: g.flushed }

def writeLayersTogether : Step Unit := do
  let browsers ← (Shortening.browsers : Shortening Browsers)
  let g ← get
  let names := longhands.take 6
  match g.values.common? names, g.composites, g.modes with
  | some (columns, spellings), some composites, some modes =>
    let columns := columns ++ [composites, modes]
    let count := (columns.headD []).length
    if columns.all (·.length == count) then
      let rows := (List.range count).map fun i => columns.map (·.getD i [])
      let among := browsers.spellings "mask" spellings
      let images (rows : List (List Value)) : List Value := rows.map (·.headD [])
      let forms := Value.imageForms browsers rows
      if g.flushed.contains ("mask", among) then writeLayers rows among
      else
        for form in forms.earlier do
          writeLayers form (spellingsFor (images form) among)
        writeLayers forms.last (spellingsFor (images forms.last) among)
      modify fun g => { g with
        values := g.values.without names spellings, composites := none, modes := none }
  | _, _, _ => pure ()

def writeImages (images : List Value) (given : List Spelling) : Step Unit := do
  let browsers ← (Shortening.browsers : Shortening Browsers)
  let declare (among : List Spelling) (images : List Value) : Declaration :=
    ⟨"mask-image", spellingsFor images among, .ofList images⟩
  if (← get).flushed.any (·.1 == "mask-image") then
    write ⟨"mask-image", given, .ofList images⟩
  else
    let among := browsers.spellings "mask-image" given
    let forms := Value.imageForms browsers (images.map ([·]))
    for form in forms.earlier do
      write (declare among form.flatten)
    write (declare among forms.last.flatten)

def writeWithEarly (name earlyName : String) (values : List Value)
    (names : List (String × String)) : Step Unit := do
  write ⟨earlyName, [.webkit], .ofList (values.map (early names))⟩
  write (.plain name (.ofList values))

def flushLayers : Step Unit := do
  let browsers ← (Shortening.browsers : Shortening Browsers)
  writeLayersTogether
  let g ← get
  if let some images := g.values.get? "mask-image" then
    writeImages images.value images.spellings
  for name in ["mask-position", "mask-size", "mask-repeat", "mask-clip", "mask-origin"] do
    if let some spelled := g.values.get? name then
      write ⟨name, browsers.spellings name spelled.spellings, .ofList spelled.value⟩
  if let some values := g.composites then
    writeWithEarly "mask-composite" "mask-composite" values composites
  if let some values := g.modes then
    writeWithEarly "mask-mode" "mask-source-type" values modes

def writeNamed (name earlyName : String) (spellings : List Spelling) (setting : Setting) :
    Step Unit := do
  if spellings.contains .webkit then write ⟨earlyName, [.webkit], setting⟩
  if spellings.contains .plain then write (.plain name setting)

def wasFlushed (names : List String) (g : Gathered) : Bool :=
  g.flushed.any fun (name, _) => names.contains name

def writeBorderTogether : Step Unit := do
  let browsers ← (Shortening.browsers : Shortening Browsers)
  let g ← get
  let names := borderLonghands.map Prod.fst
  if let some (columns, spellings) := g.values.common? names then
    if !spellings.contains .plain || g.borderMode.isSome then
      let values := columns.flatten
      let among := browsers.spellings "mask-border" spellings
      let mode := g.borderMode.getD (.ofText "alpha")
      let writeForm (values : List Value) (spellings : List Spelling) : Step Unit := do
        if spellings.contains .webkit then
          write ⟨"mask-box-image", [.webkit], .ofRecord writeBorder values⟩
        if spellings.contains .plain then
          write (.plain "mask-border" (.ofRecord writeBorder (values ++ [mode])))
      let forms := Value.imageForms browsers [values]
      let writeSpelled (values : List Value) : Step Unit :=
        writeForm values (spellingsFor (values.take 1) among)
      if !wasFlushed ["mask-border", "mask-box-image"] g then
        for form in forms.earlier do
          writeSpelled form.flatten
        writeSpelled forms.last.flatten
      else writeSpelled values
      let isPlain := (spellingsFor (values.take 1) among).contains .plain
      modify fun g => { g with
        values := g.values.without names spellings
        borderMode := if isPlain then none else g.borderMode }

def flushBorder : Step Unit := do
  let browsers ← (Shortening.browsers : Shortening Browsers)
  writeBorderTogether
  let g ← get
  for (name, earlyName) in borderLonghands do
    if let some spelled := g.values.get? name then
      let spellings := browsers.spellings name spelled.spellings
      let forms := Value.imageForms browsers [spelled.value]
      if name == "mask-border-source" && !wasFlushed [name] (← get) then
        for form in forms.earlier do
          writeNamed name earlyName spellings (.ofRecord Value.spaced form.flatten)
        writeNamed name earlyName spellings (.ofRecord Value.spaced forms.last.flatten)
      else writeNamed name earlyName spellings (.ofRecord Value.spaced spelled.value)
  if let some mode := g.borderMode then
    write (.plain "mask-border-mode" (.ofValue mode))

def flush : Step Unit := do
  flushLayers
  flushBorder
  modify fun g => { flushed := g.flushed }

def takeEntries (entries : List (String × List Value)) (spellings : List Spelling) :
    Step Unit := do
  let browsers ← (Shortening.browsers : Shortening Browsers)
  for (name, values) in entries do
    if (← get).values.conflicts name values spellings then flush
    if ((← get).values.get? name).isSome && !values.all (Value.isKnown browsers) then flush
  for (name, values) in entries do
    modify fun g => { g with values := g.values.put name values spellings }

def takeRaw (declaration : Declaration) : Step Unit := do
  let name := declaration.name
  flush
  if layerProperties.contains name then
    let declaration ← (if longhands.drop 6 |>.contains name then pure declaration
      else Shortening.respelled "mask" declaration : Shortening Declaration)
    write (← (Shortening.withFallbacks declaration : Shortening Declaration))
  else
    let earlyNames := ("mask-border", "mask-box-image") :: borderLonghands
    if let some earlyName := earlyNames.lookup name then
      let early : Declaration := { declaration with name := earlyName, spellings := [.webkit] }
      write (← (Shortening.withFallbacks early : Shortening Declaration))
    write (← (Shortening.withFallbacks declaration : Shortening Declaration))

def take (declaration : Declaration) : Step Bool := do
  let name := declaration.name
  let spellings := declaration.spellings
  let isEarly := name == "mask-composite" && spellings == [.webkit]
  if isEarly || name == "mask-source-type" || !properties.contains name then return false
  match declaration.setting with
  | .raw _ =>
    if !(layerProperties ++ borderProperties).contains name then return false
    takeRaw declaration
  | .known _ layers =>
    let values := layers.flatten
    match name with
    | "mask-composite" => modify fun g => { g with composites := some values }
    | "mask-mode" => modify fun g => { g with modes := some values }
    | "mask" =>
      let column (i : Nat) : List Value := layers.map (·.getD i [])
      takeEntries ((longhands.take 6).zipIdx.map fun (name, i) => (name, column i)) spellings
      modify fun g => { g with composites := some (column 6), modes := some (column 7) }
    | "mask-border-mode" => modify fun g => { g with borderMode := some values.flatten }
    | "mask-border" =>
      takeEntries ((borderLonghands.map Prod.fst).zip (values.map ([·]))) [.plain]
      modify fun g => { g with borderMode := values[5]? }
    | "mask-box-image" =>
      takeEntries ((borderLonghands.map Prod.fst).zip (values.map ([·]))) [.webkit]
    | _ =>
      if layerProperties.contains name then takeEntries [(name, values)] spellings
      else takeEntries [(standardName name, values)] spellings
  return true

def finish : Step Unit := do
  flush
  set ({} : Gathered)

end Mask

end ScopedStyles.Stylesheet
