import ScopedStyles.Stylesheet.Property.Names
import ScopedStyles.Stylesheet.Shortening
import ScopedStyles.Stylesheet.Value.Reader

namespace ScopedStyles.Stylesheet.Animation

def needsQuotes (name : String) : Bool :=
  ("none" :: Raw.reservedNames).contains name.toLower

def writeName (name : String) : String :=
  if needsQuotes name then Token.writeString name else Token.writeIdent name

def keyframes : Reader Value := do
  let quoted : Reader Value := do return .ofText (writeName (← Reader.string))
  Reader.wordValue "none" <|> quoted <|> Reader.customIdentValue

def directions : List String := ["normal", "reverse", "alternate", "alternate-reverse"]

def playStates : List String := ["running", "paused"]

def fillModes : List String := ["none", "forwards", "backwards", "both"]

def count : Reader Value := Reader.numberValue <|> Reader.wordValue "infinite"

def axes : List String := ["block", "inline", "x", "y"]

def scrollTimeline : Reader Value :=
  Reader.call "scroll" do
    let nearest : Value := .ofText "nearest"
    let block : Value := .ofText "block"
    match ← Reader.valuesInAnyOrder [(Reader.keywordOf ["root", "nearest", "self"], nearest),
        (Reader.keywordOf axes, block)] with
    | [scroller, axis] =>
      return .text "scroll(" ::
        Value.spaced (Value.unusual nearest scroller ++ Value.unusual block axis) ++ [.text ")"]
    | _ => failure

def viewTimeline : Reader Value :=
  Reader.call "view" do
    let block : Value := .ofText "block"
    let auto : Value := .ofText "auto"
    let inset : Reader Value := do
      match ← Reader.twoValues Reader.measureOrAuto with
      | [start, finish] => return Value.pair start finish
      | _ => failure
    match ← Reader.valuesInAnyOrder [(Reader.keywordOf axes, block), (inset, auto)] with
    | [axis, inset] =>
      return .text "view(" ::
        Value.spaced (Value.unusual block axis ++ Value.unusual auto inset) ++ [.text ")"]
    | _ => failure

def timeline : Reader Value :=
  Reader.keywordOf ["auto", "none"] <|> Reader.dashedIdentValue <|> scrollTimeline <|> viewTimeline

def noTime : Value := .ofMeasure (.value ⟨0, "s"⟩)

def unlessUsual (usual : String) (value : Value) (isAmbiguous : Bool) : List Value :=
  if !value.isText usual || isAmbiguous then [value] else []

def writeItem : List Value → Value
  | [name, duration, easing, count, direction, playState, delay, fillMode, timeline] =>
    if name == .none then name
    else
      let text := name.write .recent
      let isOne (words : List String) : Bool := words.contains text.toLower
      Value.spaced <|
        (if duration.isZero && delay.isZero then [] else [duration]) ++
        unlessUsual "ease" easing (isOne Reader.easingNames) ++
        (if delay.isZero then [] else [delay]) ++
        unlessUsual "1" count (text == "infinite") ++
        unlessUsual "normal" direction (isOne directions) ++
        unlessUsual "none" fillMode (isOne (fillModes.drop 1)) ++
        unlessUsual "running" playState (isOne playStates) ++
        name :: Value.unusual (.ofText "auto") timeline
  | values => Value.spaced values

def readItem : Reader (List Value) := do
  let text := Value.ofText
  match ← Reader.valuesInAnyOrder [(Reader.timeValue, noTime), (Reader.easing, text "ease"),
      (Reader.timeValue, noTime), (count, text "1"), (Reader.keywordOf directions, text "normal"),
      (Reader.keywordOf fillModes, .none), (Reader.keywordOf playStates, text "running"),
      (keyframes, .none), (timeline, text "auto")] with
  | [duration, easing, delay, count, direction, fillMode, playState, name, timeline] =>
    return [name, duration, easing, count, direction, playState, delay, fillMode, timeline]
  | _ => failure

def rangeNames : List String :=
  ["cover", "contain", "entry", "exit", "entry-crossing", "exit-crossing"]

structure RangeEnd where
  name : Option String
  measure : Option Value
  deriving BEq, Inhabited

namespace RangeEnd

def normal : RangeEnd := ⟨none, none⟩

def offset (isStart : Bool) : Value := .ofPercentage (if isStart then 0 else 1)

def read (isStart : Bool) : Reader RangeEnd := do
  let measured : Reader RangeEnd := do return ⟨none, some (← Reader.lengthPercentageValue)⟩
  let named : Reader RangeEnd := do
    let name ← Reader.oneOf rangeNames
    return ⟨some name, some (← Reader.orElse Reader.lengthPercentageValue (offset isStart))⟩
  (Reader.word "normal" *> pure normal) <|> measured <|> named

def write (isStart : Bool) (value : RangeEnd) : Value :=
  match value.name, value.measure with
  | none, measure => measure.getD (.ofText "normal")
  | some name, measure =>
    Value.spaced (.ofText name :: Value.unusual (offset isStart) (measure.getD (offset isStart)))

end RangeEnd

def writeRange : List Value → Value
  | [start, finish] =>
    let isRange (value : Value) : Bool := rangeNames.any fun name =>
      value.head?.any (· == .text name)
    let follows := finish.isText "normal" ||
      (isRange start && finish.length == 1 && start.head? == finish.head?)
    if follows then start else Value.spaced [start, finish]
  | values => Value.spaced values

def readRange : Reader (List Value) := do
  let start ← RangeEnd.read true
  let follower : RangeEnd := match start.name with
    | some name => ⟨some name, some (RangeEnd.offset false)⟩
    | none => .normal
  let finish ← Reader.orElse (RangeEnd.read false) follower
  return [start.write true, finish.write false]

def longhands : List String :=
  ["animation-name", "animation-duration", "animation-timing-function",
    "animation-iteration-count", "animation-direction", "animation-play-state", "animation-delay",
    "animation-fill-mode"]

def properties : List String :=
  "animation" :: longhands ++ ["animation-composition", "animation-timeline",
    "animation-range-start", "animation-range-end", "animation-range"]

def read (name : String) : Reader Setting :=
  let list (reader : Reader Value) : Reader Setting :=
    Setting.ofList <$> Reader.commaSeparated reader
  match name with
  | "animation" => Setting.ofLayers writeItem <$> Reader.commaSeparated readItem
  | "animation-name" => list keyframes
  | "animation-duration" | "animation-delay" => list Reader.timeValue
  | "animation-timing-function" => list Reader.easing
  | "animation-iteration-count" => list count
  | "animation-direction" => list (Reader.keywordOf directions)
  | "animation-play-state" => list (Reader.keywordOf playStates)
  | "animation-fill-mode" => list (Reader.keywordOf fillModes)
  | "animation-composition" => list (Reader.keywordOf ["replace", "add", "accumulate"])
  | "animation-timeline" => list timeline
  | "animation-range-start" => list (RangeEnd.write true <$> RangeEnd.read true)
  | "animation-range-end" => list (RangeEnd.write false <$> RangeEnd.read false)
  | "animation-range" => Setting.ofLayers writeRange <$> Reader.commaSeparated readRange
  | _ => failure

structure Gathered where
  values : SpelledValues := []
  timelines : Option (List Value) := none
  starts : Option (List Value) := none
  ends : Option (List Value) := none
  deriving Inhabited

abbrev Step := StateT Gathered Shortening

def list (name : String) (values : List Value) : Declaration :=
  .plain name (.ofList values)

def pushDeclaration (declaration : Declaration) : Step Unit :=
  (Shortening.push declaration : Shortening Unit)

def writeTogether : Step Unit := do
  let browsers ← (Shortening.browsers : Shortening Browsers)
  let g ← get
  let auto : Value := .ofText "auto"
  if let some (columns, spellings) := g.values.common? longhands then
    let count := (columns.headD []).length
    let timelines := g.timelines.getD <|
      if spellings.contains .plain then [] else List.replicate count auto
    if columns.all (·.length == count) && timelines.length == count then
      let item (i : Nat) : List Value := columns.map (·.getD i []) ++ [auto]
      pushDeclaration ⟨"animation", browsers.spellings "animation" spellings,
        .ofLayers writeItem ((List.range count).map item)⟩
      if timelines.any (· != auto) then pushDeclaration (list "animation-timeline" timelines)
      set { g with values := g.values.without longhands spellings, timelines := none }

def writeRanges (g : Gathered) : Step Unit := do
  match g.starts, g.ends with
  | some starts, some ends =>
    if starts.length == ends.length then
      let rows := List.zipWith (fun start finish => [start, finish]) starts ends
      pushDeclaration (.plain "animation-range" (.ofLayers writeRange rows))
    else
      pushDeclaration (list "animation-range-start" starts)
      pushDeclaration (list "animation-range-end" ends)
  | some starts, none => pushDeclaration (list "animation-range-start" starts)
  | none, some ends => pushDeclaration (list "animation-range-end" ends)
  | none, none => pure ()

def flush : Step Unit := do
  let browsers ← (Shortening.browsers : Shortening Browsers)
  writeTogether
  let g ← get
  set ({} : Gathered)
  for name in longhands do
    if let some spelled := g.values.get? name then
      pushDeclaration ⟨name, browsers.spellings name spelled.spellings, .ofList spelled.value⟩
  if let some timelines := g.timelines then
    pushDeclaration (list "animation-timeline" timelines)
  writeRanges g

def withNames (raw : Raw) : Raw :=
  raw.map fun
    | .token (.string name) => .token (if needsQuotes name then .string name else .ident name)
    | part => part

def takeRaw (declaration : Declaration) (raw : Raw) : Step Unit := do
  if declaration.name == "animation" then
    modify fun g => { g with starts := none, ends := none }
  flush
  let raw := if declaration.name == "animation" then withNames raw else raw
  let declaration : Declaration := { declaration with setting := .raw raw }
  if PropertyName.hasMarks declaration.name then
    pushDeclaration (← (Shortening.respelled "animation" declaration : Shortening Declaration))
  else pushDeclaration declaration

def take (declaration : Declaration) : Step Bool := do
  let name := declaration.name
  if !properties.contains name then return false
  match declaration.setting with
  | .raw raw => takeRaw declaration raw
  | .known _ layers =>
    let column (i : Nat) : List Value := layers.map (·.getD i [])
    match name with
    | "animation-composition" => return false
    | "animation-timeline" => modify fun g => { g with timelines := some layers.flatten }
    | "animation-range-start" => modify fun g => { g with starts := some layers.flatten }
    | "animation-range-end" => modify fun g => { g with ends := some layers.flatten }
    | "animation-range" =>
      modify fun g => { g with starts := some (column 0), ends := some (column 1) }
    | _ =>
      let columns := if name == "animation"
        then longhands.zipIdx.map fun (name, i) => (name, column i)
        else [(name, layers.flatten)]
      for (name, values) in columns do
        if (← get).values.conflicts name values declaration.spellings then flush
      for (name, values) in columns do
        modify fun g => { g with values := g.values.put name values declaration.spellings }
      if name == "animation" then
        modify fun g => { g with timelines := some (column 8), starts := none, ends := none }
  return true

def finish : Step Unit := flush

end ScopedStyles.Stylesheet.Animation
