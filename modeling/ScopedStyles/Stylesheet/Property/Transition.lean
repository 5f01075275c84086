import ScopedStyles.Stylesheet.Property.Names
import ScopedStyles.Stylesheet.Shortening
import ScopedStyles.Stylesheet.Value.Reader

namespace ScopedStyles.Stylesheet.Transition

def target : Reader Value := do
  let name ← Reader.ident
  return .ofText (if (PropertyName.ofText? name).isSome then name.toLower else name)

def duration : Reader Value := do
  let time ← Reader.time
  return .ofMeasure (.value (if time.value < 0 then ⟨0, "s"⟩ else time))

def noTime : Value := .ofMeasure (.value ⟨0, "s"⟩)

def writeItem : List Value → Value
  | [property, duration, delay, easing] =>
    Value.spaced (property ::
      (if duration.isZero && delay.isZero then [] else [duration]) ++
      Value.unusual (.ofText "ease") easing ++ (if delay.isZero then [] else [delay]))
  | values => Value.spaced values

def readItem : Reader (List Value) := do
  let values ← Reader.valuesInAnyOrder [(duration, noTime), (Reader.easing, .ofText "ease"),
    (Reader.timeValue, noTime), (target, .ofText "all")]
  match values with
  | [duration, easing, delay, property] => return [property, duration, delay, easing]
  | _ => failure

def longhands : List String :=
  ["transition-property", "transition-duration", "transition-delay", "transition-timing-function"]

def properties : List String := "transition" :: longhands

def read (name : String) : Reader Setting :=
  let list (reader : Reader Value) : Reader Setting :=
    Setting.ofList <$> Reader.commaSeparated reader
  match name with
  | "transition" => Setting.ofLayers writeItem <$> Reader.commaSeparated readItem
  | "transition-property" => list target
  | "transition-duration" | "transition-delay" => list Reader.timeValue
  | "transition-timing-function" => list Reader.easing
  | _ => failure

structure Target where
  name : String
  spellings : List Spelling
  deriving BEq, Inhabited

namespace Target

def ofValue (value : Value) : Target :=
  let text := value.write .recent
  match PropertyName.ofText? text with
  | some (name, spelling) => ⟨name, [spelling]⟩
  | none => ⟨text, [.plain]⟩

def add (targets : List Target) (target : Target) : List Target :=
  if targets.any (·.name == target.name) then
    targets.map fun other =>
      if other.name == target.name then
        { other with spellings := Spelling.union other.spellings target.spellings }
      else other
  else targets ++ [target]

def ofValues (values : List Value) : List Target :=
  (values.map ofValue).foldl add []

def toValues (target : Target) : List Value :=
  (Spelling.all.filter target.spellings.contains).map fun spelling =>
    .ofText (spelling.mark ++ target.name)

end Target

def sides : List (String × List String × List String) :=
  [("block-start", ["top"], ["top"]), ("block-end", ["bottom"], ["bottom"]),
    ("inline-start", ["left"], ["right"]), ("inline-end", ["right"], ["left"]),
    ("block", ["top", "bottom"], ["top", "bottom"]),
    ("inline", ["left", "right"], ["left", "right"])]

def directed : List (String × List String × List String) :=
  let same (name : String) (names : List String) : String × List String × List String :=
    (name, names, names)
  let corner (name left right : String) : String × List String × List String :=
    ("border-" ++ name ++ "-radius", ["border-" ++ left ++ "-radius"],
      ["border-" ++ right ++ "-radius"])
  let boxes := [("margin-", ""), ("padding-", ""), ("border-", ""), ("border-", "-width"),
    ("border-", "-style"), ("border-", "-color")]
  ["", "min-", "max-"].flatMap (fun front =>
    [same (front ++ "block-size") [front ++ "height"],
      same (front ++ "inline-size") [front ++ "width"]]) ++
  [same "inset" ["top", "bottom", "left", "right"]] ++
  sides.map (fun (side, left, right) => ("inset-" ++ side, left, right)) ++
  (boxes.flatMap fun (front, behind) =>
    let named (side : String) : String := front ++ side ++ behind
    sides.map fun (side, left, right) => (named side, left.map named, right.map named)) ++
  [corner "start-start" "top-left" "top-right", corner "start-end" "top-right" "top-left",
    corner "end-start" "bottom-left" "bottom-right", corner "end-end" "bottom-right" "bottom-left"]

def webkitMasks : List (String × String) :=
  [("mask-border", "mask-box-image"), ("mask-border-source", "mask-box-image-source"),
    ("mask-border-slice", "mask-box-image-slice"), ("mask-border-width", "mask-box-image-width"),
    ("mask-border-outset", "mask-box-image-outset"),
    ("mask-border-repeat", "mask-box-image-repeat"), ("mask-mode", "mask-source-type")]

namespace Target

def expand (browsers : Browsers) (isLeftToRight : Bool) (target : Target) : List Target :=
  let plain (name : String) : Target := ⟨name, [.plain]⟩
  match if browsers.areOld then directed.lookup target.name else none with
  | some (left, right) => (if isLeftToRight then left else right).map plain
  | none =>
    let vendors := (webkitMasks.lookup target.name).map fun name => ⟨name, [.webkit]⟩
    let spellings := if PropertyName.hasMarks target.name
      then browsers.spellings target.name target.spellings else target.spellings
    vendors.toList ++ [{ target with spellings }]

end Target

structure Gathered where
  targets : Option (Spelled (List Target)) := none
  times : SpelledValues := []
  deriving Inhabited

abbrev Step := StateT Gathered Shortening

def items (targets : List Target) (columns : List (List Value)) : List (List Value) :=
  targets.zipIdx.flatMap fun (target, i) =>
    target.toValues.map fun name =>
      name :: columns.map fun column => column.getD (i % column.length) []

def writeFor (targets : List Target) (mirrored : Option (List Target))
    (declare : List Target → Declaration) : Step Unit :=
  match mirrored with
  | some mirrored =>
    (Shortening.pushDirected (declare targets) (declare mirrored) : Shortening Unit)
  | none => (Shortening.push (declare targets) : Shortening Unit)

def flush : Step Unit := do
  let browsers ← (Shortening.browsers : Shortening Browsers)
  let g ← get
  set ({} : Gathered)
  let given := (g.targets.map (·.value)).getD []
  let targets := given.flatMap (Target.expand browsers true)
  let mirrored := given.flatMap (Target.expand browsers false)
  let mirrored := if mirrored == targets then none else some mirrored
  let names := longhands.drop 1
  let together? := do
    let spelled ← g.targets
    let (columns, spellings) ← g.times.common? names
    let spellings := Spelling.inter spelled.spellings spellings
    if spellings.isEmpty then none else some (columns, spellings)
  if let some (columns, spellings) := together? then
    writeFor targets mirrored fun targets =>
      ⟨"transition", spellings, .ofLayers writeItem (items targets columns)⟩
  let used := (together?.map Prod.snd).getD []
  if let some spelled := g.targets then
    let rest := Spelling.diff spelled.spellings used
    if !rest.isEmpty then
      writeFor targets mirrored fun targets =>
        ⟨"transition-property", rest, .ofList (targets.flatMap Target.toValues)⟩
  for name in names do
    if let some spelled := (g.times.without names used).get? name then
      (Shortening.push ⟨name, spelled.spellings, .ofList spelled.value⟩ : Shortening Unit)

def takeTargets (values : List Value) (spellings : List Spelling) : Step Unit := do
  let browsers ← (Shortening.browsers : Shortening Browsers)
  let targets := Target.ofValues values
  if Spelled.conflicts (← get).targets targets spellings then flush
  modify fun g =>
    let spelled := Spelled.update g.targets targets spellings
    { g with targets := some { spelled with
        spellings := browsers.spellings "transition-property" spelled.spellings } }

def takeTimes (name : String) (values : List Value) (spellings : List Spelling) : Step Unit := do
  let browsers ← (Shortening.browsers : Shortening Browsers)
  if (← get).times.conflicts name values spellings then flush
  modify fun g =>
    let spelled := Spelled.update (g.times.get? name) values spellings
    let spellings := browsers.spellings name spelled.spellings
    { g with times := (g.times.drop [name]).put name values spellings }

def flushBefore (columns : List (String × List Value)) (spellings : List Spelling) :
    Step Unit := do
  for (name, values) in columns do
    let g ← get
    let isOther := if name == "transition-property"
      then Spelled.conflicts g.targets (Target.ofValues values) spellings
      else g.times.conflicts name values spellings
    if isOther then flush

def take (declaration : Declaration) : Step Bool := do
  let name := declaration.name
  if !properties.contains name then return false
  match declaration.setting with
  | .raw _ =>
    flush
    let declaration ← (Shortening.respelled "transition" declaration : Shortening Declaration)
    (Shortening.push declaration : Shortening Unit)
  | .known _ layers =>
    let columns := if name == "transition"
      then longhands.zipIdx.map fun (name, i) => (name, layers.map (·.getD i []))
      else [(name, layers.flatten)]
    flushBefore columns declaration.spellings
    for (name, values) in columns do
      if name == "transition-property" then takeTargets values declaration.spellings
      else takeTimes name values declaration.spellings
  return true

def finish : Step Unit := flush

end ScopedStyles.Stylesheet.Transition
