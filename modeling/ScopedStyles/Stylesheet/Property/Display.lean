import ScopedStyles.Stylesheet.Shortening
import ScopedStyles.Stylesheet.Value.Reader

namespace ScopedStyles.Stylesheet

inductive InnerDisplay where
  | flow
  | flowRoot
  | table
  | flex (spelling : Spelling)
  | box (spelling : Spelling)
  | grid
  | ruby
  deriving DecidableEq, Repr, Inhabited

namespace InnerDisplay

def ofName? (name : String) : Option InnerDisplay :=
  match name with
  | "flow" => some flow
  | "flow-root" => some flowRoot
  | "table" => some table
  | "flex" => some (flex .plain)
  | "-webkit-flex" => some (flex .webkit)
  | "-ms-flexbox" => some (flex .ms)
  | "-webkit-box" => some (box .webkit)
  | "-moz-box" => some (box .moz)
  | "grid" => some grid
  | "ruby" => some ruby
  | _ => none

def write : InnerDisplay → String
  | flow => "flow"
  | flowRoot => "flow-root"
  | table => "table"
  | flex .ms => "-ms-flexbox"
  | flex spelling => spelling.mark ++ "flex"
  | box spelling => spelling.mark ++ "box"
  | grid => "grid"
  | ruby => "ruby"

def isFlexible : InnerDisplay → Bool
  | flex _ => true
  | box _ => true
  | _ => false

end InnerDisplay

inductive OuterDisplay where
  | block
  | inline
  | runIn
  deriving DecidableEq, Repr, Inhabited

namespace OuterDisplay

def ofName? (name : String) : Option OuterDisplay :=
  match name with
  | "block" => some block
  | "inline" => some inline
  | "run-in" => some runIn
  | _ => none

def write : OuterDisplay → String
  | block => "block"
  | inline => "inline"
  | runIn => "run-in"

end OuterDisplay

inductive Display where
  | word (name : String)
  | pair (outer : OuterDisplay) (inner : InnerDisplay) (isListItem : Bool)
  deriving DecidableEq, Repr, Inhabited

namespace Display

def words : List String :=
  ["none", "contents", "table-row-group", "table-header-group", "table-footer-group", "table-row",
    "table-cell", "table-column-group", "table-column", "table-caption", "ruby-base", "ruby-text",
    "ruby-base-container", "ruby-text-container"]

def inlineNames : List (String × InnerDisplay) :=
  [("inline-block", .flowRoot), ("inline-table", .table), ("inline-flex", .flex .plain),
    ("-webkit-inline-flex", .flex .webkit), ("-ms-inline-flexbox", .flex .ms),
    ("-webkit-inline-box", .box .webkit), ("-moz-inline-box", .box .moz), ("inline-grid", .grid)]

def usualOuter (inner : InnerDisplay) : OuterDisplay :=
  if inner = .ruby then .inline else .block

def read : Reader Display := do
  let listItem : Reader (Option OuterDisplay × Option InnerDisplay) :=
    Reader.word "list-item" *> pure (none, none)
  let outer : Reader (Option OuterDisplay × Option InnerDisplay) := do
    return (some (← Reader.bindOption Reader.keyword OuterDisplay.ofName?), none)
  let inner : Reader (Option OuterDisplay × Option InnerDisplay) := do
    return (none, some (← Reader.bindOption Reader.keyword InnerDisplay.ofName?))
  let parts : Reader Display := do
    match ← Reader.inAnyOrder [listItem, outer, inner] with
    | [listItem, outer, inner] =>
      if listItem.isNone && outer.isNone && inner.isNone then failure
      let inner := (inner.bind Prod.snd).getD .flow
      let outer := (outer.bind Prod.fst).getD (usualOuter inner)
      if listItem.isSome && inner != .flow && inner != .flowRoot then failure
      return .pair outer inner listItem.isSome
    | _ => failure
  let named : Reader Display := do
    let inner ← Reader.bindOption Reader.keyword fun name => inlineNames.lookup name
    return .pair .inline inner false
  (.word <$> Reader.oneOf words) <|> parts <|> named

def write : Display → String
  | word name => name
  | pair outer inner isListItem =>
    match if outer = .inline && !isListItem then inlineNames.find? (·.2 = inner) else none with
    | some (name, _) => name
    | none =>
      let needsOuter := outer != usualOuter inner || (inner = .flow && !isListItem)
      String.intercalate " " <|
        (if needsOuter then [outer.write] else []) ++
        (if inner = .flow then [] else [inner.write]) ++
        (if isListItem then ["list-item"] else [])

def ofText? (text : String) : Option Display :=
  Reader.readAll? read (Piece.ofText text)

structure Gathered where
  earlier : List Display := []
  last : Option Display := none
  deriving Inhabited

abbrev Step := StateT Gathered Shortening

def declare (display : Display) : Declaration :=
  .plain "display" (.ofValue (.ofText display.write))

def flush : Step Unit := do
  let browsers ← (Shortening.browsers : Shortening Browsers)
  let g ← get
  set ({} : Gathered)
  if let some display := g.last then
    (Shortening.pushAll (g.earlier.map declare) : Shortening Unit)
    match display with
    | .pair outer (.flex .plain) _ =>
      if browsers.areOld then
        (Shortening.push (declare (.pair outer (.flex .webkit) false)) : Shortening Unit)
    | _ => pure ()
    (Shortening.push (declare display) : Shortening Unit)

def isOtherName : Display → Display → Bool
  | .pair outer inner isListItem, .pair outer' inner' isListItem' =>
    outer = outer' && isListItem = isListItem' && inner != inner' && inner.isFlexible &&
      inner'.isFlexible
  | _, _ => false

def isPlainFlex : Display → Bool
  | .pair _ (.flex .plain) _ => true
  | _ => false

def take (declaration : Declaration) : Step Bool := do
  if declaration.name != "display" then return false
  match declaration.setting with
  | .raw _ =>
    flush
    (Shortening.push declaration : Shortening Unit)
  | .known shown _ =>
    if let some display := ofText? (shown.write .recent) then
      modify fun g =>
        match g.last with
        | some last =>
          let earlier := if !isOtherName last display then g.earlier
            else if isPlainFlex display then []
            else if isPlainFlex last then g.earlier else g.earlier ++ [last]
          ⟨earlier, some display⟩
        | none => { g with last := some display }
  return true

def finish : Step Unit := flush

end Display

namespace Placement

def sticky : Reader Value := do
  let (spelling, name) := Spelling.split (← Reader.keyword)
  if name != "sticky" || (spelling != .plain && spelling != .webkit) then failure
  return .ofText (spelling.mark ++ "sticky")

def read : Reader Value := Reader.keywordOf ["static", "relative", "absolute", "fixed"] <|> sticky

abbrev Step := StateT (Option (Value × List Spelling)) Shortening

def stickySpelling? (value : Value) : Option Spelling :=
  if value.isText "sticky" then some .plain
  else if value.isText "-webkit-sticky" then some .webkit else none

def take (declaration : Declaration) : Step Bool := do
  match declaration.name, declaration.setting with
  | "position", .known value _ =>
    let spellings := (stickySpelling? value).toList
    let earlier := match ← get with
      | some (_, earlier) => if spellings.isEmpty then [] else earlier
      | none => []
    set (some (value, Spelling.union earlier spellings))
    return true
  | _, _ => return false

def finish : Step Unit := do
  let browsers ← (Shortening.browsers : Shortening Browsers)
  if let some (value, spellings) := ← get then
    let spellings := if spellings.contains .plain && browsers.areOld
      then Spelling.union spellings [.webkit]
      else if spellings.contains .plain then [.plain] else spellings
    let values := if spellings.isEmpty then [value]
      else spellings.map fun spelling => Value.ofText (spelling.mark ++ "sticky")
    for value in values do
      (Shortening.push (.plain "position" (.ofValue value)) : Shortening Unit)
  set (none : Option (Value × List Spelling))

end Placement

namespace Overflow

def properties : List String := ["overflow", "overflow-x", "overflow-y"]

def kind : Reader Value := Reader.keywordOf ["visible", "hidden", "clip", "scroll", "auto"]

def writeBoth : List Value → Value
  | [x, y] => Value.pair x y
  | values => Value.spaced values

def read (name : String) : Reader Setting :=
  if name == "overflow" then Setting.ofRecord writeBoth <$> Reader.twoValues kind
  else Setting.ofValue <$> kind

structure Gathered where
  x : Option Value := none
  y : Option Value := none
  deriving Inhabited

abbrev Step := StateT Gathered Shortening

def flush : Step Unit := do
  let browsers ← (Shortening.browsers : Shortening Browsers)
  let g ← get
  set ({} : Gathered)
  let single (name : String) (value : Option Value) : List Declaration :=
    value.toList.map fun value => .plain name (.ofValue value)
  let singles := single "overflow-x" g.x ++ single "overflow-y" g.y
  let declarations := match g.x, g.y with
    | some x, some y =>
      if x == y || browsers.areRecent
      then [Declaration.plain "overflow" (.ofRecord writeBoth [x, y])] else singles
    | _, _ => singles
  (Shortening.pushAll declarations : Shortening Unit)

def take (declaration : Declaration) : Step Bool := do
  if !properties.contains declaration.name then return false
  match declaration.setting with
  | .raw _ =>
    flush
    (Shortening.push declaration : Shortening Unit)
  | .known _ layers =>
    let values := layers.flatten
    match declaration.name with
    | "overflow" => set ({ x := values[0]?, y := values[1]? } : Gathered)
    | "overflow-x" => modify fun g => { g with x := some values.flatten }
    | _ => modify fun g => { g with y := some values.flatten }
  return true

def finish : Step Unit := flush

end Overflow

end ScopedStyles.Stylesheet
