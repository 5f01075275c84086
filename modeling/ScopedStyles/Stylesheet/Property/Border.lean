import ScopedStyles.Stylesheet.Shortening
import ScopedStyles.Stylesheet.Value.Reader

namespace ScopedStyles.Stylesheet

namespace Reader

def lineStyles : List String :=
  ["none", "hidden", "inset", "groove", "outset", "ridge", "dotted", "dashed", "solid", "double"]

def lineStyle : Reader Value := keywordOf lineStyles

def lineWidth : Reader Value := keywordOf ["thin", "medium", "thick"] <|> lengthValue

def line (style : Reader Value) : Reader (List Value) :=
  someInAnyOrder [(lineWidth, Value.ofText "medium"), (style, Value.none),
    (colorValue, Value.currentColor)]

end Reader

namespace Border

inductive Aspect where
  | width
  | style
  | color
  deriving DecidableEq, Repr, Inhabited

namespace Aspect

def all : List Aspect := [width, style, color]

def name : Aspect → String
  | width => "width"
  | style => "style"
  | color => "color"

def read : Aspect → Reader Value
  | width => Reader.lineWidth
  | style => Reader.lineStyle
  | color => Reader.colorValue

end Aspect

inductive Edge where
  | top
  | bottom
  | left
  | right
  | blockStart
  | blockEnd
  | inlineStart
  | inlineEnd
  deriving DecidableEq, Repr, Inhabited

namespace Edge

def physical : List Edge := [top, bottom, left, right]

def logical : List Edge := [blockStart, blockEnd, inlineStart, inlineEnd]

def isLogical (edge : Edge) : Bool := logical.contains edge

def name : Edge → String
  | top => "border-top"
  | bottom => "border-bottom"
  | left => "border-left"
  | right => "border-right"
  | blockStart => "border-block-start"
  | blockEnd => "border-block-end"
  | inlineStart => "border-inline-start"
  | inlineEnd => "border-inline-end"

end Edge

def groups : List (String × List Edge) :=
  [("border", [.top, .right, .bottom, .left]), ("border-block", [.blockStart, .blockEnd]),
    ("border-inline", [.inlineStart, .inlineEnd])] ++
    (Edge.physical ++ Edge.logical).map fun edge => (edge.name, [edge])

structure Scope where
  edges : List Edge
  aspect : Option Aspect

def aspectName (front : String) (aspect : Aspect) : String :=
  front ++ "-" ++ aspect.name

def scopes : List (String × Scope) :=
  groups.flatMap fun (front, edges) =>
    (front, ⟨edges, none⟩) :: Aspect.all.map fun aspect =>
      (aspectName front aspect, ⟨edges, some aspect⟩)

def properties : List String := scopes.map Prod.fst

def writeLine : List Value → Value
  | [width, style, color] =>
    let values := Value.unusual (.ofText "medium") width ++ Value.unusual .none style ++
      Value.unusual .currentColor color
    if values.isEmpty then style else Value.spaced values
  | values => Value.spaced values

def writeSides : List Value → Value
  | [top, right, bottom, left] => Value.sides top right bottom left
  | [start, finish] => Value.pair start finish
  | values => Value.spaced values

def read (name : String) : Reader Setting := do
  match scopes.lookup name with
  | some ⟨_, none⟩ => Setting.ofRecord writeLine <$> Reader.line Reader.lineStyle
  | some ⟨edges, some aspect⟩ =>
    match edges.length with
    | 4 => Setting.ofRecord writeSides <$> Reader.fourSides aspect.read
    | 2 => Setting.ofRecord writeSides <$> Reader.twoValues aspect.read
    | _ => Setting.ofValue <$> aspect.read
  | none => failure

structure Gathered where
  values : List ((Edge × Aspect) × Value) := []
  isLogical : Bool := false
  flushed : List String := []
  deriving Inhabited

abbrev Step := StateT Gathered Shortening

structure Line where
  width : Option Value
  style : Option Value
  color : Option Value
  deriving BEq

namespace Line

def get (line : Line) : Aspect → Option Value
  | .width => line.width
  | .style => line.style
  | .color => line.color

def values? (line : Line) : Option (List Value) := do
  return [← line.width, ← line.style, ← line.color]

end Line

namespace Gathered

def get (g : Gathered) (edge : Edge) (aspect : Aspect) : Option Value :=
  g.values.lookup (edge, aspect)

def line (g : Gathered) (edge : Edge) : Line :=
  ⟨g.get edge .width, g.get edge .style, g.get edge .color⟩

def drop (g : Gathered) (edges : List Edge) (aspects : List Aspect) : Gathered :=
  { g with values := g.values.filter fun ((edge, aspect), _) =>
      !(edges.contains edge && aspects.contains aspect) }

def set (g : Gathered) (edge : Edge) (aspect : Aspect) (value : Value) : Gathered :=
  let g := g.drop [edge] [aspect]
  { g with values := ((edge, aspect), value) :: g.values }

end Gathered

def longhands (name : String) : List String :=
  match scopes.lookup name with
  | some scope => scope.edges.flatMap fun edge =>
      (scope.aspect.elim Aspect.all ([·])).map (aspectName edge.name)
  | none => []

def knowsLogical (browsers : Browsers) : Bool := browsers.areRecent

def write (name : String) (shown : List Value → Value) (values : List Value) : Step Unit := do
  let browsers ← (Shortening.browsers : Shortening Browsers)
  let declare (layers : List (List Value)) : Declaration :=
    .plain name (.ofRecord shown layers.flatten)
  let forms := Value.colorForms browsers [values]
  if !(longhands name).all (← get).flushed.contains then
    for form in forms.earlier do
      (Shortening.push (declare form) : Shortening Unit)
  (Shortening.push (declare forms.last) : Shortening Unit)
  modify fun g => { g with flushed := longhands name ++ g.flushed }

def edgeName (edge : Edge) (aspect : Option Aspect) : String :=
  aspect.elim edge.name (aspectName edge.name)

def writeEdge (edge : Edge) (aspect : Option Aspect) (values : List Value) : Step Unit := do
  let browsers ← (Shortening.browsers : Shortening Browsers)
  let write (edge : Edge) : Step Unit := write (edgeName edge aspect) writeValues values
  let directed (ltr rtl : Edge) : Step Unit :=
    (Shortening.pushDirected (declare ltr) (declare rtl) : Shortening Unit)
  if knowsLogical browsers then write edge
  else
    match edge with
    | .blockStart => write .top
    | .blockEnd => write .bottom
    | .inlineStart => directed .left .right
    | .inlineEnd => directed .right .left
    | _ => write edge
where
  writeValues : List Value → Value := if aspect.isSome then Value.spaced else writeLine
  declare (edge : Edge) : Declaration :=
    .plain (edgeName edge aspect) (.ofRecord writeValues values)

def writeAspect (edges : List Edge) (isLogical : Bool) (aspect : Aspect) : Step Unit := do
  let g ← get
  match edges.mapM (g.get · aspect) with
  | some [start, finish, left, right] =>
    if !isLogical || (start == finish && finish == left && left == right) then
      set (g.drop edges [aspect])
      write (aspectName "border" aspect) writeSides [start, right, finish, left]
  | _ => pure ()

def writeDifference (common other : List Value) (edge : Edge) : Step Unit := do
  match common, other with
  | [w, s, c], [w', s', c'] =>
    if w == w' && s == s' then writeEdge edge (some .color) [c']
    else if w == w' && c == c' then writeEdge edge (some .style) [s']
    else if s == s' && c == c' then writeEdge edge (some .width) [w']
    else writeEdge edge none other
  | _, _ => writeEdge edge none other

def differing (lines : List (List Value)) : List Aspect :=
  (Aspect.all.zip (List.range 3)).filterMap fun (aspect, i) =>
    match lines.map (·.getD i []) with
    | first :: rest => if rest.all (· == first) then none else some aspect
    | [] => none

def writeBorder (values : List Value) : Step Unit := write "border" writeLine values

def writeWhole (edges : List Edge) (isLogical : Bool) (lines : List (List Value)) : Step Unit := do
  match edges, lines with
  | [above, below, before, after], [t, b, l, r] =>
    /- Writes the aspects that differ, or a border with the edges that differ from it. -/
    let writeCommon (common : List Value) (hasBorder : Bool) (others : Step Unit) : Step Unit := do
      match isLogical, differing lines with
      | false, [aspect] =>
        writeBorder common
        writeAspect edges isLogical aspect
      | _, _ =>
        if hasBorder then writeBorder common
        others
    let except (common : List Value) (edge : Edge) (other : List Value) : Step Unit := do
      writeBorder common
      writeDifference common other edge
    if t == b && t == l && t == r then writeBorder t
    else if t == b && t == l then except t after r
    else if t == b && t == r then except t before l
    else if l == r && b == l then except l above t
    else if l == r && t == l then except l below b
    else if t == b then
      writeCommon t true do
        if l == r && isLogical then
          match differing [t, l] with
          | [aspect] =>
            let value := l.getD (Aspect.all.idxOf aspect) []
            write (aspectName "border-inline" aspect) writeSides [value, value]
          | _ => write "border-inline" writeLine l
        else
          writeDifference t l before
          writeDifference t r after
    else if l == r then
      writeCommon l true do
        writeDifference l t above
        writeDifference l b below
    else if b == r then
      writeCommon b true do
        writeDifference b t above
        writeDifference b l before
    else
      writeCommon t false do
        writeEdge above none t
        writeEdge below none b
        writeEdge before none l
        writeEdge after none r
  | _, _ => pure ()

def writeRest (edge : Edge) : Step Unit := do
  let line := (← get).line edge
  match line.values? with
  | some values => writeEdge edge none values
  | none =>
    for aspect in [Aspect.style, .width, .color] do
      if let some value := line.get aspect then writeEdge edge (some aspect) [value]

def writePairAspect (front : String) (first second : Edge) (aspect : Aspect) : Step Unit := do
  let g ← get
  if let (some a, some b) := (g.get first aspect, g.get second aspect) then
    set (g.drop [first, second] [aspect])
    write (aspectName front aspect) writeSides [a, b]

def writeEqualSides (aspect : Aspect) : Step Unit := do
  let g ← get
  if let (some a, some b) := (g.get .inlineStart aspect, g.get .inlineEnd aspect) then
    if a == b then
      set (g.drop [.inlineStart, .inlineEnd] [aspect])
      write (aspectName "border-left" aspect) Value.spaced [a]
      write (aspectName "border-right" aspect) Value.spaced [a]

def writePair (front : String) (first second : Edge) (sides : List String) : Step Unit := do
  let browsers ← (Shortening.browsers : Shortening Browsers)
  let g ← get
  let (a, b) := (g.line first, g.line second)
  match a.values?, b.values? with
  | some values, some others =>
    if values == others then
      if knowsLogical browsers then write front writeLine values
      else
        for side in sides do
          write side writeLine values
    else
      writeRest first
      writeRest second
  | none, none =>
    for aspect in [Aspect.style, .width, .color] do
      if knowsLogical browsers then writePairAspect front first second aspect
      else if first == .inlineStart then writeEqualSides aspect
    writeRest first
    writeRest second
  | _, _ =>
    writeRest first
    writeRest second

def flushEdges (isLogical : Bool) : Step Unit := do
  let edges := if isLogical then Edge.logical else Edge.physical
  let g ← get
  match edges.mapM fun edge => (g.line edge).values? with
  | some lines => writeWhole edges isLogical lines
  | none =>
    for aspect in [Aspect.style, .width, .color] do
      writeAspect edges isLogical aspect
    if isLogical then
      writePair "border-block" .blockStart .blockEnd ["border-top", "border-bottom"]
      writePair "border-inline" .inlineStart .inlineEnd ["border-left", "border-right"]
    else
      for edge in edges do
        writeRest edge

def flush : Step Unit := do
  flushEdges false
  flushEdges true
  modify fun g => { g with values := [] }

def flushBefore (edge : Edge) (aspect : Aspect) (value : Value) : Step Unit := do
  let browsers ← (Shortening.browsers : Shortening Browsers)
  let g ← get
  let isUnknown := (g.get edge aspect).any fun old => old != value && !value.isKnown browsers
  if g.isLogical != edge.isLogical || isUnknown then flush

def takeOne (edge : Edge) (aspect : Aspect) (value : Value) : Step Unit := do
  flushBefore edge aspect value
  modify fun g => { g.set edge aspect value with isLogical := edge.isLogical }

def takeLine (edge : Edge) (values : List Value) : Step Unit := do
  for (aspect, value) in Aspect.all.zip values do
    flushBefore edge aspect value
  for (aspect, value) in Aspect.all.zip values do
    modify fun g => { g.set edge aspect value with isLogical := edge.isLogical }

def takeRaw (scope : Scope) (declaration : Declaration) : Step Unit := do
  flush
  let browsers ← (Shortening.browsers : Shortening Browsers)
  let named (edge : Edge) : Declaration :=
    { declaration with name := edgeName edge scope.aspect }
  let write (declaration : Declaration) : Step Unit := do
    (Shortening.pushRaw declaration : Shortening Unit)
    modify fun g => { g with flushed := longhands declaration.name ++ g.flushed }
  let directed (ltr rtl : Edge) : Step Unit :=
    (Shortening.pushDirected (named ltr) (named rtl) : Shortening Unit)
  if knowsLogical browsers then write declaration
  else
    match scope.edges with
    | [.blockStart] => write (named .top)
    | [.blockEnd] => write (named .bottom)
    | [.inlineStart] => directed .left .right
    | [.inlineEnd] => directed .right .left
    | _ => write declaration

def takeKnown (scope : Scope) (values : List Value) : Step Unit := do
  match scope.aspect with
  | some aspect =>
    for (edge, value) in scope.edges.zip values do
      takeOne edge aspect value
    if scope.edges.length = 4 then
      modify fun g => g.drop Edge.logical [aspect]
  | none =>
    for edge in scope.edges do
      takeLine edge values
    if scope.edges.length = 4 then
      modify fun g => g.drop Edge.logical Aspect.all

def take (declaration : Declaration) : Step Bool := do
  match scopes.lookup declaration.name with
  | none => return false
  | some scope =>
    match declaration.setting with
    | .raw _ => takeRaw scope declaration
    | .known _ layers => takeKnown scope layers.flatten
    return true

def finish : Step Unit := do
  flush
  modify fun g => { g with flushed := [] }

end Border

end ScopedStyles.Stylesheet
