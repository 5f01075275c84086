import ScopedStyles.Stylesheet.Property.Border

namespace ScopedStyles.Stylesheet

structure Sides where
  name : String
  physical : List String
  front : String
  isLogical : Bool := false
  needsRecent : Bool := true

namespace Sides

def ofName (name : String) (needsRecent : Bool) : Sides where
  name
  physical := ["top", "bottom", "left", "right"].map (name ++ "-" ++ ·)
  front := name
  needsRecent

def margin : Sides := ofName "margin" true

def padding : Sides := ofName "padding" true

def scrollMargin : Sides := ofName "scroll-margin" false

def scrollPadding : Sides := ofName "scroll-padding" false

def inset : Sides where
  name := "inset"
  physical := ["top", "bottom", "left", "right"]
  front := "inset"
  isLogical := true

def all : List Sides := [margin, padding, scrollMargin, scrollPadding, inset]

def block (sides : Sides) : String := sides.front ++ "-block"

def inline (sides : Sides) : String := sides.front ++ "-inline"

def startOf (pair : String) : String := pair ++ "-start"

def endOf (pair : String) : String := pair ++ "-end"

def logical (sides : Sides) : List String :=
  [startOf sides.block, endOf sides.block, startOf sides.inline, endOf sides.inline]

def properties (sides : Sides) : List String :=
  sides.name :: sides.block :: sides.inline :: sides.physical ++ sides.logical

def read (sides : Sides) (name : String) : Reader Setting :=
  let measure := Reader.measureOrAuto
  if name == sides.name then Setting.ofRecord Border.writeSides <$> Reader.fourSides measure
  else if name == sides.block || name == sides.inline then
    Setting.ofRecord Border.writeSides <$> Reader.twoValues measure
  else Setting.ofValue <$> measure

structure Gathered where
  physical : List (String × Value) := []
  logical : List (String × Setting) := []
  isLogical : Bool := false
  deriving Inhabited

abbrev Step := StateT Gathered Shortening

def pushNamed (name : String) (setting : Setting) : Step Unit :=
  (Shortening.push (.plain name setting) : Shortening Unit)

def valueOf : Option Setting → Option Value
  | some (.known _ [[value]]) => some value
  | _ => none

def writePair (pair : String) (start finish : Option Setting) : Step Unit := do
  match valueOf start, valueOf finish with
  | some a, some b => pushNamed pair (.ofRecord Border.writeSides [a, b])
  | _, _ =>
    if let some setting := start then pushNamed (startOf pair) setting
    if let some setting := finish then pushNamed (endOf pair) setting

def writeDirected (left right : String) (start finish : Option Setting) : Step Unit := do
  let isSame := match valueOf start, valueOf finish with
    | some a, some b => a == b
    | _, _ => false
  let write (setting : Option Setting) (ltr rtl : String) : Step Unit := do
    if let some setting := setting then
      if isSame then pushNamed ltr setting
      else (Shortening.pushDirected (.plain ltr setting) (.plain rtl setting) : Shortening Unit)
  write start left right
  write finish right left

def flush (sides : Sides) : Step Unit := do
  let g ← get
  set { g with physical := [], logical := [] }
  let browsers ← (Shortening.browsers : Shortening Browsers)
  let knowsLogical := browsers.areRecent || !sides.needsRecent
  match sides.physical.mapM fun name => g.physical.lookup name with
  | some [top, bottom, left, right] =>
    if !sides.isLogical || knowsLogical then
      pushNamed sides.name (.ofRecord Border.writeSides [top, right, bottom, left])
    else writeSingly g
  | _ => writeSingly g
  let get (name : String) : Option Setting := g.logical.lookup name
  let (blockStart, blockEnd) := (get (startOf sides.block), get (endOf sides.block))
  let (inlineStart, inlineEnd) := (get (startOf sides.inline), get (endOf sides.inline))
  match sides.physical with
  | [top, bottom, left, right] =>
    if knowsLogical then
      writePair sides.block blockStart blockEnd
      writePair sides.inline inlineStart inlineEnd
    else
      if let some setting := blockStart then pushNamed top setting
      if let some setting := blockEnd then pushNamed bottom setting
      writeDirected left right inlineStart inlineEnd
  | _ => pure ()
where
  writeSingly (g : Gathered) : Step Unit :=
    for name in sides.physical do
      if let some value := g.physical.lookup name then pushNamed name (.ofValue value)

def flushBefore (sides : Sides) (isLogical hasOld : Bool) (value : Value) : Step Unit := do
  let browsers ← (Shortening.browsers : Shortening Browsers)
  if (← get).isLogical != isLogical || (hasOld && !value.isKnown browsers) then sides.flush

def hasPhysical (name : String) : Step Bool := do
  return ((← get).physical.lookup name).isSome

def hasLogical (name : String) : Step Bool := do
  return ((← get).logical.lookup name).isSome

def putPhysical (name : String) (value : Value) : Step Unit :=
  modify fun g => { g with
    physical := (name, value) :: g.physical.filter fun (other, _) => other != name }

def takeLogical (sides : Sides) (name : String) (setting : Setting) : Step Unit := do
  let isRaw := match setting with
    | .raw _ => true
    | .known _ _ => false
  if !(← get).isLogical || ((← hasLogical name) && isRaw) then sides.flush
  modify fun g => { g with
    logical := (name, setting) :: g.logical.filter fun (other, _) => other != name
    isLogical := true }

def takePair (sides : Sides) (pair : String) (values : List Value) : Step Unit := do
  let entries := [startOf pair, endOf pair].zip values
  for (name, value) in entries do
    sides.flushBefore true (← hasLogical name) value
  for (name, value) in entries do
    sides.takeLogical name (.ofValue value)

def takeAll (sides : Sides) (values : List Value) : Step Unit := do
  match sides.physical with
  | [top, bottom, left, right] =>
    let entries := [top, right, bottom, left].zip values
    for (name, value) in entries do
      sides.flushBefore sides.isLogical (← hasPhysical name) value
    for (name, value) in entries do
      putPhysical name value
    modify fun g => { g with logical := [] }
  | _ => pure ()

def take (sides : Sides) (declaration : Declaration) : Step Bool := do
  let name := declaration.name
  if !sides.properties.contains name then return false
  match declaration.setting with
  | .raw raw =>
    if sides.logical.contains name then sides.takeLogical name (.raw raw)
    else
      sides.flush
      (Shortening.push declaration : Shortening Unit)
  | .known _ layers =>
    let values := layers.flatten
    if name == sides.name then sides.takeAll values
    else if name == sides.block || name == sides.inline then sides.takePair name values
    else if sides.physical.contains name then
      sides.flushBefore false (← hasPhysical name) values.flatten
      putPhysical name values.flatten
      modify fun g => { g with isLogical := false }
    else
      sides.flushBefore true (← hasLogical name) values.flatten
      sides.takeLogical name declaration.setting
  return true

def finish (sides : Sides) : Step Unit := sides.flush

end Sides

end ScopedStyles.Stylesheet
