import ScopedStyles.Stylesheet.Property

namespace ScopedStyles.Stylesheet

namespace Shortening

structure Gathered where
  background : Background.Gathered := {}
  border : Border.Gathered := {}
  borderImage : BorderImage.Gathered := {}
  borderRadius : BorderRadius.Gathered := {}
  outline : Shorthand.Gathered := {}
  flex : SpelledValues := []
  grid : Grid.Gathered := []
  alignment : SpelledValues := []
  size : Size.Gathered := {}
  margin : Sides.Gathered := {}
  padding : Sides.Gathered := {}
  scrollMargin : Sides.Gathered := {}
  scrollPadding : Sides.Gathered := {}
  font : Font.Gathered := {}
  text : TextDecoration.Gathered := {}
  list : Shorthand.Gathered := {}
  transition : Transition.Gathered := {}
  animation : Animation.Gathered := {}
  display : Display.Gathered := {}
  placement : Option (Value × List Spelling) := none
  inset : Sides.Gathered := {}
  overflow : Overflow.Gathered := {}
  transform : Transform.Gathered := {}
  shadow : Shadow.Gathered := {}
  mask : Mask.Gathered := {}
  container : Shorthand.Gathered := {}
  colored : Single.Gathered := []
  marked : Single.Gathered := []
  direction : Option Declaration := none
  bidi : Option Declaration := none
  custom : List (String × Nat) := []
  deriving Inhabited

abbrev Step := StateT Gathered Shortening

structure Family where
  take : Declaration → Step Bool
  finish : Step Unit

section

variable {σ α : Type}

def onPart (part : Gathered → σ) (put : Gathered → σ → Gathered) (step : StateT σ Shortening α) :
    Step α := do
  let (value, state) ← (step.run (part (← get)) : Shortening (α × σ))
  modify fun g => put g state
  return value

def family (part : Gathered → σ) (put : Gathered → σ → Gathered)
    (take : Declaration → StateT σ Shortening Bool) (finish : StateT σ Shortening Unit) :
    Family where
  take declaration := onPart part put (take declaration)
  finish := onPart part put finish

end

def onBorder {α : Type} (step : Border.Step α) : Step α :=
  onPart (·.border) (fun g border => { g with border }) step

def takeBorder (declaration : Declaration) : Step Bool := do
  let isTaken ← onBorder (Border.take declaration)
  match declaration.name, declaration.setting with
  | "border", .known _ _ =>
    modify fun g => { g with borderImage := { g.borderImage with values := [] } }
  | _, _ => pure ()
  return isTaken

def takeBorderImage (declaration : Declaration) : Step Bool := do
  if BorderImage.willFlush declaration (← get).borderImage then onBorder Border.flush
  onPart (·.borderImage) (fun g borderImage => { g with borderImage })
    (BorderImage.take declaration)

def takeDirection (declaration : Declaration) : Step Bool := do
  match declaration.name, declaration.setting with
  | "direction", .known _ _ => modify fun g => { g with direction := some declaration }
  | "unicode-bidi", .known _ _ => modify fun g => { g with bidi := some declaration }
  | _, _ => return false
  return true

def takeAll (declaration : Declaration) : Step Bool := do
  if declaration.name != "all" then return false
  let g ← get
  let kept ← g.custom.mapM fun (name, place) => do
    return (name, ← (Shortening.written? place : Shortening (Option Declaration)))
  (modify fun output => { output with written := [] } : Shortening Unit)
  set ({ direction := g.direction, bidi := g.bidi } : Gathered)
  for (name, written) in kept do
    let place ← (Shortening.count : Shortening Nat)
    (Shortening.pushAll written.toList : Shortening Unit)
    modify fun g => { g with custom := g.custom ++ [(name, place)] }
  (Shortening.push declaration : Shortening Unit)
  return true

def takeCustom (declaration : Declaration) : Step Bool := do
  if !declaration.isCustom then return false
  match (← get).custom.lookup declaration.name with
  | some place =>
    let old ← (Shortening.written? place : Shortening (Option Declaration))
    if old != some declaration then
      let changed ← (Shortening.withFallbacks declaration : Shortening Declaration)
      (Shortening.replace place changed : Shortening Unit)
  | none =>
    let place ← (Shortening.count : Shortening Nat)
    modify fun g => { g with custom := g.custom ++ [(declaration.name, place)] }
    (Shortening.pushRaw declaration : Shortening Unit)
  return true

def borderImage : Family where
  take := takeBorderImage
  finish := onPart (·.borderImage) (fun g borderImage => { g with borderImage }) BorderImage.finish

def families : List Family := [
  family (·.background) (fun g background => { g with background }) Background.take
    Background.finish,
  ⟨takeBorder, onBorder Border.finish⟩,
  borderImage,
  family (·.borderRadius) (fun g borderRadius => { g with borderRadius }) BorderRadius.take
    BorderRadius.finish,
  family (·.outline) (fun g outline => { g with outline }) Shorthand.outline.take
    Shorthand.outline.finish,
  family (·.flex) (fun g flex => { g with flex }) Flex.take Flex.flush,
  family (·.grid) (fun g grid => { g with grid }) Grid.take Grid.flush,
  family (·.alignment) (fun g alignment => { g with alignment }) Alignment.take Alignment.flush,
  family (·.size) (fun g size => { g with size }) Size.take Size.finish,
  family (·.margin) (fun g margin => { g with margin }) Sides.margin.take Sides.margin.finish,
  family (·.padding) (fun g padding => { g with padding }) Sides.padding.take
    Sides.padding.finish,
  family (·.scrollMargin) (fun g scrollMargin => { g with scrollMargin }) Sides.scrollMargin.take
    Sides.scrollMargin.finish,
  family (·.scrollPadding) (fun g scrollPadding => { g with scrollPadding })
    Sides.scrollPadding.take Sides.scrollPadding.finish,
  family (·.font) (fun g font => { g with font }) Font.take Font.finish,
  family (·.text) (fun g text => { g with text }) TextDecoration.take TextDecoration.finish,
  family (·.list) (fun g list => { g with list }) Shorthand.listStyle.take
    Shorthand.listStyle.finish,
  family (·.transition) (fun g transition => { g with transition }) Transition.take
    Transition.finish,
  family (·.animation) (fun g animation => { g with animation }) Animation.take Animation.finish,
  family (·.display) (fun g display => { g with display }) Display.take Display.finish,
  family (·.placement) (fun g placement => { g with placement }) Placement.take Placement.finish,
  family (·.inset) (fun g inset => { g with inset }) Sides.inset.take Sides.inset.finish,
  family (·.overflow) (fun g overflow => { g with overflow }) Overflow.take Overflow.finish,
  family (·.transform) (fun g transform => { g with transform }) Transform.take Transform.finish,
  family (·.shadow) (fun g shadow => { g with shadow }) Shadow.take Shadow.finish,
  family (·.mask) (fun g mask => { g with mask }) Mask.take Mask.finish,
  family (·.container) (fun g container => { g with container }) Shorthand.container.take
    Shorthand.container.finish,
  ⟨fun declaration => (Single.takeScheme declaration : Shortening Bool), pure ()⟩,
  family (·.colored) (fun g colored => { g with colored }) Single.takeColored (set ([] :
    Single.Gathered)),
  family (·.marked) (fun g marked => { g with marked }) Single.takeMarked (pure ()),
  ⟨takeDirection, pure ()⟩, ⟨takeAll, pure ()⟩, ⟨takeCustom, pure ()⟩]

def takeFirst (declaration : Declaration) : List Family → Step Unit
  | [] => (Shortening.push declaration : Shortening Unit)
  | family :: rest => do
    if !(← family.take declaration) then takeFirst declaration rest

def finishAll : Step Unit := do
  let g ← get
  (Shortening.pushAll (g.direction.toList ++ g.bidi.toList) : Shortening Unit)
  families.forM (·.finish)

def runStep (browsers : Browsers) (isImportant : Bool) (extras : Extras) (step : Step Unit) :
    Gathered × List Declaration × Extras :=
  let (((), gathered), output) :=
    ((step.run {}).run browsers).run { extras, isImportant }
  (gathered, output.written, output.extras)

def finishStep (browsers : Browsers) (isImportant : Bool)
    (state : Gathered × List Declaration × Extras) : List Declaration × Extras :=
  let (gathered, written, extras) := state
  let (((), _), output) :=
    ((finishAll.run gathered).run browsers).run { written, extras, isImportant }
  (output.written, output.extras)

end Shortening

namespace Declarations

def shortened (browsers : Browsers) (extras : Extras) (declarations : Declarations) :
    Declarations × Extras :=
  let taken (isImportant : Bool) (extras : Extras) (all : List Declaration) :=
    Shortening.runStep browsers isImportant extras do
      for declaration in all do
        Shortening.takeFirst declaration Shortening.families
  let important := taken true extras declarations.important
  let normal := taken false important.2.2 declarations.normal
  let isImportant := declarations.normal.isEmpty && !declarations.important.isEmpty
  let (written, extras) := Shortening.finishStep browsers isImportant normal
  let (writtenImportant, extras) :=
    Shortening.finishStep browsers isImportant (important.1, important.2.1, extras)
  (⟨written, writtenImportant⟩, extras)

end Declarations

end ScopedStyles.Stylesheet
