import ScopedStyles.Stylesheet.Declaration

namespace ScopedStyles.Stylesheet

structure Extras where
  leftToRight : List Declaration := []
  rightToLeft : List Declaration := []
  dark : List Declaration := []
  conditional : List (Color.Fallback × Declarations) := []
  deriving Inhabited

namespace Extras

def addConditional (kind : Color.Fallback) (declaration : Declaration) (isImportant : Bool) :
    List (Color.Fallback × Declarations) → List (Color.Fallback × Declarations)
  | [] => [(kind, ({} : Declarations).add declaration isImportant)]
  | (other, declarations) :: rest =>
    if other = kind then (other, declarations.add declaration isImportant) :: rest
    else (other, declarations) :: addConditional kind declaration isImportant rest

end Extras

structure Output where
  written : List Declaration := []
  extras : Extras := {}
  isImportant : Bool := false
  deriving Inhabited

abbrev Shortening := ReaderT Browsers (StateM Output)

namespace Browsers

def webkitOfRecent : List String :=
  ["user-select", "appearance", "backface-visibility", "backdrop-filter", "hyphens",
    "box-decoration-break", "mask", "mask-image", "mask-repeat",
    "mask-position", "mask-clip", "mask-origin", "mask-size", "mask-composite", "mask-border",
    "mask-border-source", "mask-border-slice", "mask-border-width", "mask-border-outset",
    "mask-border-repeat", "text-decoration", "print-color-adjust"]

def webkitOfOld : List String :=
  ["transform", "transform-origin", "transform-style", "backface-visibility", "perspective",
    "perspective-origin", "filter", "clip-path", "box-decoration-break", "flex",
    "flex-flow", "flex-direction", "flex-wrap", "flex-grow", "flex-shrink", "flex-basis", "order",
    "align-content", "align-items", "align-self", "justify-content", "animation", "animation-name",
    "animation-duration", "animation-delay", "animation-direction", "animation-iteration-count",
    "animation-play-state", "animation-fill-mode", "animation-timing-function", "text-decoration",
    "text-decoration-line", "text-decoration-style", "text-decoration-color",
    "text-decoration-skip-ink", "text-emphasis", "text-emphasis-style", "text-emphasis-color",
    "text-emphasis-position", "mask", "mask-image", "mask-repeat", "mask-position", "mask-clip",
    "mask-origin", "mask-size", "mask-composite", "mask-border", "mask-border-source",
    "mask-border-slice", "mask-border-width", "mask-border-outset", "mask-border-repeat",
    "print-color-adjust"]

def vendors (browsers : Browsers) (property : String) : List Spelling :=
  match browsers.generation with
  | .recent =>
    if property == "text-size-adjust" then [.moz]
    else if webkitOfRecent.contains property then [.webkit] else []
  | .old =>
    if ["user-select", "appearance", "hyphens", "text-size-adjust"].contains property then
      [.webkit, .moz]
    else if ["tab-size", "text-align-last"].contains property then [.moz]
    else if webkitOfOld.contains property then [.webkit] else []

def spellings (browsers : Browsers) (property : String) (given : List Spelling) : List Spelling :=
  if given.contains .plain then Spelling.union [.plain] (browsers.vendors property) else given

end Browsers

namespace Shortening

def browsers : Shortening Browsers := read

def push (declaration : Declaration) : Shortening Unit :=
  modify fun output => { output with written := output.written ++ [declaration] }

def pushAll (declarations : List Declaration) : Shortening Unit :=
  declarations.forM push

def count : Shortening Nat := do
  return (← get).written.length

def written? (place : Nat) : Shortening (Option Declaration) := do
  return (← get).written[place]?

def replace (place : Nat) (declaration : Declaration) : Shortening Unit :=
  modify fun output => { output with written := output.written.set place declaration }

def pushDirected (leftToRight rightToLeft : Declaration) : Shortening Unit :=
  modify fun output =>
    let extras := output.extras
    { output with extras := { extras with
        leftToRight := extras.leftToRight ++ [leftToRight]
        rightToLeft := extras.rightToLeft ++ [rightToLeft] } }

def pushDark (declaration : Declaration) : Shortening Unit :=
  modify fun output =>
    let extras := output.extras
    { output with extras := { extras with dark := extras.dark ++ [declaration] } }

def pushConditional (kind : Color.Fallback) (declaration : Declaration) : Shortening Unit :=
  modify fun output =>
    let extras := output.extras
    let conditional :=
      Extras.addConditional kind declaration output.isImportant extras.conditional
    { output with extras := { extras with conditional } }

def withFallbacks (declaration : Declaration) : Shortening Declaration := do
  match declaration.setting with
  | .known _ _ => return declaration
  | .raw raw =>
    let withKind (kind : Color.Fallback) : Declaration :=
      { declaration with setting := .raw (raw.fallback kind) }
    match Raw.possibleFallbacks (← browsers) raw with
    | [] => return declaration
    | lowest :: others =>
      for kind in others do
        unless kind = .oklab do pushConditional kind (withKind kind)
      return withKind lowest

def pushRaw (declaration : Declaration) : Shortening Unit := do
  push (← withFallbacks declaration)

def respelled (property : String) (declaration : Declaration) : Shortening Declaration := do
  return { declaration with
    spellings := (← browsers).spellings property declaration.spellings }

end Shortening

namespace Spelling

def inter (a b : List Spelling) : List Spelling :=
  all.filter fun spelling => a.contains spelling && b.contains spelling

def diff (a b : List Spelling) : List Spelling :=
  a.filter (!b.contains ·)

end Spelling

structure Spelled (α : Type) where
  value : α
  spellings : List Spelling
  deriving Inhabited

namespace Spelled

variable {α : Type} [BEq α]

def conflicts (given : Option (Spelled α)) (value : α) (spellings : List Spelling) : Bool :=
  match given with
  | some old => old.value != value && !spellings.all old.spellings.contains
  | none => false

def update (given : Option (Spelled α)) (value : α) (spellings : List Spelling) : Spelled α :=
  match given with
  | some old => ⟨value, Spelling.union old.spellings spellings⟩
  | none => ⟨value, spellings⟩

end Spelled

abbrev SpelledValues := List (String × Spelled (List Value))

namespace SpelledValues

def get? (values : SpelledValues) (name : String) : Option (Spelled (List Value)) :=
  values.lookup name

def drop (values : SpelledValues) (names : List String) : SpelledValues :=
  values.filter fun (name, _) => !names.contains name

def put (values : SpelledValues) (name : String) (value : List Value)
    (spellings : List Spelling) : SpelledValues :=
  (name, Spelled.update (values.get? name) value spellings) :: values.drop [name]

def conflicts (values : SpelledValues) (name : String) (value : List Value)
    (spellings : List Spelling) : Bool :=
  Spelled.conflicts (values.get? name) value spellings

def without (values : SpelledValues) (names : List String) (spellings : List Spelling) :
    SpelledValues :=
  values.filterMap fun (name, spelled) =>
    if names.contains name then
      let rest := Spelling.diff spelled.spellings spellings
      if rest.isEmpty then none else some (name, { spelled with spellings := rest })
    else some (name, spelled)

def common? (values : SpelledValues) (names : List String) :
    Option (List (List Value) × List Spelling) := do
  let found ← names.mapM values.get?
  let spellings := found.foldl (fun all one => Spelling.inter all one.spellings) Spelling.all
  if spellings.isEmpty then none else some (found.map (·.value), spellings)

end SpelledValues

end ScopedStyles.Stylesheet
