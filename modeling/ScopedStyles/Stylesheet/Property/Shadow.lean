import ScopedStyles.Stylesheet.Shortening
import ScopedStyles.Stylesheet.Value.Reader

namespace ScopedStyles.Stylesheet

namespace Reader

def shadowLengths : Reader (List Value) := do
  let x ← lengthValue
  let y ← lengthValue
  let blur ← orElse lengthValue Value.zero
  return [x, y, blur, ← orElse lengthValue Value.zero]

end Reader

namespace Shadow

def write : List Value → Value
  | [inset, x, y, blur, spread, color] =>
    let extents := if spread != .zero then [blur, spread] else Value.unusual .zero blur
    Value.spaced ((if inset.isEmpty then [] else [inset]) ++ [x, y] ++ extents ++
      Value.unusual .currentColor color)
  | values => Value.spaced values

def read (ofBox : Bool) : Reader (List Value) := do
  let one (reader : Reader Value) : Reader (List Value) := (fun value => [value]) <$> reader
  let inset := if ofBox then Reader.wordValue "inset" else failure
  match ← Reader.inAnyOrder [one inset, Reader.shadowLengths, one Reader.colorValue] with
  | [inset, some lengths, color] =>
    return inset.getD [[]] ++ lengths ++ color.getD [Value.currentColor]
  | _ => failure

def readAll (ofBox : Bool) : Reader Setting :=
  Setting.ofLayers write <$> Reader.commaSeparated (read ofBox)

structure Gathered where
  shadows : Option (Spelled (List (List Value))) := none
  isFlushed : Bool := false
  deriving Inhabited

abbrev Step := StateT Gathered Shortening

def flush : Step Unit := do
  let browsers ← (Shortening.browsers : Shortening Browsers)
  let g ← get
  if let some ⟨shadows, given⟩ := g.shadows then
    let spellings := if g.isFlushed then given else browsers.spellings "box-shadow" given
    let push (spellings : List Spelling) (shadows : List (List Value)) : Step Unit :=
      (Shortening.push ⟨"box-shadow", spellings, .ofLayers write shadows⟩ : Shortening Unit)
    let forms := Value.colorForms browsers shadows
    let isChanged := !(Value.neededFallbacks browsers shadows.flatten.flatten).isEmpty
    if g.isFlushed || !isChanged then push spellings shadows
    else
      let first := (forms.earlier.head?).getD forms.last
      push spellings first
      if spellings.contains .plain then
        for form in forms.earlier.drop 1 do
          push [.plain] form
        push [.plain] forms.last
    set ({ isFlushed := true } : Gathered)

def take (declaration : Declaration) : Step Bool := do
  if declaration.name != "box-shadow" then return false
  let spellings := declaration.spellings
  match declaration.setting with
  | .raw _ =>
    flush
    (Shortening.pushRaw declaration : Shortening Unit)
    modify fun g => { g with isFlushed := true }
  | .known _ shadows =>
    let browsers ← (Shortening.browsers : Shortening Browsers)
    let areKnown := shadows.all fun shadow => Value.isKnown browsers shadow.flatten
    if (← get).shadows.isSome && !areKnown then flush
    if Spelled.conflicts (← get).shadows shadows spellings then flush
    modify fun g => { g with shadows := some (Spelled.update g.shadows shadows spellings) }
  return true

def finish : Step Unit := do
  flush
  set ({} : Gathered)

end Shadow

end ScopedStyles.Stylesheet
