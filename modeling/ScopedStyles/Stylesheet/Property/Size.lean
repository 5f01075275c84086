import ScopedStyles.Stylesheet.Shortening
import ScopedStyles.Stylesheet.Value.Reader

namespace ScopedStyles.Stylesheet.Size

def ofContent (spelling : Spelling) (name : String) : Value :=
  let text := spelling.mark ++ name
  [if spelling == .plain then .modern text else .rare text]

def stretch : Spelling → Value
  | .webkit => [.rare "-webkit-fill-available"]
  | .moz => [.rare "-moz-available"]
  | _ => [.rare "stretch"]

def contentNames : List String := ["min-content", "max-content", "fit-content"]

def named (usual : String) : Reader Value := do
  let word ← Reader.keyword
  let (spelling, name) := Spelling.split word
  if word == usual then return .ofText word
  else if contentNames.contains name && [Spelling.webkit, .moz, .plain].contains spelling then
    return ofContent spelling name
  else
    match word with
    | "stretch" => return stretch .plain
    | "-webkit-fill-available" => return stretch .webkit
    | "-moz-available" => return stretch .moz
    | "contain" => return [.rare word]
    | _ => failure

def fitting : Reader Value := Reader.call "fit-content" do
  return .rare "fit-content(" :: (← Reader.lengthPercentageValue) ++ [.text ")"]

def size (usual : String) : Reader Value :=
  named usual <|> fitting <|> Reader.lengthPercentageValue

def physical : List String :=
  ["width", "min-width", "max-width", "height", "min-height", "max-height"]

def logical : List (String × String) :=
  [("block-size", "height"), ("min-block-size", "min-height"), ("max-block-size", "max-height"),
    ("inline-size", "width"), ("min-inline-size", "min-width"), ("max-inline-size", "max-width")]

def properties : List String := physical ++ logical.map Prod.fst

def read (name : String) : Reader Setting :=
  Setting.ofValue <$> size (if name.startsWith "max-" then "none" else "auto")

structure Gathered where
  values : List (String × Value) := []
  isLogical : Bool := false
  flushed : List String := []
  deriving Inhabited

abbrev Step := StateT Gathered Shortening

def vendorForms (browsers : Browsers) (value : Value) : List Value :=
  match value with
  | [.rare "stretch"] => [stretch .webkit, stretch .moz]
  | [.modern name] =>
    if browsers.areOld && contentNames.contains name then
      [ofContent .webkit name, ofContent .moz name]
    else []
  | _ => []

def write (name : String) (value : Value) : Step Unit := do
  let browsers ← (Shortening.browsers : Shortening Browsers)
  let forms := if (← get).flushed.contains name then [] else vendorForms browsers value
  for form in forms ++ [value] do
    (Shortening.push (.plain name (.ofValue form)) : Shortening Unit)
  modify fun g => { g with flushed := name :: g.flushed }

def flush : Step Unit := do
  let g ← get
  set { g with values := [] }
  let browsers ← (Shortening.browsers : Shortening Browsers)
  for name in physical do
    if let some value := g.values.lookup name then write name value
  for (name, other) in logical do
    if let some value := g.values.lookup name then
      write (if browsers.areRecent then name else other) value

def takeRaw (declaration : Declaration) : Step Unit := do
  let browsers ← (Shortening.browsers : Shortening Browsers)
  let write (name : String) : Step Unit := do
    (Shortening.push { declaration with name } : Shortening Unit)
    modify fun g => { g with flushed := name :: g.flushed }
  match logical.lookup declaration.name with
  | some other =>
    if browsers.areRecent then
      flush
      write declaration.name
    else write other
  | none =>
    flush
    write declaration.name

def take (declaration : Declaration) : Step Bool := do
  let name := declaration.name
  if !properties.contains name then return false
  match declaration.setting with
  | .raw _ => takeRaw declaration
  | .known _ layers =>
    let browsers ← (Shortening.browsers : Shortening Browsers)
    let g ← get
    let value : Value := layers.flatten.flatten
    let isLogical := (logical.lookup name).isSome
    let isUnknown := (g.values.lookup name).isSome && !Value.isKnown browsers value
    if g.isLogical != isLogical || isUnknown then flush
    modify fun g => { g with
      values := (name, value) :: g.values.filter fun (other, _) => other != name
      isLogical }
  return true

def finish : Step Unit := do
  flush
  modify fun g => { g with flushed := [] }

end ScopedStyles.Stylesheet.Size
