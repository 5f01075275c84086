import ScopedStyles.Stylesheet.Image

namespace ScopedStyles.Stylesheet

inductive Setting where
  | raw (raw : Raw)
  | known (shown : Value) (layers : List (List Value))
  deriving BEq, Inhabited

namespace Setting

def ofValue (value : Value) : Setting := known value [[value]]

def ofList (values : List Value) : Setting :=
  known (Value.commas values) (values.map ([·]))

def ofLayers (write : List Value → Value) (layers : List (List Value)) : Setting :=
  known (Value.commas (layers.map write)) layers

def ofRecord (write : List Value → Value) (values : List Value) : Setting :=
  known (write values) [values]

def forms (browsers : Browsers) : Setting → List Setting × Setting
  | raw tokens => ([], raw tokens)
  | known shown layers =>
    let kinds := shown.neededFallbacks browsers
    let withKind (kind : Color.Fallback) : Setting :=
      known (shown.fallback kind) (layers.map (List.map (Value.fallback kind)))
    ((kinds.filter (· != .lab)).map withKind,
      if kinds.contains .lab then withKind .lab else known shown layers)

def write (browsers : Browsers) : Setting → String
  | raw tokens => Raw.write browsers tokens
  | known shown _ => shown.write browsers

end Setting

structure Declaration where
  name : String
  spellings : List Spelling
  setting : Setting
  deriving BEq, Inhabited

namespace Declaration

def plain (name : String) (setting : Setting) : Declaration := ⟨name, [.plain], setting⟩

def isCustom (declaration : Declaration) : Bool :=
  declaration.name.startsWith "--"

def write (browsers : Browsers) (isImportant : Bool) (declaration : Declaration) : List String :=
  (Spelling.all.filter declaration.spellings.contains).map fun spelling =>
    spelling.mark ++ Token.writeIdent declaration.name ++ ":" ++
      declaration.setting.write browsers ++ (if isImportant then "!important" else "")

end Declaration

structure Declarations where
  normal : List Declaration := []
  important : List Declaration := []
  deriving BEq, Inhabited

namespace Declarations

def isEmpty (declarations : Declarations) : Bool :=
  declarations.normal.isEmpty && declarations.important.isEmpty

def append (a b : Declarations) : Declarations :=
  ⟨a.normal ++ b.normal, a.important ++ b.important⟩

def add (declarations : Declarations) (declaration : Declaration) (isImportant : Bool) :
    Declarations :=
  if isImportant then { declarations with important := declarations.important ++ [declaration] }
  else { declarations with normal := declarations.normal ++ [declaration] }

def write (browsers : Browsers) (declarations : Declarations) : String :=
  String.intercalate ";" <|
    declarations.normal.flatMap (Declaration.write browsers false) ++
      declarations.important.flatMap (Declaration.write browsers true)

end Declarations

end ScopedStyles.Stylesheet
