import ScopedStyles.Text.Blank

namespace ScopedStyles

inductive Mode where
  | production
  | test
  | development
  deriving DecidableEq, Repr, Inhabited

namespace Mode

def ofVariable (value : Option String) : Mode :=
  match value.map Text.trim with
  | some "production" => production
  | some "test" => test
  | _ => development

def isProduction (mode : Mode) : Bool :=
  mode == production

def isTest (mode : Mode) : Bool :=
  mode == test

end Mode

structure Environment where
  mode : Mode := .development
  ignoresDuplicates : Bool := false
  deriving DecidableEq, Repr, Inhabited

def Environment.ofVariables (mode switch : Option String) : Environment where
  mode := .ofVariable mode
  ignoresDuplicates := (switch.map fun value => !value.isEmpty).getD false

end ScopedStyles
