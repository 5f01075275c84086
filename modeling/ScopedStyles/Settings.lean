import ScopedStyles.Compiler
import ScopedStyles.Environment
import ScopedStyles.Json
import ScopedStyles.Stylesheet.Compiler

namespace ScopedStyles

def Options.defaultTarget : String := "react-bemed/css"

structure Options where
  target : String := Options.defaultTarget
  runtime : Option String := none
  precompile : Bool := true
  sourceMap : Option Bool := none
  assertUniqueNames : Option Bool := none
  vendorPrefixes : Option Bool := none
  deriving DecidableEq, Repr, Inhabited

namespace Options

def ofFields (fields : List (String × Json)) : Options where
  target := ((Json.field? fields "target").bind Json.string?).getD defaultTarget
  runtime := (Json.field? fields "runtime").bind Json.string?
  precompile := ((Json.field? fields "precompile").bind Json.bool?).getD true
  sourceMap := (Json.field? fields "sourceMap").bind Json.bool?
  assertUniqueNames := (Json.field? fields "assertUniqueNames").bind Json.bool?
  vendorPrefixes := (Json.field? fields "prefix").bind Json.bool?

def ofText (text : String) : Options :=
  match Json.read? text with
  | some (.object fields) => ofFields fields
  | _ => {}

def precompiledTarget (options : Options) : String :=
  options.target ++ "-precompiled"

end Options

structure NamingContext where
  file : String
  binding : String

structure Settings where
  options : Options := {}
  environment : Environment := {}
  compiler : Compiler
  generateName : Option (NamingContext → Option String) := none

namespace Settings

def ofOptions (options : Options) (environment : Environment) : Settings where
  options := options
  environment := environment
  compiler :=
    Stylesheet.compiler (options.vendorPrefixes.getD environment.mode.isProduction)

def emitsSourceMaps (settings : Settings) : Bool :=
  settings.options.sourceMap.getD !settings.environment.mode.isProduction

def checksUniqueNames (settings : Settings) : Bool :=
  settings.environment.mode.isProduction && !settings.environment.ignoresDuplicates &&
    settings.options.assertUniqueNames != some false

def nameFor (settings : Settings) (file : Option String) (binding : String) : String :=
  match settings.generateName, file with
  | some generate, some file =>
    match generate ⟨file, binding⟩ with
    | some name => if name.isEmpty then binding else name
    | none => binding
  | _, _ => binding

end Settings

end ScopedStyles
