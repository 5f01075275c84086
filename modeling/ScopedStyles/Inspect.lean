import ScopedStyles.Page.Description
import ScopedStyles.Settings
import ScopedStyles.Text.Inspect

namespace ScopedStyles.Inspect

def record (name : String) (fields : List (String × String)) (complete : Bool := true) : String :=
  let shown := fields.map fun (key, value) => key ++ ": " ++ value
  let shown := if complete then shown else shown ++ [".."]
  if shown.isEmpty then name
  else name ++ " \x7b " ++ String.intercalate ", " shown ++ " \x7d"

def optional (inspect : α → String) : Option α → String
  | none => "None"
  | some value => "Some(" ++ inspect value ++ ")"

def flag (value : Bool) : String :=
  if value then "true" else "false"

def mode : Mode → String
  | .production => "Production"
  | .test => "Test"
  | .development => "Development"

def options (options : Options) : String :=
  record "BemedOptions" [
    ("target", Text.inspect options.target),
    ("runtime", optional Text.inspect options.runtime),
    ("precompile", flag options.precompile),
    ("source_map", optional flag options.sourceMap),
    ("assert_unique_names", optional flag options.assertUniqueNames),
    ("prefix", optional flag options.vendorPrefixes)]

def environment (environment : Environment) : String :=
  record "BuildEnv" [
    ("mode", mode environment.mode),
    ("disable_duplicate_detection", flag environment.ignoresDuplicates)]

def settings (settings : Settings) : String :=
  record "BemedConfig" [
    ("options", options settings.options),
    ("env", environment settings.environment),
    ("generate_name", flag settings.generateName.isSome)]

def renderer (renderer : Renderer) : String :=
  record "StyleRenderer" [("mode", mode renderer.mode)] false

def cssTag (tag : CssTag) : String :=
  record "CssTag" [("renderer", renderer tag)] false

def description (description : Description) : String :=
  record "BemCss" [
    ("css_string", Text.inspect description.text),
    ("source_map", Text.inspect description.sourceMap),
    ("tag", cssTag description.tag)]

def renderRecord (value : RenderRecord) : String :=
  let counts := value.counts.map fun (name, n) => Text.inspect name ++ ": " ++ toString n.toNat
  record "RenderRecord" [("rendered", "\x7b" ++ String.intercalate ", " counts ++ "\x7d")]

def cell (name value : String) : String :=
  record name [("value", value)]

def place : Place → String
  | .browser browser =>
    "Browser(" ++ record "BrowserStyles" [
      ("record", cell "RefCell" (renderRecord browser.record)),
      ("initial_render_done", cell "Cell" (flag browser.firstRenderDone))] ++ ")"
  | .server server =>
    "Server(" ++ record "ServerStyles" [
      ("record", cell "RefCell" (renderRecord server.record))] ++ ")"

end ScopedStyles.Inspect
