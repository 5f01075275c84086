import ScopedStyles.Stylesheet.Rule
import ScopedStyles.Stylesheet.Selector.Printer

namespace ScopedStyles.Stylesheet.Rule

abbrev Printing := StateM (Option Spelling) String

def block (front content : String) : String :=
  front ++ "\x7b" ++ content ++ "\x7d"

def writeLayerName (name : LayerName) : String :=
  String.intercalate "." (name.map Token.writeIdent)

def writeScope (vendor : Option Spelling) (outer : List (List Selector))
    (start finish : Option (List Selector)) : String :=
  let startText := (start.map fun selectors =>
    "(" ++ Selector.writeAll vendor outer selectors ++ ")").getD ""
  let finishText := (finish.map fun selectors =>
    " to (" ++ Selector.writeAll vendor (start.toList ++ outer) selectors ++ ")").getD ""
  "@scope" ++ startText ++ finishText

def writeLoose (browsers : Browsers) (vendor : Option Spelling) (outer : List (List Selector))
    (declarations : Declarations) : String :=
  let text := declarations.write browsers
  match outer with
  | [] => text
  | selectors :: around =>
    if declarations.isEmpty then "" else block (Selector.writeAll vendor around selectors) text

def inSpellings (spellings : List Spelling) (print : Printing) : Printing := do
  if spellings.isEmpty then print
  else
    let texts ← (Spelling.all.filter spellings.contains).mapM fun spelling => do
      set (some spelling)
      print
    set (none : Option Spelling)
    return String.join texts

mutual

def write (browsers : Browsers) (outer : List (List Selector)) : Rule → Printing
  | .style selectors spellings declarations inner =>
    inSpellings spellings do
      let front := Selector.writeAll (← get) outer selectors
      let hasBlock := !declarations.isEmpty || inner.isEmpty
      let own := if hasBlock then block front (declarations.write browsers) else ""
      return own ++ (← writeAll browsers (selectors :: outer) inner)
  | .group condition rules => do
    let text ← writeAll (browsers.knowing condition.colorStyles) outer rules
    return if condition.holdsAlways then text else block (condition.write browsers) text
  | .layer name rules => do
    let front := "@layer" ++ ((name.map fun name => " " ++ writeLayerName name).getD "")
    return block front (← writeAll browsers outer rules)
  | .layerOrder names =>
    return "@layer " ++ String.intercalate "," (names.map writeLayerName) ++ ";"
  | .starting rules => return block "@starting-style" (← writeAll browsers outer rules)
  | .document rules =>
    return block "@-moz-document url-prefix()" (← writeAll browsers outer rules)
  | .scope start finish rules => do
    let front := writeScope (← get) outer start finish
    return block front (← writeAll browsers [] rules)
  | .loose declarations => do return writeLoose browsers (← get) outer declarations
  | .unknown name front content =>
    let keyword := "@" ++ name ++ (if front.isEmpty then "" else " " ++ Raw.write browsers front)
    match content with
    | some content => return block keyword (Raw.write browsers content)
    | none => return keyword ++ ";"
  | .removed => return ""

def writeAll (browsers : Browsers) (outer : List (List Selector)) : List Rule → Printing
  | [] => return ""
  | rule :: rest => do
    let text ← write browsers outer rule
    return text ++ (← writeAll browsers outer rest)

end

def writeSheet (browsers : Browsers) (rules : List Rule) : String :=
  ((writeAll browsers [] rules).run none).1

end ScopedStyles.Stylesheet.Rule
