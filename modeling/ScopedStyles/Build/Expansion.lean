import ScopedStyles.Build.Session
import ScopedStyles.Template
import ScopedStyles.JavaScript.Tree
import ScopedStyles.Settings
import ScopedStyles.SourceMap.Comment

namespace ScopedStyles

open JavaScript

structure Source where
  name : String
  content : String
  deriving Repr, Inhabited

structure Job where
  settings : Settings
  file : Option String
  source : Option Source

namespace Job

def factory : String := "bemed"

def factoryModule : String := "react-bemed"

def cssExport : String := "css"

def lineOf (job : Job) (start : Option Site) : UInt64 :=
  match start, job.source with
  | some site, some _ => site.position.line
  | _, _ => 0

def sourceMap (job : Job) (start : Option Site) : String :=
  match start, job.source with
  | some site, some source =>
    if job.settings.emitsSourceMaps then
      let content := if source.content.isEmpty then none else some source.content
      SourceMap.comment (job.file.getD source.name) content site
    else ""
  | _, _ => ""

end Job

structure Expansion where
  session : Session
  calls : List CompilerCall := []
  cssAlias : Option String := none
  factoryAlias : Option String := none
  failure : Option Failure := none
  deriving Repr

namespace Expansion

def hasFailed (state : Expansion) : Bool :=
  state.failure.isSome

def literalName? (properties : List Tree) : Option String :=
  properties.findSome? fun
    | .property (.word "name") (.string literal) => some literal.value
    | _ => none

inductive Component where
  | named (name : String)
  | bare (binding : String)
  deriving DecidableEq, Repr

def componentOf? (binding : String) : List Tree → Option Component
  | [] => some (.bare binding)
  | .object properties _ :: _ =>
    match literalName? properties with
    | some name => some (if name.isEmpty then .bare binding else .named name)
    | none => some (.bare binding)
  | _ => none

def component? (job : Job) (state : Expansion) :
    Tree → Tree → Option (Component × Option Site)
  | .identifier binding, .call start (.identifier callee) arguments =>
    if job.file.isSome && state.factoryAlias == some callee then
      (componentOf? binding arguments).map (·, start)
    else none
  | _, _ => none

def claim (job : Job) (name : String) (start : Option Site) (state : Expansion) : Expansion :=
  match job.file with
  | none => state
  | some file =>
    if !job.settings.checksUniqueNames || state.session.hasSeen file then state
    else
      match state.session.register name file (job.lineOf start) with
      | .ok session => { state with session }
      | .error failure => { state with failure := some failure }

def nameProperty (name : String) : Tree :=
  .property (.word "name") (.text name)

def insertName (name : String) : Tree → Tree
  | .call start callee [] => .call start callee [.object [nameProperty name] false]
  | .call start callee (.object properties hasComma :: rest) =>
    .call start callee (.object (nameProperty name :: properties) hasComma :: rest)
  | tree => tree

def nameDeclarator (job : Job) (target value : Tree) (state : Expansion) :
    Option String × Expansion :=
  match component? job state target value with
  | none => (none, state)
  | some (.named name, start) => (none, state.claim job name start)
  | some (.bare binding, start) =>
    let name := job.settings.nameFor job.file binding
    let state := state.claim job name start
    (if state.hasFailed then none else some name, state)

def elements (holes : List Tree) (pieces : List String) : List Tree :=
  pieces.map fun piece =>
    match (Marker.index? piece).bind (holes[·]?) with
    | some hole => hole
    | none => .text piece

def piecesOf (job : Job) (chunks : List String) (state : Expansion) :
    List String × Expansion :=
  let tokens := Template.tokens chunks
  if job.settings.options.precompile then
    let (pieces, session, calls) :=
      state.session.compile job.settings.compiler (String.join tokens)
    (pieces, { state with session, calls := state.calls ++ calls })
  else (tokens, state)

def callFor (job : Job) (start : Option Site) (tag : Tree) (holes : List Tree)
    (pieces : List String) : Tree :=
  let joined := Tree.call none
    (.node .member [.node (.array false) (elements holes pieces), .word "join"]) [.text ""]
  .call start tag [joined, .text (job.sourceMap start)]

def isTracked (state : Expansion) : Tree → Bool
  | .identifier name => state.cssAlias == some name
  | _ => false

def expandTemplate (job : Job) (start : Option Site) (tag : Tree) (chunks : List String)
    (holes : List Tree) (state : Expansion) : Tree × Expansion :=
  if state.isTracked tag then
    let (pieces, state) := state.piecesOf job chunks
    (callFor job start tag holes pieces, state)
  else (.tagged start tag chunks holes, state)

mutual

-- After a failure nothing is visited any more, but a template that encloses the place of the
-- failure is still expanded.
def visit (job : Job) (tree : Tree) (state : Expansion) : Tree × Expansion :=
  if state.hasFailed then (tree, state)
  else
    match tree with
    | .absent => (.absent, state)
    | .identifier name => (.identifier name, state)
    | .word text => (.word text, state)
    | .token text => (.token text, state)
    | .string literal => (.string literal, state)
    | .template chunks holes =>
      let (holes, state) := visitAll job holes state
      (.template chunks holes, state)
    | .tagged start tag chunks holes =>
      let (tag, state) := visit job tag state
      let (holes, state) := visitAll job holes state
      state.expandTemplate job start tag chunks holes
    | .call start callee arguments =>
      let (callee, state) := visit job callee state
      let (arguments, state) := visitAll job arguments state
      (.call start callee arguments, state)
    | .object properties hasComma =>
      let (properties, state) := visitAll job properties state
      (.object properties hasComma, state)
    | .property key value =>
      let (key, state) := visit job key state
      let (value, state) := visit job value state
      (.property key value, state)
    | .declarator target value =>
      let (name, state) := state.nameDeclarator job target value
      let (target, state) := visit job target state
      let (value, state) := visit job value state
      (.declarator target ((name.map fun name => insertName name value).getD value), state)
    | .node form children =>
      let (children, state) := visitAll job children state
      (.node form children, state)

def visitAll (job : Job) : List Tree → Expansion → List Tree × Expansion
  | [], state => ([], state)
  | tree :: rest, state =>
    let (tree, state) := visit job tree state
    let (rest, state) := visitAll job rest state
    (tree :: rest, state)

end

def importedName (imported : Option Tree) (binding : String) : String :=
  match imported with
  | some (.word name) => name
  | some (.string literal) => literal.value
  | _ => binding

def aliasFor? (name : String) (specifiers : List ImportSpecifier) : Option String :=
  (specifiers.filterMap fun
    | .named imported binding =>
      if importedName imported binding = name then some binding else none
    | _ => none).getLast?

def visitImport (job : Job) (declaration : ImportDeclaration) (state : Expansion) :
    ImportDeclaration × Expansion :=
  let options := job.settings.options
  let source := declaration.source.value
  let state :=
    if source = options.target then
      { state with
        cssAlias := (aliasFor? Job.cssExport declaration.specifiers).or state.cssAlias }
    else state
  let state :=
    if source = Job.factoryModule then
      { state with
        factoryAlias := (aliasFor? Job.factory declaration.specifiers).or state.factoryAlias }
    else state
  if source = options.target && options.precompile then
    ({ declaration with source := { value := options.precompiledTarget } }, state)
  else (declaration, state)

def visitItem (job : Job) (item : Item) (state : Expansion) : Item × Expansion :=
  match item with
  | .importing declaration =>
    let (declaration, state) := state.visitImport job declaration
    (.importing declaration, state)
  | .code tree =>
    let (tree, state) := visit job tree state
    (.code tree, state)

def visitItems (job : Job) : List Item → Expansion → List Item × Expansion
  | [], state => ([], state)
  | item :: rest, state =>
    let (item, state) := state.visitItem job item
    let (rest, state) := visitItems job rest state
    (item :: rest, state)

def finish (job : Job) (state : Expansion) : Expansion :=
  match job.file with
  | some file =>
    if state.hasFailed then state else { state with session := state.session.markSeen file }
  | none => state

def visitProgram (job : Job) (program : Program) (state : Expansion) : Program × Expansion :=
  let state := { state with cssAlias := none, factoryAlias := none }
  let (items, state) := visitItems job program.items state
  ({ program with items }, state.finish job)

end Expansion

end ScopedStyles
