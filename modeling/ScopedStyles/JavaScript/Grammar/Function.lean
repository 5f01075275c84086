import ScopedStyles.JavaScript.Grammar.Pattern

namespace ScopedStyles.JavaScript.Parser

variable (grammar : Grammar)

structure FunctionKind where
  isAsync : Bool := false
  isGenerator : Bool := false
  isArrow : Bool := false
  isMethod : Bool := false
  deriving DecidableEq, Inhabited

namespace FunctionKind

def enter (kind : FunctionKind) (context : Context) : Context :=
  { context with
    inFunction := true
    inAsync := kind.isAsync
    inGenerator := kind.isGenerator
    inParameters := false
    inField := kind.isArrow && context.inField
    hasTarget := context.hasTarget || !kind.isArrow
    hasSuper := kind.isMethod || (kind.isArrow && context.hasSuper)
    allowsIn := true
    loopHead := none
    allowsBreak := false
    allowsContinue := false
    labels := [] }

end FunctionKind

def directive? : Tree → Option String
  | .node .expressionStatement [.string literal] => some (literal.spelling.getD literal.value)
  | _ => none

def isUseStrict (spelling : String) : Bool :=
  spelling == "'use strict'" || spelling == "\"use strict\""

structure Body where
  statements : List Tree := []
  inFront : Bool
  isStrict : Bool := false

namespace Body

def add (body : Body) (statement : Tree) : Body :=
  match body.inFront, directive? statement with
  | true, some spelling =>
    { body with
      statements := statement :: body.statements
      isStrict := body.isStrict || isUseStrict spelling }
  | _, _ => { body with statements := statement :: body.statements, inFront := false }

end Body

def inBody (body : Body) (parser : Parser α) : Parser α :=
  withReader (fun context => { context with isStrict := context.isStrict || body.isStrict }) parser

def blockBody (hasDirectives : Bool) : Parser Body := do
  refine (fun body => do
      if ← eat "\x7d" then return none
      if ← isAtEnd then
        note (.expected "\x7d" "<eof>")
        return none
      return some (body.add (← inBody body (grammar (.statement true)))))
    { inFront := hasDirectives }

def block : Parser Tree := do
  expect "\x7b"
  return .node .block (← blockBody grammar false).statements.reverse

def areSimple (parameters : List Tree) : Bool :=
  parameters.all fun
    | .identifier _ => true
    | _ => false

def functionBlock (parameters : List Tree) : Parser Tree := do
  expect "\x7b"
  let body ← blockBody grammar true
  if body.isStrict && !areSimple parameters then note .directiveWithPatterns
  return .node .block body.statements.reverse

def restParameter : Parser Tree := do
  let target ← grammar (.pattern false)
  if ← eat "=" then
    note .restWithDefault
    return .node .rest [.node .defaulted [target, ← grammar .assignment]]
  return .node .rest [target]

def parameter : Parser Tree := do
  let parameter ← if ← eat "..." then restParameter grammar else bindingElement grammar
  unless ← isAt ")" do
    expect ","
    checkRest parameter ")" .restParameterNotLast
  return parameter

def parameters : Parser (List Tree) := do
  expect "("
  let items ← many do
    if (← isAt ")") || (← isAtEnd) then return none
    return some (← parameter grammar)
  expect ")"
  return items

def functionTail (kind : FunctionKind) : Parser (List Tree × Tree) :=
  withReader kind.enter do
    let items ← withReader
      (fun context => { context with inParameters := true, inFunction := false })
      (parameters grammar)
    let body ← functionBlock grammar items
    return (items, body)

def functionName (kind : FunctionKind) (isDeclared isOptional : Bool) : Parser Tree := do
  let names : Context → Context := fun context =>
    if isDeclared then context
    else { context with inAsync := kind.isAsync, inGenerator := kind.isGenerator }
  if isOptional && !(← withReader names isAtIdentifier) then return .absent
  return .identifier (← withReader names (binding false))

def functionFrom (isAsync isDeclared isOptional : Bool) : Parser Tree := do
  expectWord "function"
  let isGenerator ← eat "*"
  let kind : FunctionKind := { isAsync, isGenerator }
  let name ← functionName kind isDeclared isOptional
  let (items, body) ← functionTail grammar kind
  return .node (.function isAsync isGenerator isDeclared) [name, .node .parameters items, body]

def function (isDeclared isOptional : Bool) : Parser Tree := do
  let isAsync ← eatWord "async"
  functionFrom grammar isAsync isDeclared isOptional

def arrowBody (kind : FunctionKind) (parameters : List Tree) : Parser Tree := do
  let outer ← context
  withReader kind.enter do
    if ← isAt "\x7b" then functionBlock grammar parameters
    else
      withReader (fun context => { context with allowsIn := outer.allowsIn })
        (grammar .assignment)

def arrowTail (isAsync : Bool) (parameters : List Tree) : Parser Tree := do
  expect "=>"
  let body ← arrowBody grammar { isAsync, isArrow := true } parameters
  return .node (.arrow isAsync) [.node .parameters parameters, body]

def methodTail (owner : Owner) (key : Tree) (isAsync isGenerator : Bool) : Parser Tree := do
  let (items, body) ← functionTail grammar { isAsync, isGenerator, isMethod := true }
  return .node (.method owner isAsync isGenerator) [key, .node .parameters items, body]

def getterTail (owner : Owner) (key : Tree) : Parser Tree := do
  let (items, body) ← functionTail grammar { isMethod := true }
  unless items.isEmpty do note .getterParameters
  return .node (.getter owner) [key, .node .parameters items, body]

def setterTail (owner : Owner) (key : Tree) : Parser Tree := do
  let (items, body) ← functionTail grammar { isMethod := true }
  unless items.length = 1 do note .setterParameters
  if (items.head?.map isRest).getD false then note .restInSetter
  return .node (.setter owner) [key, .node .parameters items, body]

end ScopedStyles.JavaScript.Parser
