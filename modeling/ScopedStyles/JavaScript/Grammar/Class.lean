import ScopedStyles.JavaScript.Grammar.Function

namespace ScopedStyles.JavaScript.Parser

variable (grammar : Grammar)

def keyText? : Tree → Option String
  | .word name => some name
  | .string literal => some literal.value
  | _ => none

def isConstructor (key : Tree) : Bool :=
  keyText? key == some "constructor"

def memberKey : Parser Tree := do
  if ← isAt "#" then
    let name ← privateName
    if name == "#constructor" then note .privateConstructor
    return .word name
  propertyName grammar

def isAtField (endsAtLine : Bool) : Parser Bool := do
  return (endsAtLine && (← isAfterLineEnd)) || (← isAtAny ["=", ";", "\x7d"])

def fieldContext (context : Context) : Context :=
  { context with
    inField := true
    hasTarget := true
    hasSuper := true
    inAsync := false
    inGenerator := false
    allowsIn := true }

def blockContext (context : Context) : Context :=
  { context with inField := true, hasTarget := true, hasSuper := true, allowsIn := true }

def fieldTail (isStatic : Bool) (key : Tree) : Parser Tree := do
  if isConstructor key then throw .constructorField
  let value ←
    if ← eat "=" then withReader fieldContext (grammar .assignment) else pure .absent
  unless ← eatStatementEnd do note .expectedSemicolon
  return .node (.field isStatic) [key, value]

def staticBlock : Parser Tree := do
  expect "\x7b"
  let body ← withReader blockContext (blockBody grammar false)
  return .node .staticBlock [.node .block body.statements.reverse]

def methodOf (isStatic : Bool) (key : Tree) : Parser Tree := do
  if isConstructor key then
    if isStatic then note .staticConstructor
    let (items, body) ← functionTail grammar { isMethod := true }
    return .node .instanceMaker [.node .parameters items, body]
  methodTail grammar (.inClass isStatic) key false false

def markedMember (isStatic : Bool) (mark : String) : Parser Tree := do
  let owner := Owner.inClass isStatic
  if mark == "async" then
    let isGenerator ← eat "*"
    let key ← memberKey grammar
    if isConstructor key then throw .asyncConstructor
    methodTail grammar owner key true isGenerator
  else
    let key ← memberKey grammar
    if isConstructor key then note .accessorConstructor
    if mark == "get" then getterTail grammar owner key else setterTail grammar owner key

def memberAfterKey (isStatic : Bool) (key : Tree) : Parser Tree := do
  if ← isAt "(" then methodOf grammar isStatic key
  else
    let startsGenerator := (← isAfterLineEnd) && (← isAt "*")
    match key with
    | .word mark =>
      if (mark == "get" || mark == "set") && !(← isAtField false) && !startsGenerator then
        markedMember grammar isStatic mark
      else if ← isAtField true then fieldTail grammar isStatic key
      else if mark == "async" then markedMember grammar isStatic mark
      else unexpected "* for generator, private key, identifier or async"
    | _ =>
      if ← isAtField true then fieldTail grammar isStatic key
      else unexpected "* for generator, private key, identifier or async"

def memberFrom (isStatic : Bool) : Parser Tree := do
  if ← eat "*" then
    let key ← memberKey grammar
    if isConstructor key then note .generatorConstructor
    methodTail grammar (.inClass isStatic) key false true
  else memberAfterKey grammar isStatic (← memberKey grammar)

def member : Parser Tree := do
  if ← eat ";" then return .node .emptyStatement []
  if ← eatWord "static" then
    if ← isAt "(" then methodOf grammar false (.word "static")
    else if ← isAtField false then fieldTail grammar false (.word "static")
    else if ← isAt "\x7b" then staticBlock grammar
    else memberFrom grammar true
  else memberFrom grammar false

def constructorCount (members : List Tree) : Nat :=
  members.countP fun
    | .node .instanceMaker _ => true
    | _ => false

def classBody : Parser (List Tree) := do
  expect "\x7b"
  let members ← many do
    if (← isAt "\x7d") || (← isAtEnd) then return none
    return some (← member grammar)
  if constructorCount members > 1 then note .repeatedConstructor
  expect "\x7d"
  return members

def superclassClause : Parser Tree := do
  if !(← eatWord "extends") then return .absent
  let super ← grammar .leftHandSide
  let _ ← many do
    if ← eatWord "extends" then
      note .repeatedExtends
      return some (← grammar .leftHandSide)
    return none
  return super

def classDefinition (isOptional : Bool) : Parser Tree := do
  expectWord "class"
  withReader (fun context => { context with isStrict := true }) do
    let name ←
      match (← token).kind with
      | .word name _ =>
        if isOptional && isReserved (← context) name then pure .absent
        else pure (Tree.identifier (← binding true))
      | .name _ => pure (Tree.identifier (← binding true))
      | _ => if isOptional then pure .absent else failAt .expectedIdentifier
    let super ← superclassClause grammar
    let members ← classBody grammar
    return .node .classDefinition [name, .node .members members, super]

end ScopedStyles.JavaScript.Parser
