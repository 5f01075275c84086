import ScopedStyles.JavaScript.Grammar.Function

namespace ScopedStyles.JavaScript.Parser

variable (grammar : Grammar)

def spreadOr : Parser Tree := do
  if ← eat "..." then
    return .node .spread [← allowingIn (grammar .assignment)]
  allowingIn (grammar .assignment)

def arguments : Parser (List Tree) := do
  expect "("
  listUntil ")" (spreadOr grammar)

def closesWithComma (items : List (Tree × Bool)) : Bool :=
  (items.getLast?.map Prod.snd).getD false

def arrayLiteral : Parser Tree := do
  expect "["
  let elements ← many do
    if ← isAt "]" then return none
    if ← eat "," then return some (Tree.absent, false)
    let element ← spreadOr grammar
    if ← isAt "]" then return some (element, false)
    expect ","
    return some (element, true)
  expect "]"
  return .node (.array (closesWithComma elements)) (elements.map Prod.fst)

def shorthand (name : String) : Parser Tree := do
  if ← eat "=" then
    return .node .shorthandDefault [.identifier name, ← allowingIn (grammar .assignment)]
  return .identifier name

def markedProperty (mark : String) : Parser Tree := do
  if mark == "async" then
    let isGenerator ← eat "*"
    methodTail grammar .object (← propertyName grammar) true isGenerator
  else if mark == "get" then getterTail grammar .object (← propertyName grammar)
  else if mark == "set" then setterTail grammar .object (← propertyName grammar)
  else unexpected "... , *,  (, [, :, , ?, = or an identifier"

def objectProperty : Parser Tree := do
  if ← eat "..." then
    return .node .spread [← allowingIn (grammar .assignment)]
  if ← eat "*" then
    return ← methodTail grammar .object (← propertyName grammar) false true
  let key ← propertyName grammar
  if ← eat ":" then
    return .property key (← allowingIn (grammar .assignment))
  if ← isAt "(" then
    return ← methodTail grammar .object key false false
  match key with
  | .word name =>
    if ← isAtAny ["=", ",", "\x7d"] then shorthand grammar name
    else markedProperty grammar name
  | _ => unexpected "identifier"

def objectLiteral : Parser Tree := do
  expect "\x7b"
  let properties ← many do
    if ← eat "\x7d" then return none
    let property ← objectProperty grammar
    if ← isAt "\x7d" then return some (property, false)
    expect ","
    return some (property, true)
  return .object (properties.map Prod.fst) (closesWithComma properties)

structure TemplateParts where
  chunks : List String := []
  holes : List Tree := []
  cursor : Option Cursor

def checkChunk (isTagged : Bool) (problem : Option Problem) : Parser Unit := do
  match problem with
  | some problem => unless isTagged do throw problem
  | none => pure ()

def chunk (isTagged : Bool) (parts : TemplateParts) : Parser (Option TemplateParts) := do
  let some start := parts.cursor | return none
  let (rest, ending, problem) := Token.readChunkFrom (start.rest.length + 1) none start.rest
  let stop := start.moveTo rest
  let chunks := start.textUpTo stop :: parts.chunks
  match ending with
  | .endOfFile =>
    moveTo stop
    throw .endOfFile
  | .backquote =>
    moveTo stop
    checkChunk isTagged problem
    advance
    return some { parts with chunks, cursor := none }
  | .hole =>
    moveTo (stop.skip 1)
    checkChunk isTagged problem
    advance
    let hole ← allowingIn (grammar .expression)
    unless ← isAt "\x7d" do expected "\x7d"
    return some ⟨chunks, hole :: parts.holes, some (← token).next⟩

def templateParts (isTagged : Bool) : Parser (List String × List Tree) := do
  let opening ← token
  let parts ← refine (chunk grammar isTagged) { cursor := some opening.next }
  return (parts.chunks.reverse, parts.holes.reverse)

def templateLiteral : Parser Tree := do
  let (chunks, holes) ← templateParts grammar false
  return .template chunks holes

def checkFlags : List Char → Parser Unit
  | [] => return
  | flag :: rest => do
    unless "dgimsuvy".toList.contains flag do note .unknownFlags
    if rest.contains flag then note (.repeatedFlag flag)
    checkFlags rest

def regExp : Parser Tree := do
  let start := (← token).start
  match Token.readRegExp? start with
  | none =>
    modify fun state =>
      { state with token := { state.token with kind := .invalid .unterminatedRegExp } }
    throw .unterminatedRegExp
  | some (flags, stop) =>
    moveTo stop
    checkFlags flags
    return .token (start.textUpTo stop)

end ScopedStyles.JavaScript.Parser
