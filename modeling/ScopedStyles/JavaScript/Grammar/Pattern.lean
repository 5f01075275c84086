import ScopedStyles.JavaScript.Parser

namespace ScopedStyles.JavaScript

def Tree.isOptionalChain : Tree → Bool
  | .node .optionalMember _ | .node .optionalElement _ | .node .optionalCall _ => true
  | .node .member (base :: _) => base.isOptionalChain
  | .node .element (base :: _) => base.isOptionalChain
  | .call _ callee _ => callee.isOptionalChain
  | _ => false

def Tree.isSimpleTarget (isStrict : Bool) : Tree → Bool
  | .identifier name => !(isStrict && (name == "eval" || name == "arguments"))
  | .node .member (base :: _) => !base.isOptionalChain
  | .node .element (base :: _) => !base.isOptionalChain
  | .node .parenthesized [inner] => inner.isSimpleTarget isStrict
  | _ => false

def Tree.isAssignable : Tree → Bool
  | .identifier _ | .node .member _ | .node .element _ | .node .parenthesized _ => true
  | tree => tree.isOptionalChain

def Tree.isLiteral : Tree → Bool
  | .string _ => true
  | .token text => !(["this", "import.meta", "new.target", "super"].contains text)
  | _ => false

def Tree.isOperand : Tree → Bool
  | .identifier _ | .template _ _ => true
  | .node .parenthesized _ | .node (.construct _) _ | .node (.function _ _ _) _ |
    .node .classDefinition _ => true
  | .node .member (base :: _) | .node .element (base :: _) => !base.isOptionalChain
  | .call _ callee _ => !callee.isOptionalChain
  | tree => tree.isLiteral

namespace Parser

inductive Purpose where
  | binding
  | assigning
  deriving DecidableEq

def isRest : Tree → Bool
  | .node .rest _ => true
  | _ => false

def checkObjectRest : Tree → Parser Unit
  | .node .rest [.identifier _] => return
  | .node .rest _ => note .restWithoutIdentifier
  | _ => return

def checkRestTarget : Tree → Parser Unit
  | .node (.assignment _) _ => note .restWithDefault
  | _ => return

def dropLastHoles (elements : List Tree) : List Tree :=
  (elements.reverse.dropWhile Tree.isAbsent).reverse

mutual

def toPattern (purpose : Purpose) : Tree → Parser Tree
  | .identifier name => do
    if purpose == .assigning && !(Tree.identifier name).isSimpleTarget (← context).isStrict then
      note .invalidAssignment
    return .identifier name
  | .object properties hasComma => do
    return .node .objectPattern (← toProperties purpose hasComma properties)
  | .node (.array hasComma) elements => do
    let parts ← toElements purpose hasComma elements
    return .node .arrayPattern (dropLastHoles parts)
  | .node .objectPattern parts => return .node .objectPattern parts
  | .node .arrayPattern parts => return .node .arrayPattern parts
  | .node .defaulted parts => return .node .defaulted parts
  | .node .rest parts => return .node .rest parts
  | .node (.assignment "=") parts => return .node .defaulted parts
  | tree => do
    if purpose == .assigning && tree.isOperand then
      unless tree.isSimpleTarget (← context).isStrict do note .invalidAssignment
    else note .invalidPattern
    return tree

def toElements (purpose : Purpose) (hasComma : Bool) : List Tree → Parser (List Tree)
  | [] => return []
  | .absent :: rest => return .absent :: (← toElements purpose hasComma rest)
  | .node .spread [target] :: rest => do
    if !rest.isEmpty then note .restNotLast
    else
      checkRestTarget target
      if hasComma then note .commaAfterRest
    let target ← toPattern purpose target
    return .node .rest [target] :: (← toElements purpose hasComma rest)
  | element :: rest => do
    let element ← toPattern purpose element
    return element :: (← toElements purpose hasComma rest)

def toProperties (purpose : Purpose) (hasComma : Bool) : List Tree → Parser (List Tree)
  | [] => return []
  | .property key value :: rest => do
    let value ← toPattern purpose value
    return .property key value :: (← toProperties purpose hasComma rest)
  | .node .spread [target] :: rest => do
    unless rest.isEmpty do note .restNotLast
    if hasComma then note .commaAfterRest
    let target ← toPattern purpose target
    if purpose == .binding then checkObjectRest (.node .rest [target])
    match target with
    | .node .defaulted _ => note .restWithDefault
    | _ => pure ()
    return .node .rest [target] :: (← toProperties purpose hasComma rest)
  | .identifier name :: rest =>
    return .identifier name :: (← toProperties purpose hasComma rest)
  | .node .shorthandDefault parts :: rest =>
    return .node .defaulted parts :: (← toProperties purpose hasComma rest)
  | property :: rest => do
    note .invalidPattern
    return property :: (← toProperties purpose hasComma rest)

end

def toTarget (tree : Tree) : Parser Tree := do
  match tree with
  | .object _ _ | .node (.array _) _ => toPattern .assigning tree
  | _ =>
    unless tree.isSimpleTarget (← context).isStrict do note .invalidTarget
    return tree

def toAssigned (tree : Tree) : Parser Tree := do
  let target ← toTarget tree
  match target with
  | .node .objectPattern _ | .node .arrayPattern _ => return target
  | _ =>
    unless target.isAssignable do throw .notAssignable
    return target

mutual

def boundNames : Tree → List String
  | .identifier name => [name]
  | .property _ value => boundNames value
  | .node .defaulted (target :: _) => boundNames target
  | .node .rest (target :: _) => boundNames target
  | .node .objectPattern parts | .node .arrayPattern parts => boundNamesOfAll parts
  | _ => []

def boundNamesOfAll : List Tree → List String
  | [] => []
  | tree :: rest => boundNames tree ++ boundNamesOfAll rest

end

def toParameters (items : List Tree) (hasComma : Bool) : Parser (List Tree) := do
  let parameters ← convert items
  for name in boundNamesOfAll parameters do
    if name == "eval" || name == "arguments" then noteStrict .strictBinding
  return parameters
where
  convert : List Tree → Parser (List Tree)
    | [] => return []
    | .node .spread [target] :: rest => do
      if !rest.isEmpty then
        note .restParameterNotLast
        convert rest
      else
        checkRestTarget target
        if hasComma then note .commaAfterRest
        return [.node .rest [← toPattern .binding target]]
    | item :: rest => do
      let item ← toPattern .binding item
      return item :: (← convert rest)

variable (grammar : Grammar)

def propertyName : Parser Tree := do
  let current ← present
  match current.kind with
  | .string value => return .string (← stringLiteral value)
  | .number | .bigInteger =>
    advance
    return .token current.spelling
  | .word name _ | .name name =>
    advance
    return .word name
  | .punctuator "[" =>
    advance
    let key ← allowingIn (grammar .assignment)
    expect "]"
    return .node .computedKey [key]
  | _ => unexpected "identifier, string literal, numeric literal or [ for the computed key"

def withDefault (target : Tree) : Parser Tree := do
  if ← eat "=" then
    return .node .defaulted [target, ← allowingIn (grammar .assignment)]
  return target

def bindingElement : Parser Tree := do
  withDefault grammar (← grammar (.pattern false))

def objectPatternProperty : Parser Tree := do
  if ← eat "..." then
    return .node .rest [← grammar (.pattern false)]
  let key ← propertyName grammar
  if ← eat ":" then
    return .property key (← bindingElement grammar)
  match key with
  | .word name => withDefault grammar (.identifier name)
  | _ => unexpected "an identifier"

def checkRest (element : Tree) (closing : String) (problem : Problem) : Parser Unit := do
  if isRest element then
    if ← isAt closing then note .commaAfterRest else note problem

def objectPattern : Parser Tree := do
  expect "\x7b"
  let properties ← many do
    if ← eat "\x7d" then return none
    let property ← objectPatternProperty grammar
    checkObjectRest property
    unless ← isAt "\x7d" do
      expect ","
      checkRest property "\x7d" .restNotLast
    return some property
  return .node .objectPattern properties

def arrayPattern : Parser Tree := do
  expect "["
  let elements ← many do
    if (← isAt "]") || (← isAtEnd) then return none
    if ← eat "," then return some .absent
    let element ←
      if ← eat "..." then pure (Tree.node .rest [← grammar (.pattern false)])
      else bindingElement grammar
    unless ← isAt "]" do
      expect ","
      checkRest element "]" .restNotLast
    return some element
  expect "]"
  return .node .arrayPattern elements

def pattern (forbidsLet : Bool) : Parser Tree := do
  let current ← required
  match current.kind with
  | .word _ _ | .name _ => return .identifier (← binding forbidsLet)
  | .punctuator "[" => arrayPattern grammar
  | .punctuator "\x7b" => objectPattern grammar
  | _ => unexpected "yield, an identifier, [ or \x7b"

end Parser

end ScopedStyles.JavaScript
