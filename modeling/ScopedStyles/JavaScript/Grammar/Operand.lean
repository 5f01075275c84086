import ScopedStyles.JavaScript.Grammar.Class
import ScopedStyles.JavaScript.Grammar.Literal

namespace ScopedStyles.JavaScript

def Tree.isArrow : Tree → Bool
  | .node (.arrow _) _ => true
  | _ => false

def Tree.isSpread : Tree → Bool
  | .node .spread _ => true
  | _ => false

namespace Parser

variable (grammar : Grammar)

def precedence? : String → Option Nat
  | "??" | "||" => some 1
  | "&&" => some 2
  | "|" => some 3
  | "^" => some 4
  | "&" => some 5
  | "==" | "!=" | "===" | "!==" => some 6
  | "<" | "<=" | ">" | ">=" => some 7
  | "<<" | ">>" | ">>>" => some 8
  | "+" | "-" => some 9
  | "*" | "/" | "%" => some 10
  | "**" => some 11
  | _ => none

def isAtSignAfterBlock : Parser Bool := do
  match (← token).kind with
  | .punctuator text => return (precedence? text).isSome && !text.startsWith "<"
  | _ => return false

def parenthesizedItems : Parser (List Tree × Bool) := do
  expect "("
  let items ← many do
    if (← isAt ")") || (← isAtEnd) then return none
    let item ← spreadOr grammar
    if ← isAt ")" then return some (item, false)
    expect ","
    return some (item, ← isAt ")")
  expect ")"
  return (items.map Prod.fst, items.any Prod.snd)

def hasStrayDefault : Tree → Bool
  | .object properties _ => properties.any fun
    | .node .shorthandDefault _ => true
    | _ => false
  | _ => false

def hasBlock : Tree → Bool
  | .node (.arrow _) [_, .node .block _] => true
  | _ => false

def parentheses (canBeArrow : Bool) (asyncStart : Option Site) : Parser Tree := do
  let (items, hasComma) ← parenthesizedItems grammar
  if ← isAt "=>" then
    if ← isAfterLineEnd then failAt .lineBreakBeforeArrow
    unless canBeArrow do failAt .arrowNotAllowed
    let arrow ← arrowTail grammar asyncStart.isSome (← toParameters items hasComma)
    if hasBlock arrow && (← isAtSignAfterBlock) then
      note .expectedSemicolon
      let joined ← grammar (.operators arrow 0)
      unless ← isAtStatementEnd do note .expectedSemicolon
      return joined
    return arrow
  if items.any hasStrayDefault then note .assignmentProperty
  if asyncStart.isSome then return .call asyncStart (.identifier "async") items
  else
    if items.any Tree.isSpread then throw .spreadInParentheses
    match items with
    | [] => throw .emptyParentheses
    | [item] => return .node .parenthesized [item]
    | _ => return .node .parenthesized [.node .sequence items]

def identifierOrArrow (canBeArrow : Bool) : Parser Tree := do
  let start ← site
  let name ← identifier
  let sameLine := !(← isAfterLineEnd)
  if canBeArrow && sameLine then
    if name == "async" && (← isAtWord "of") && !(← lookAhead).isPunctuator "=>" then
      if let some isAwait := (← context).loopHead then
        unless isAwait do note .forOfAsync
        return .identifier name
    if name == "async" && (← isAtIdentifier) then
      let parameter ← binding false
      return ← arrowTail grammar true [.identifier parameter]
    if name == "async" && (← isAt "(") then
      return ← parentheses grammar canBeArrow (some start)
    if ← isAt "=>" then
      if name == "eval" || name == "arguments" then noteStrict .strictBinding
      return ← arrowTail grammar false [.identifier name]
  return .identifier name

def primaryWord (name : String) (canBeArrow : Bool) : Parser Tree := do
  if ["this", "null", "true", "false"].contains name then
    advance
    return .token name
  else if name == "function" || (← isAtAsyncFunction) then function grammar false true
  else if name == "class" then classDefinition grammar true
  else if name == "let" || (← isAtIdentifier) then identifierOrArrow grammar canBeArrow
  else failAt .expectedExpression

def primary : Parser Tree := do
  let current ← required
  let canBeArrow := (← get).arrowStart == some current.start.offset
  match current.kind with
  | .string value => return .string (← stringLiteral value)
  | .number | .bigInteger =>
    advance
    return .token current.spelling
  | .word name _ => primaryWord grammar name canBeArrow
  | .name _ => identifierOrArrow grammar canBeArrow
  | .punctuator "[" => arrayLiteral grammar
  | .punctuator "\x7b" => objectLiteral grammar
  | .punctuator "`" => templateLiteral grammar
  | .punctuator "(" => parentheses grammar canBeArrow none
  | .punctuator "/" | .punctuator "/=" => regExp
  | .punctuator "#" => return .word (← privateName)
  | _ => failAt .expectedExpression

def memberName : Parser Tree := do
  if ← isAt "#" then return .word (← privateName)
  return .word (← word)

def elementIndex : Parser Tree := do
  expect "["
  let index ← allowingIn (grammar .expression)
  expect "]"
  return index

def optionalLink (target : Tree) : Parser Tree := do
  if ← isAt "[" then return .node .optionalElement [target, ← elementIndex grammar]
  else if ← isAt "(" then return .node .optionalCall (target :: (← arguments grammar))
  else return .node .optionalMember [target, ← memberName]

def eatOptionalDot : Parser Bool := do
  if (← isAt "?") && (← lookAhead).isPunctuator "." then
    advance
    advance
    return true
  return false

def link (start : Site) (allowsCalls : Bool) (target : Tree) : Parser (Option Tree) := do
  if ← eat "." then return some (.node .member [target, ← memberName])
  else if ← eatOptionalDot then return some (← optionalLink grammar target)
  else if ← isAt "[" then return some (.node .element [target, ← elementIndex grammar])
  else if allowsCalls && (← isAt "(") then
    return some (.call (some start) target (← arguments grammar))
  else if ← isAt "`" then
    let (chunks, holes) ← templateParts grammar true
    if target.isOptionalChain then note .templateInOptionalChain
    return some (.tagged (some start) target chunks holes)
  else return none

def chain (start : Site) (allowsCalls : Bool) (target : Tree) : Parser Tree :=
  if target.isArrow then pure target else refine (link grammar start allowsCalls) target

def superOperand (allowsCalls : Bool) : Parser Tree := do
  expectWord "super"
  if allowsCalls && (← isAt "(") then return .token "super"
  unless ← isAtAny [".", "["] do
    if allowsCalls then throw .invalidSuper else throw .invalidSuperCall
  unless (← context).hasSuper do throw .invalidSuper
  if (← isAt ".") && (← lookAhead).isPunctuator "#" then throw .invalidSuperCall
  return .token "super"

def importCall (start : Site) (allowsCalls : Bool) (callee : String) : Parser Tree := do
  unless allowsCalls && (← isAt "(") do throw .importNotAllowed
  let (items, hasComma) ← parenthesizedItems grammar
  if hasComma then throw .importTrailingComma
  return .call (some start) (.token callee) items

def importExpression (allowsCalls : Bool) : Parser Tree := do
  let start ← site
  expectWord "import"
  if !(← eat ".") then return ← importCall grammar start allowsCalls "import"
  match ← word with
  | "meta" =>
    unless (← context).isModule do note .metaOutsideModule
    return .token "import.meta"
  | "source" => importCall grammar start allowsCalls "import.source"
  | _ => unexpected "meta"

def newTarget : Parser Tree := do
  unless ← eatWord "target" do unexpected "target"
  unless (← context).hasTarget do note .invalidNewTarget
  return .token "new.target"

def constructor : Parser Tree := do
  let start ← site
  if ← eatWord "new" then
    if ← eat "." then return ← chain grammar start false (← newTarget)
    let callee ← grammar .constructor
    if callee.isArrow then return callee
    if callee.isOptionalChain then throw .optionalConstructor
    if ← isAt "(" then
      return ← chain grammar start false
        (.node (.construct true) (callee :: (← arguments grammar)))
    return .node (.construct false) [callee]
  let base ←
    if ← isAtWord "super" then superOperand false
    else if ← isAtWord "import" then importExpression grammar false
    else primary grammar
  chain grammar start false base

def leftHandSide : Parser Tree := do
  let current ← token
  if current.start.startsWith "<" && !current.start.startsWith "<!" then
    return ← grammar .markup
  let start ← site
  let base ←
    if ← isAtWord "super" then superOperand true
    else if ← isAtWord "import" then importExpression grammar true
    else constructor grammar
  chain grammar start true base

def checkUpdated (operand : Tree) : Parser Unit := do
  unless operand.isSimpleTarget (← context).isStrict do note .invalidTarget

def updated : Parser Tree := do
  let operand ← leftHandSide grammar
  if operand.isArrow || (← isAfterLineEnd) then return operand
  let current ← token
  match current.kind with
  | .punctuator "++" | .punctuator "--" =>
    checkUpdated operand
    advance
    return .node (.update current.spelling false) [operand]
  | _ => return operand

def awaitExpression : Parser Tree := do
  advance
  if ← isAt "*" then failAt .awaitStar
  let context ← context
  if !context.inAsync && ((← isAtStatementEnd) || (← isAtAny [")", "]", ","])) then
    if context.isModule then note .reservedAwait
    return .identifier "await"
  if context.inFunction && !context.inAsync then note .awaitInFunction
  else if context.inParameters && !context.inFunction then note .awaitParameter
  else if !context.inAsync && !context.isModule then note .awaitOutsideModule
  return .node .awaitExpression [← grammar .unary]

def signed (operator : String) : Parser Tree := do
  advance
  let operand ← tryCatch (grammar .unary) fun problem => do
    note problem
    return .absent
  match operator, operand with
  | "delete", .identifier _ => noteStrict .deleteIdentifier
  | _, _ => pure ()
  return .node (.unary operator) [operand]

def unary : Parser Tree := do
  let current ← token
  match current.kind with
  | .punctuator "++" | .punctuator "--" =>
    advance
    let operand ← grammar .unary
    checkUpdated operand
    return .node (.update current.spelling true) [operand]
  | .punctuator "+" | .punctuator "-" | .punctuator "~" | .punctuator "!" =>
    signed grammar current.spelling
  | .word name _ =>
    if ["delete", "void", "typeof"].contains name then signed grammar name
    else if name == "await" then awaitExpression grammar
    else updated grammar
  | _ => updated grammar

end Parser

end ScopedStyles.JavaScript
