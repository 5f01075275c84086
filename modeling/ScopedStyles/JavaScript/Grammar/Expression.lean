import ScopedStyles.JavaScript.Grammar.Operand

namespace ScopedStyles.JavaScript.Parser

variable (grammar : Grammar)

def operator? : Parser (Option (String × Nat)) := do
  match (← token).kind with
  | .punctuator text => return (precedence? text).map (text, ·)
  | .word "instanceof" _ => return some ("instanceof", 7)
  | .word "in" _ => return if (← context).allowsIn then some ("in", 7) else none
  | _ => return none

def isSignedOperand : Tree → Bool
  | .node (.unary _) _ | .node .awaitExpression _ => true
  | _ => false

def isLogical : Tree → Bool
  | .node (.binary operator) _ => operator == "&&" || operator == "||"
  | _ => false

def operation (least : Nat) (left : Tree) : Parser (Option Tree) := do
  match ← operator? with
  | none => return none
  | some (operator, precedence) =>
    if precedence ≤ least then return none
    advance
    if operator == "**" && isSignedOperand left then failAt .unaryBeforePower
    let first ← grammar .unary
    let right ← grammar
      (.operators first (if operator == "**" then precedence - 1 else precedence))
    let isMixed :=
      (operator == "??" && (isLogical left || isLogical right)) ||
        ((operator == "||" || operator == "&&") && (isCoalescing left || isCoalescing right))
    if isMixed then note .mixedCoalescing
    return some (.node (.binary operator) [left, right])
where
  isCoalescing : Tree → Bool
    | .node (.binary "??") _ => true
    | _ => false

def operations (left : Tree) (least : Nat) : Parser Tree :=
  refine (operation grammar least) left

def firstOperand : Parser Tree :=
  tryCatch (unary grammar) fun problem => do
    let _ ← present
    match ← operator? with
    | some _ =>
      note .expectedExpression
      return .absent
    | none => throw problem

def binary : Parser Tree := do
  let first ← firstOperand grammar
  if first.isArrow then return first
  grammar (.operators first 0)

def conditional : Parser Tree := do
  let test ← binary grammar
  if test.isArrow then return test
  if ← eat "?" then
    let yes ← allowingIn (grammar .assignment)
    expect ":"
    let no ← grammar .assignment
    return .node .conditional [test, yes, no]
  return test

def assignmentOperators : List String :=
  ["+=", "-=", "*=", "/=", "%=", "**=", "<<=", ">>=", ">>>=", "&=", "|=", "^=", "&&=", "||=",
    "??="]

def innerWords : List String :=
  ["break", "case", "catch", "const", "continue", "debugger", "default", "do", "else", "export",
    "extends", "finally", "for", "if", "in", "instanceof", "return", "switch", "throw", "try",
    "var", "while", "with"]

def startsExpression : Parser Bool := do
  match (← token).kind with
  | .endOfFile => return false
  | .word name _ => return !innerWords.contains name
  | .punctuator text =>
    return ["!", "(", "[", "\x7b", "+", "-", "++", "--", "~", "`", "/", "/=", "<", "#"].contains
      text
  | _ => return true

def yieldExpression : Parser Tree := do
  advance
  let context ← context
  if context.inParameters && !context.inFunction then throw .yieldParameter
  if (← isAtStatementEnd) || !((← isAt "*") || (← startsExpression)) then
    return .node (.yieldExpression false) [.absent]
  let delegates ← eat "*"
  return .node (.yieldExpression delegates) [← grammar .assignment]

def markArrowStart (current : Token) : Parser Unit :=
  let start := match current.kind with
    | .word _ _ | .name _ | .punctuator "(" => some current.start.offset
    | _ => none
  modify fun state => { state with arrowStart := start }

def canBeAssigned : Tree → Bool
  | .node .conditional _ | .node (.binary _) _ | .node (.unary _) _ | .node (.update _ _) _ |
    .node .awaitExpression _ => false
  | _ => true

def assignment : Parser Tree := do
  if (← context).inGenerator && (← isAtWord "yield") then return ← yieldExpression grammar
  let current ← required
  markArrowStart current
  let left ← conditional grammar
  if left.isArrow || !canBeAssigned left then return left
  if ← isAt "=" then
    let target ← toAssigned left
    advance
    return .node (.assignment "=") [target, ← grammar .assignment]
  let current ← token
  match current.kind with
  | .punctuator text =>
    if assignmentOperators.contains text then
      unless left.isSimpleTarget (← context).isStrict do note .invalidAssignment
      unless left.isAssignable do throw .notAssignable
      advance
      return .node (.assignment text) [left, ← grammar .assignment]
    return left
  | _ => return left

def expression : Parser Tree := do
  let first ← grammar .assignment
  if !(← isAt ",") then return first
  let rest ← many do
    if ← eat "," then return some (← grammar .assignment)
    return none
  return .node .sequence (first :: rest)

end ScopedStyles.JavaScript.Parser
