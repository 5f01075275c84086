import ScopedStyles.JavaScript.Token
import ScopedStyles.JavaScript.Tree

namespace ScopedStyles.JavaScript

structure Context where
  isModule : Bool
  isStrict : Bool
  source : List Char
  inFunction : Bool := false
  inAsync : Bool := false
  inGenerator : Bool := false
  inParameters : Bool := false
  inField : Bool := false
  hasTarget : Bool := false
  hasSuper : Bool := false
  allowsIn : Bool := true
  loopHead : Option Bool := none
  allowsBreak : Bool := false
  allowsContinue : Bool := false
  labels : List String := []
  deriving Inhabited

structure ParserState where
  token : Token
  resume : Cursor := ⟨[], 0⟩
  arrowStart : Option Nat := none
  problems : List Problem := []
  deriving Inhabited

abbrev Parser := ReaderT Context (EStateM Problem ParserState)

inductive Symbol where
  | expression
  | assignment
  | unary
  | leftHandSide
  | constructor
  | operators (left : Tree) (precedence : Nat)
  | pattern (forbidsLet : Bool)
  | markup
  | statement (allowsDeclaration : Bool)
  deriving Inhabited

abbrev Grammar := Symbol → Parser Tree

namespace Parser

def setAsideInStrictCode : List String :=
  ["implements", "interface", "package", "private", "protected", "public"]

def isAlwaysReserved (name : String) : Bool :=
  Token.keywords.contains name || name == "enum"

def isReserved (context : Context) (name : String) : Bool :=
  isAlwaysReserved name ||
    (name == "let" && context.isStrict) ||
    (name == "await" && (context.inAsync || context.isModule)) ||
    (name == "yield" && (context.inGenerator || context.isStrict)) ||
    (setAsideInStrictCode.contains name && context.isStrict)

def tokenAt (context : Context) (cursor : Cursor) : Token :=
  let token := Token.read cursor
  match token.kind with
  | .word name true =>
    if isReserved context name then { token with kind := .invalid (.escapedKeyword name) }
    else token
  | _ => token

def context : Parser Context := read

def token : Parser Token := return (← get).token

def note (problem : Problem) : Parser Unit :=
  modify fun state => { state with problems := problem :: state.problems }

def noteStrict (problem : Problem) : Parser Unit := do
  if (← context).isStrict then note problem

def noteRemark : Strictness × Problem → Parser Unit
  | (.always, problem) => note problem
  | (.strictCode, problem) => noteStrict problem
  | (.moduleCode, problem) => do if (← context).isModule then note problem

def moveTo (cursor : Cursor) : Parser Unit := do
  let token := tokenAt (← context) cursor
  modify fun state => { state with token, resume := cursor }

def advance : Parser Unit := do
  let current ← token
  current.remarks.forM noteRemark
  moveTo current.next

def lookAhead : Parser Token :=
  return Token.read (← token).next

def present : Parser Token := do
  let current ← token
  if current.isEnd then throw .endOfFile
  return current

def required : Parser Token := do
  let current ← present
  match current.kind with
  | .invalid problem => throw problem
  | _ => return current

def failAt (problem : Problem) : Parser α := do
  let current ← token
  match current.kind with
  | .invalid found => note found
  | _ => pure ()
  throw problem

def isAt (punctuator : String) : Parser Bool :=
  return (← token).isPunctuator punctuator

def isAtAny (punctuators : List String) : Parser Bool := do
  let current ← token
  return punctuators.any current.isPunctuator

def isAtWord (word : String) : Parser Bool :=
  return (← token).isWord word

def isAtAnyWord (words : List String) : Parser Bool := do
  let current ← token
  return words.any current.isWord

def isAtEnd : Parser Bool :=
  return (← token).isEnd

def isAfterLineEnd : Parser Bool :=
  return (← token).afterLineEnd

def eat (punctuator : String) : Parser Bool := do
  if ← isAt punctuator then
    advance
    return true
  return false

def eatWord (word : String) : Parser Bool := do
  if ← isAtWord word then
    advance
    return true
  return false

def expected (wanted : String) : Parser α := do
  failAt (.expected wanted ((← token).shown (← context).source))

def unexpected (wanted : String) : Parser α := do
  failAt (.unexpected ((← token).shown (← context).source) wanted)

def expect (punctuator : String) : Parser Unit := do
  unless ← eat punctuator do expected punctuator

def expectWord (word : String) : Parser Unit := do
  unless ← eatWord word do expected word

def isAtStatementEnd : Parser Bool := do
  let current ← token
  return current.isPunctuator ";" || current.isPunctuator "\x7d" || current.isEnd ||
    current.afterLineEnd

def eatStatementEnd : Parser Bool := do
  if ← eat ";" then return true
  isAtStatementEnd

def expectStatementEnd : Parser Unit := do
  unless ← eatStatementEnd do expected ";"

-- Every step of a loop passes over a character.
def bound : Parser Nat :=
  return (← context).source.length + 2

def manyFrom (step : Parser (Option α)) : Nat → List α → Parser (List α)
  | 0, _ => throw .exhausted
  | fuel + 1, done => do
    match ← step with
    | some item => manyFrom step fuel (item :: done)
    | none => return done.reverse

def many (step : Parser (Option α)) : Parser (List α) := do
  manyFrom step (← bound) []

def refineFrom (step : α → Parser (Option α)) : Nat → α → Parser α
  | 0, _ => throw .exhausted
  | fuel + 1, value => do
    match ← step value with
    | some next => refineFrom step fuel next
    | none => return value

def refine (step : α → Parser (Option α)) (value : α) : Parser α := do
  refineFrom step (← bound) value

def listUntil (closing : String) (item : Parser α) : Parser (List α) := do
  let items ← many do
    if (← isAt closing) || (← isAtEnd) then return none
    let one ← item
    unless ← isAt closing do expect ","
    return some one
  expect closing
  return items

def endsInComma (start : Cursor) : Parser Bool := do
  let text := start.rest.take ((← get).resume.offset - start.offset)
  return (text.reverse.drop 1).dropWhile Text.isBlank |>.head? |>.any (· == ',')

def site : Parser Site := do
  return Site.ofOffset (← context).source (← token).start.offset

def allowingIn (parser : Parser α) : Parser α :=
  withReader (fun context => { context with allowsIn := true }) parser

def identifier : Parser String := do
  let current ← present
  match current.kind with
  | .name text =>
    if text == "arguments" && (← context).inField then note .argumentsInField
    advance
    return text
  | .word name _ =>
    let context ← context
    if name == "await" && (context.inAsync || context.isModule) then note .reservedAwait
    else if name == "yield" && (context.inGenerator || context.isStrict) then
      note (.strictReserved name)
    else if name == "let" && context.isStrict then note (.strictReserved name)
    else if Token.keywords.contains name then throw .expectedIdentifier
    else if name == "enum" then note (.strictReserved name)
    else if context.isStrict && (setAsideInStrictCode.contains name || name == "static") then
      note (.strictReserved name)
    if name == "arguments" && context.inField then note .argumentsInField
    advance
    return name
  | _ => failAt .expectedIdentifier

def binding (forbidsLet : Bool) : Parser String := do
  if forbidsLet && (← isAtWord "let") then
    unexpected "let is reserved in const, let, class declaration"
  let name ← identifier
  if name == "eval" || name == "arguments" then noteStrict .strictBinding
  return name

def isAtIdentifier : Parser Bool := do
  match (← token).kind with
  | .name _ => return true
  | .word name _ => return !isReserved (← context) name
  | _ => return false

def word : Parser String := do
  match (← present).kind with
  | .word name _ | .name name =>
    advance
    return name
  | _ => failAt .expectedIdentifier

def privateName : Parser String := do
  expect "#"
  if (← token).start.offset != (← get).resume.offset then throw .spaceAfterHash
  return "#" ++ (← word)

def isAtAsyncFunction : Parser Bool := do
  if !(← isAtWord "async") then return false
  let next ← lookAhead
  return next.isWord "function" && !next.afterLineEnd

def stringLiteral (value : String) : Parser StringLiteral := do
  let literal := { value, spelling := some (← token).spelling }
  advance
  return literal

end Parser

end ScopedStyles.JavaScript
