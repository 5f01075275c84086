import ScopedStyles.JavaScript.Grammar.Expression

namespace ScopedStyles.JavaScript.Parser

variable (grammar : Grammar)

def parenthesizedExpression : Parser Tree := do
  expect "("
  let value ← allowingIn (grammar .expression)
  expect ")"
  return value

def inLoop (parser : Parser α) : Parser α :=
  withReader (fun context => { context with allowsBreak := true, allowsContinue := true }) parser

def inSwitch (parser : Parser α) : Parser α :=
  withReader (fun context => { context with allowsBreak := true }) parser

def declarator (keyword : String) (inHead : Bool) : Parser Tree := do
  let target ← grammar (.pattern (keyword != "var"))
  if inHead && (← isAtAnyWord ["of", "in"]) then return .node .bareDeclarator [target]
  if ← eat "=" then
    let value ← grammar .assignment
    return .declarator target value
  if keyword == "const" && !inHead then noteStrict .constantWithoutValue
  else
    match target with
    | .identifier _ => pure ()
    | _ => throw .patternWithoutValue
  return .node .bareDeclarator [target]

def declaration (inHead : Bool) : Parser Tree := do
  let keyword ← word
  let first ← oneDeclarator keyword
  let rest ← many do
    if ← eat "," then return some (← oneDeclarator keyword)
    return none
  return .node (.declaration keyword) ((first :: rest).flatMap Option.toList)
where
  oneDeclarator (keyword : String) : Parser (Option Tree) := do
    if (← isAt ";") || (← isAtEnd) then
      note .trailingComma
      return none
    return some (← declarator grammar keyword inHead)

def skipStatement : Parser Unit := do
  let _ ← tryCatch (grammar .expression) fun _ => return .absent
  let _ ← many do
    if ← eatStatementEnd then return none
    advance
    return some ()

def variableStatement : Parser Tree := do
  let declared ← declaration grammar false
  unless ← eatStatementEnd do
    note .expectedSemicolon
    skipStatement grammar
  return .node .variableStatement [declared]

def isAtLet : Parser Bool := do
  if !(← isAtWord "let") then return false
  match (← lookAhead).kind with
  | .punctuator text => return text == "[" || text == "\x7b"
  | .word name _ => return !Token.keywords.contains name
  | .name _ => return true
  | _ => return false

def functionDeclaration : Parser Tree := do
  return .node .declarationStatement [← function grammar true false]

def classDeclaration : Parser Tree := do
  return .node .declarationStatement [← classDefinition grammar false]

def returnStatement : Parser Tree := do
  advance
  let value ← if ← isAtStatementEnd then pure .absent else allowingIn (grammar .expression)
  expectStatementEnd
  unless (← context).inFunction do note .returnNotAllowed
  return .node .returnStatement [value]

def throwStatement : Parser Tree := do
  advance
  if ← isAfterLineEnd then failAt .lineBreakAfterThrow
  let value ← allowingIn (grammar .expression)
  expectStatementEnd
  return .node .throwStatement [value]

def jumpLabel : Parser (Option String) := do
  if ← eatStatementEnd then return none
  let label ← identifier
  expectStatementEnd
  return some label

def breakStatement : Parser Tree := do
  advance
  let label ← jumpLabel
  let context ← context
  match label with
  | some name =>
    unless context.labels.contains name do note .unknownBreakLabel
    return .node .breakStatement [.word name]
  | none =>
    unless context.allowsBreak do note .breakNotAllowed
    return .node .breakStatement [.absent]

def continueStatement : Parser Tree := do
  advance
  let label ← jumpLabel
  let context ← context
  if !context.allowsContinue then note .continueNotAllowed
  else if label.any (!context.labels.contains ·) then note .unknownContinueLabel
  return .node .continueStatement [(label.map Tree.word).getD .absent]

def branch : Parser Tree := do
  if !(← context).isStrict && (← isAtWord "function") then functionDeclaration grammar
  else grammar (.statement false)

def ifStatement : Parser Tree := do
  advance
  let test ← parenthesizedExpression grammar
  let yes ← branch grammar
  let no ← if ← eatWord "else" then branch grammar else pure .absent
  return .node .ifStatement [test, yes, no]

def caseStatements : Parser (List Tree) :=
  many do
    if (← isAtAnyWord ["case", "default"]) || (← isAt "\x7d") || (← isAtEnd) then return none
    return some (← grammar (.statement true))

def switchCase (hasDefault : Bool) : Parser Tree := do
  let isDefault ← isAtWord "default"
  advance
  if isDefault && hasDefault then throw .severalDefaults
  let test ← if isDefault then pure .absent else allowingIn (grammar .expression)
  expect ":"
  return .node .switchCase (test :: (← caseStatements grammar))

def isDefaultCase : Tree → Bool
  | .node .switchCase (.absent :: _) => true
  | _ => false

def switchCases : Parser (List Tree) :=
  refine (fun cases => do
      if ← isAtAnyWord ["case", "default"] then
        return some ((← switchCase grammar (cases.any isDefaultCase)) :: cases)
      return none)
    []

def switchStatement : Parser Tree := do
  advance
  let value ← parenthesizedExpression grammar
  expect "\x7b"
  let cases ← inSwitch (switchCases grammar)
  expect "\x7d"
  return .node .switchStatement (value :: cases.reverse)

def catchClause : Parser Tree := do
  if !(← eatWord "catch") then return .absent
  let target ←
    if ← eat "(" then
      let target ← grammar (.pattern false)
      expect ")"
      pure target
    else pure .absent
  return .node .catchClause [target, ← block grammar]

def tryStatement : Parser Tree := do
  advance
  let body ← block grammar
  let handler ← catchClause grammar
  let final ← if ← eatWord "finally" then block grammar else pure .absent
  if handler.isAbsent && final.isAbsent then note .expectedSemicolon
  return .node .tryStatement [body, handler, final]

def strayClause : Parser Tree := do
  note .expectedSemicolon
  let attempt := fun (clause : Parser Tree) => tryCatch clause fun _ => return .absent
  let _ ← attempt (catchClause grammar)
  let _ ← attempt (if ← eatWord "finally" then block grammar else pure .absent)
  return .node .emptyStatement []

def withStatement : Parser Tree := do
  noteStrict .withInStrictCode
  advance
  let value ← parenthesizedExpression grammar
  return .node .withStatement [value, ← grammar (.statement false)]

def whileLoop : Parser Tree := do
  advance
  let test ← parenthesizedExpression grammar
  return .node .whileLoop [test, ← inLoop (grammar (.statement false))]

def doLoop : Parser Tree := do
  advance
  let body ← inLoop (grammar (.statement false))
  expectWord "while"
  let test ← parenthesizedExpression grammar
  let _ ← eat ";"
  return .node .doLoop [test, body]

inductive LoopHead where
  | steps (first test step : Tree)
  | keys (target value : Tree)
  | values (target value : Tree)

def eachHead (target : Tree) : Parser LoopHead := do
  if ← eatWord "of" then return .values target (← allowingIn (grammar .assignment))
  advance
  return .keys target (← allowingIn (grammar .expression))

def stepsHead (first : Tree) : Parser LoopHead := do
  let test ←
    if ← eat ";" then pure .absent
    else
      let test ← allowingIn (grammar .expression)
      let _ ← eat ";"
      pure test
  let step ← if ← isAt ")" then pure .absent else allowingIn (grammar .expression)
  return .steps first test step

def checkLoopVariables (declared : Tree) : Parser Unit := do
  match declared with
  | .node (.declaration _) [.declarator _ _] =>
    if (← context).isStrict || (← isAtWord "of") then note .loopVariableValue
  | .node (.declaration _) [_] => pure ()
  | _ => note .severalLoopVariables

def declaredHead : Parser LoopHead := do
  let isVar ← isAtWord "var"
  let declared ← withReader
    (fun context => { context with allowsIn := context.allowsIn && !isVar })
    (declaration grammar true)
  if ← isAtAnyWord ["of", "in"] then
    checkLoopVariables declared
    eachHead grammar declared
  else
    expect ";"
    stepsHead grammar declared

def loopHead (isAwait : Bool) : Parser LoopHead := do
  if (← isAtAnyWord ["const", "var"]) || (← isAtLet) then return ← declaredHead grammar
  if ← eat ";" then return ← stepsHead grammar .absent
  let first ←
    withReader (fun context => { context with allowsIn := false, loopHead := some isAwait })
      (grammar .expression)
  if ← isAtAnyWord ["of", "in"] then
    eachHead grammar (← toTarget first)
  else
    expect ";"
    stepsHead grammar first

def forLoop : Parser Tree := do
  advance
  let isAwait ← eatWord "await"
  expect "("
  let head ← loopHead grammar isAwait
  expect ")"
  let body ← inLoop (grammar (.statement false))
  match head with
  | .values target value => return .node (.forOf isAwait) [target, value, body]
  | .keys target value =>
    if isAwait then throw .awaitLoop
    return .node .forIn [target, value, body]
  | .steps first test step =>
    if isAwait then throw .awaitLoop
    return .node .forLoop [first, test, step, body]

def labeledBody : Parser Tree := do
  if ← isAtWord "function" then
    let statement ← functionDeclaration grammar
    noteStrict .labeledFunction
    match statement with
    | .node .declarationStatement [.node (.function _ true _) _] => note .labeledGenerator
    | _ => pure ()
    return statement
  else grammar (.statement false)

def labeledStatement (label : String) : Parser Tree := do
  let body ← withReader
    (fun context => { context with labels := label :: context.labels, allowsBreak := true })
    (labeledBody grammar)
  if (← context).labels.contains label then note (.repeatedLabel label)
  return .node .labeled [.word label, body]

def expressionStatement : Parser Tree := do
  let value ← allowingIn (grammar .expression)
  match value with
  | .identifier name =>
    if ← eat ":" then return ← labeledStatement grammar name
  | _ => pure ()
  if ← eatStatementEnd then return .node .expressionStatement [value]
  if ← isAtSignAfterBlock then
    note .expectedSemicolon
    return .node .expressionStatement [← grammar (.operators value 0)]
  failAt .expectedStatementEnd

def importStatement : Parser Tree := do
  let value ← allowingIn (grammar .expression)
  let _ ← eatStatementEnd
  return .node .expressionStatement [value]

def wordStatement (name : String) (allowsDeclaration : Bool) : Parser Tree := do
  match name with
  | "break" => breakStatement
  | "continue" => continueStatement
  | "debugger" =>
    advance
    expectStatementEnd
    return .node .debuggerStatement []
  | "do" => doLoop grammar
  | "for" => forLoop grammar
  | "function" =>
    unless allowsDeclaration do note .declarationNotAllowed
    functionDeclaration grammar
  | "class" =>
    unless allowsDeclaration do note .declarationNotAllowed
    classDeclaration grammar
  | "catch" | "finally" => strayClause grammar
  | "if" => ifStatement grammar
  | "return" => returnStatement grammar
  | "switch" => switchStatement grammar
  | "throw" => throwStatement grammar
  | "try" => tryStatement grammar
  | "with" => withStatement grammar
  | "while" => whileLoop grammar
  | "var" => variableStatement grammar
  | "const" =>
    if allowsDeclaration then variableStatement grammar else expressionStatement grammar
  | "let" =>
    if allowsDeclaration && (← isAtLet) then variableStatement grammar
    else expressionStatement grammar
  | "import" =>
    let next ← lookAhead
    if next.isPunctuator "(" || next.isPunctuator "." then importStatement grammar
    else failAt .moduleSyntaxInScript
  | "export" => failAt .moduleSyntaxInScript
  | "async" =>
    if ← isAtAsyncFunction then functionDeclaration grammar else expressionStatement grammar
  | _ => expressionStatement grammar

def statement (allowsDeclaration : Bool) : Parser Tree := do
  let current ← required
  match current.kind with
  | .punctuator "\x7b" => block grammar
  | .punctuator ";" =>
    advance
    return .node .emptyStatement []
  | .word name _ => wordStatement grammar name allowsDeclaration
  | _ => expressionStatement grammar

end ScopedStyles.JavaScript.Parser
