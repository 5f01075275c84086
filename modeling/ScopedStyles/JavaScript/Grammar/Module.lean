import ScopedStyles.JavaScript.Grammar.Statement
import ScopedStyles.JavaScript.Grammar.Markup

namespace ScopedStyles.JavaScript

namespace Parser

variable (grammar : Grammar)

def exportName : Parser Tree := do
  match (← token).kind with
  | .string value => return .string (← stringLiteral value)
  | .word _ _ | .name _ => return .word (← word)
  | _ => unexpected "identifier or string"

def namedImport : Parser ImportSpecifier := do
  match ← exportName with
  | .string literal =>
    if ← eatWord "as" then return .named (some (.string literal)) (← binding false)
    throw (.stringImportBinding literal.value)
  | .word name =>
    if ← eatWord "as" then return .named (some (.word name)) (← binding false)
    return .named none name
  | _ => throw .expectedIdentifier

def importedNames : Parser (List ImportSpecifier) := do
  if ← eat "*" then
    expectWord "as"
    return [.everything (← binding false)]
  else if ← eat "\x7b" then listUntil "\x7d" namedImport
  else return []

def fromClause : Parser StringLiteral := do
  expectWord "from"
  match (← present).kind with
  | .string value =>
    let source ← stringLiteral value
    expectStatementEnd
    return source
  | _ => unexpected "a string literal"

def phase? : String → Option ImportPhase
  | "source" => some .source
  | "defer" => some .defer
  | _ => none

def isPhaseBefore : Parser Bool := do
  if ← isAtAny ["*", "\x7b"] then return true
  if ← isAtWord "from" then return (← lookAhead).isWord "from"
  isAtIdentifier

def importClause : Parser (ImportPhase × List ImportSpecifier) := do
  if !(← isAtIdentifier) then return (.evaluation, ← importedNames)
  let first ← binding false
  match phase? first with
  | some phase =>
    if ← isPhaseBefore then
      if ← isAtAny ["*", "\x7b"] then return (phase, ← importedNames)
      return (phase, ← fromMain (← binding false))
    return (.evaluation, ← fromMain first)
  | none => return (.evaluation, ← fromMain first)
where
  fromMain (name : String) : Parser (List ImportSpecifier) := do
    if ← isAtWord "from" then return [.main name]
    expect ","
    return .main name :: (← importedNames)

def importDeclaration : Parser ImportDeclaration := do
  let start := (← token).start
  advance
  match (← token).kind with
  | .string value =>
    let source ← stringLiteral value
    let _ ← eatStatementEnd
    return { specifiers := [], source }
  | _ =>
    let (phase, specifiers) ← importClause
    let source ← fromClause
    return { phase, specifiers, source, endsInComma := ← endsInComma start }

def exportSpecifier : Parser Tree := do
  let name ← exportName
  if ← eatWord "as" then return .node .exportSpecifier [name, ← exportName]
  return .node .exportSpecifier [name, .absent]

def isNoVariable (name : String) : Bool :=
  isAlwaysReserved name || name == "package"

def checkOwnNames (names : List Tree) : Parser Unit := do
  for name in names do
    match name with
    | .node .exportSpecifier (.word name :: _) =>
      if isNoVariable name then note (.exportWithoutSource name)
    | _ => pure ()
  if names.any isOwnString then note .stringExportBinding
where
  isOwnString : Tree → Bool
    | .node .exportSpecifier (.string _ :: _) => true
    | _ => false

def exportNames (start : Cursor) : Parser Tree := do
  expect "\x7b"
  let names ← listUntil "\x7d" exportSpecifier
  if ← isAtWord "from" then
    let source ← fromClause
    return .node (.exportNames (← endsInComma start)) (.string source :: names)
  checkOwnNames names
  let _ ← eatStatementEnd
  return .node (.exportNames (← endsInComma start)) (.absent :: names)

def exportAll : Parser Tree := do
  if ← eatWord "as" then
    let name ← exportName
    return .node .exportAllAs [.string (← fromClause), name]
  return .node .exportAll [.string (← fromClause)]

def exportDefault : Parser Tree := do
  if ← isAtWord "class" then
    return .node .exportDefaultDeclaration [← classDefinition grammar true]
  if (← isAtWord "function") || (← isAtAsyncFunction) then
    return .node .exportDefaultDeclaration [← function grammar false true]
  let value ← allowingIn (grammar .assignment)
  expectStatementEnd
  return .node .exportDefault [value]

def exportItem : Parser Tree := do
  let start := (← token).start
  advance
  let _ ← present
  if ← eat "*" then exportAll
  else if ← eatWord "default" then exportDefault grammar
  else if ← isAtWord "class" then return .node .exportDeclaration [← classDeclaration grammar]
  else if (← isAtWord "function") || (← isAtAsyncFunction) then
    return .node .exportDeclaration [← functionDeclaration grammar]
  else if (← isAtAnyWord ["const", "var"]) || (← isAtLet) then
    return .node .exportDeclaration [← variableStatement grammar]
  else exportNames start

def item : Parser Item := do
  let _ ← required
  if (← context).isModule then
    if ← isAtWord "export" then return .code (← exportItem grammar)
    if ← isAtWord "import" then
      let next ← lookAhead
      unless next.isPunctuator "(" || next.isPunctuator "." do
        return .importing (← importDeclaration)
  return .code (← grammar (.statement true))

structure Items where
  items : List Item := []
  inFront : Bool := true
  isStrict : Bool := false

namespace Items

def add (items : Items) (item : Item) : Items :=
  let spelling? := match item with
    | .code tree => directive? tree
    | .importing _ => none
  match items.inFront, spelling? with
  | true, some spelling =>
    ⟨item :: items.items, true, items.isStrict || isUseStrict spelling⟩
  | _, _ => ⟨item :: items.items, false, items.isStrict⟩

end Items

def items : Parser (List Item) := do
  let all ← refine (fun all => do
      if ← isAtEnd then return none
      let next ← withReader
        (fun context => { context with isStrict := context.isStrict || all.isStrict })
        (item grammar)
      return some (all.add next))
    ({} : Items)
  (← token).remarks.forM noteRemark
  return all.items.reverse

def rule : Symbol → Parser Tree
  | .expression => expression grammar
  | .assignment => assignment grammar
  | .unary => unary grammar
  | .leftHandSide => leftHandSide grammar
  | .constructor => constructor grammar
  | .operators left precedence => operations grammar left precedence
  | .pattern forbidsLet => pattern grammar forbidsLet
  | .markup => markupElement grammar
  | .statement allowsDeclaration => statement grammar allowsDeclaration

def grammarTo : Nat → Grammar
  | 0, _ => throw .exhausted
  | depth + 1, symbol => rule (grammarTo depth) symbol

end Parser

namespace Program

def shebang? (source : List Char) : Option (String × Cursor) :=
  match source with
  | '#' :: '!' :: rest =>
    let line := rest.takeWhile (!isLineEnd ·)
    some (String.ofList line, (Cursor.ofText source).skip (line.length + 2))
  | _ => none

-- Each symbol of the grammar is tried at most a few times in one place, so nesting cannot go deeper
-- than a small multiple of the length of the text.
def ofText (isModule : Bool) (source : String) : Except Problem Program :=
  let chars := source.toList
  let shebang := shebang? chars
  let start := (shebang.map Prod.snd).getD (Cursor.ofText chars)
  let context : Context := { isModule, isStrict := isModule, source := chars }
  let state : ParserState := { token := Parser.tokenAt context start }
  match (Parser.items (Parser.grammarTo (8 * (chars.length + 2)))).run context state with
  | .error problem _ => .error problem
  | .ok items state =>
    match state.problems.getLast? with
    | some problem => .error problem
    | none => .ok { isModule, shebang := shebang.map Prod.fst, items }

end Program

end ScopedStyles.JavaScript
