import ScopedStyles.JavaScript.Layout
import ScopedStyles.JavaScript.Quoted
import ScopedStyles.JavaScript.Tree

namespace ScopedStyles.JavaScript

open Layout (concat commas separated lines newline indented)

def StringLiteral.print (literal : StringLiteral) : String :=
  literal.spelling.getD (Quoted.write literal.value)

def Owner.marker : Owner → Layout
  | .inClass true => "static "
  | _ => ""

def onlyIf (condition : Bool) (part : Layout) : Layout :=
  if condition then part else .empty

def after (before : Layout) (tree : Tree) (part : Layout) : Layout :=
  onlyIf (!tree.isAbsent) (before ++ part)

def braced (parts : List Layout) : Layout :=
  "\x7b" ++ lines .empty parts ++ "\x7d"

def Tree.isBlock : Tree → Bool
  | .node .block _ => true
  | _ => false

-- Whole numbers need a second dot before a property, as the first one belongs to the number.
def Tree.isWholeNumber : Tree → Bool
  | .token text =>
    let digits := text.toList.filter (· != '_')
    !digits.isEmpty && digits.all Char.isDigit && (digits.length = 1 || digits.head? != some '0')
  | _ => false

def Tree.startsWithSign (sign : String) : Tree → Bool
  | .node (.unary operator) _ => operator == sign && (sign == "+" || sign == "-")
  | .node (.update operator true) _ =>
    (sign == "+" && operator == "++") || (sign == "-" && operator == "--")
  | _ => false

def closingComma (endsInComma : Bool) (elements : List Tree) : Layout :=
  onlyIf ((elements.getLast?.map fun last => endsInComma || last.isAbsent).getD false) ", "

def statementEnd : Layout := ";" ++ newline

def Form.arrange : Form → List Tree → List Layout → Layout
  | .array _, trees, parts =>
    if trees.isEmpty then "[]"
    else
      "[" ++ newline ++ indented (separated ("," ++ newline) parts ++ closingComma false trees) ++
        newline ++ "]"
  | .parenthesized, _, [e] => "(" ++ e ++ ")"
  | .sequence, _, es => commas es
  | .spread, _, [e] => "..." ++ e
  | .member, [object, _], [o, p] => o ++ onlyIf object.isWholeNumber "." ++ "." ++ p
  | .element, _, [o, i] => o ++ "[" ++ i ++ "]"
  | .optionalMember, _, [o, p] => o ++ "?." ++ p
  | .optionalElement, _, [o, i] => o ++ "?.[" ++ i ++ "]"
  | .optionalCall, _, callee :: arguments => callee ++ "?.(" ++ commas arguments ++ ")"
  | .construct hasArguments, _, callee :: arguments =>
    "new " ++ callee ++ onlyIf hasArguments ("(" ++ commas arguments ++ ")")
  | .unary operator, [operand], [e] =>
    let isWord := ["typeof", "void", "delete"].contains operator
    operator ++ onlyIf (isWord || operand.startsWithSign operator) " " ++ e
  | .update operator before, _, [e] => if before then operator ++ e else e ++ operator
  | .binary operator, _, [l, r] => l ++ " " ++ operator ++ " " ++ r
  | .assignment operator, _, [l, r] => l ++ " " ++ operator ++ " " ++ r
  | .conditional, _, [test, yes, no] => test ++ " ? " ++ yes ++ " : " ++ no
  | .yieldExpression delegates, [tree], [e] =>
    "yield" ++ onlyIf delegates "*" ++ after " " tree e
  | .awaitExpression, _, [e] => "await " ++ e
  | .arrow isAsync, [_, tree], [ps, body] =>
    onlyIf isAsync "async " ++ ps ++ "=>" ++ (if tree.isBlock then body else indented body)
  | .function isAsync isGenerator isDeclared, [nameTree, _, _], [name, ps, body] =>
    onlyIf isAsync "async " ++ "function" ++ onlyIf isGenerator "*" ++
      (if isDeclared then " " ++ name else after " " nameTree name) ++ ps ++ " " ++ body
  | .parameters, _, ps => "(" ++ commas ps ++ ")"
  | .classDefinition, [nameTree, _, superTree], [name, body, super] =>
    "class" ++ after " " nameTree name ++ after " extends " superTree super ++ " " ++ body
  | .members, _, ms => braced ms
  | .method owner isAsync isGenerator, _, [key, ps, body] =>
    owner.marker ++ onlyIf isAsync "async " ++ onlyIf isGenerator "*" ++ key ++
      onlyIf (owner == .object) " " ++ ps ++ " " ++ body
  | .instanceMaker, _, [ps, body] => "constructor" ++ ps ++ body
  | .getter .object, _, [key, _, body] => "get " ++ key ++ " () " ++ body
  | .getter owner, _, [key, ps, body] => owner.marker ++ "get " ++ key ++ ps ++ " " ++ body
  | .setter .object, _, [key, ps, body] => "set " ++ key ++ " " ++ ps ++ body
  | .setter owner, _, [key, ps, body] => owner.marker ++ "set " ++ key ++ ps ++ " " ++ body
  | .field isStatic, [_, valueTree], [key, value] =>
    (Owner.inClass isStatic).marker ++ key ++ after " = " valueTree value ++ ";"
  | .staticBlock, _, [body] => "static" ++ body
  | .computedKey, _, [e] => "[" ++ e ++ "]"
  | .shorthandDefault, _, [name, value] => name ++ "=" ++ value
  | .objectPattern, trees, ps =>
    if trees.isEmpty then "\x7b\x7d" else "\x7b " ++ commas ps ++ " \x7d"
  | .arrayPattern, trees, ps => "[" ++ commas ps ++ closingComma false trees ++ "]"
  | .defaulted, _, [target, value] => target ++ " = " ++ value
  | .rest, _, [e] => "..." ++ e
  | .bareDeclarator, _, [target] => target
  | .markup, _, [opening, children, closing] => opening ++ children ++ closing
  | .markupChildren, _, parts => concat parts
  | .openingTag closesItself, trees, name :: parts =>
    "<" ++ name ++ onlyIf (trees.length > 1) (" " ++ separated " " parts) ++
      onlyIf closesItself "/" ++ ">"
  | .closingTag, _, [name] => "</" ++ name ++ ">"
  | .fragment, _, [children] => "<>" ++ children ++ "</>"
  | .markupAttribute, [_, valueTree], [name, value] => name ++ after "=" valueTree value
  | .markupSpread, _, [e] => "\x7b..." ++ e ++ "\x7d"
  | .markupContainer, _, [e] => "\x7b" ++ e ++ "\x7d"
  | .expressionStatement, _, [e] => e ++ statementEnd
  | .emptyStatement, _, _ => statementEnd
  | .debuggerStatement, _, _ => "debugger" ++ statementEnd
  | .block, trees, parts => if trees.isEmpty then "\x7b\x7d" else braced parts
  | .withStatement, _, [object, body] => "with (" ++ object ++ ")" ++ body ++ newline
  | .returnStatement, [tree], [e] => "return" ++ after " " tree e ++ statementEnd
  | .throwStatement, _, [e] => "throw " ++ e ++ statementEnd
  | .labeled, _, [label, body] => label ++ ": " ++ body ++ newline
  | .breakStatement, [tree], [label] => "break" ++ after " " tree label ++ statementEnd
  | .continueStatement, [tree], [label] => "continue" ++ after " " tree label ++ statementEnd
  | .ifStatement, [_, yesTree, noTree], [test, yes, no] =>
    "if (" ++ test ++ ") " ++ yes ++
      after (onlyIf yesTree.isBlock " " ++ "else ") noTree no ++ newline
  | .switchStatement, _, value :: cases => "switch(" ++ value ++ ")" ++ braced cases ++ newline
  | .switchCase, testTree :: _, test :: statements =>
    (if testTree.isAbsent then Layout.text "default" else "case " ++ test) ++ ":" ++
      onlyIf (!statements.isEmpty) (newline ++ indented (separated newline statements))
  | .tryStatement, [_, handlerTree, finalTree], [body, handler, final] =>
    "try " ++ body ++ after " " handlerTree handler ++ after " finally" finalTree final ++ newline
  | .catchClause, [tree, _], [target, body] =>
    "catch " ++ after "(" tree (target ++ ")") ++ " " ++ body
  | .whileLoop, _, [test, body] => "while(" ++ test ++ ")" ++ body ++ newline
  | .doLoop, _, [test, body] => "do " ++ body ++ "while (" ++ test ++ ")" ++ newline
  | .forLoop, [_, testTree, stepTree, _], [first, test, step, body] =>
    "for(" ++ first ++ ";" ++ after " " testTree test ++ ";" ++ after " " stepTree step ++
      ")" ++ body ++ newline
  | .forIn, _, [target, object, body] =>
    "for(" ++ target ++ " in " ++ object ++ ")" ++ body ++ newline
  | .forOf isAwait, _, [target, object, body] =>
    "for" ++ onlyIf isAwait " await" ++ " (" ++ target ++ " of " ++ object ++ ")" ++ body ++ newline
  | .declaration keyword, _, ds => keyword ++ " " ++ commas ds
  | .variableStatement, _, [d] => d ++ statementEnd
  | .declarationStatement, _, [d] => d ++ newline
  | .exportDeclaration, _, [s] => "export " ++ s
  | .exportDefault, _, [e] => "export default " ++ e ++ statementEnd
  | .exportDefaultDeclaration, _, [d] => "export default " ++ d ++ newline
  | .exportNames endsInComma, sourceTree :: trees, source :: names =>
    "export \x7b " ++ commas names ++ closingComma endsInComma trees ++
      onlyIf (!trees.isEmpty) " " ++ "\x7d" ++
      after " from " sourceTree source ++ statementEnd
  | .exportSpecifier, [_, exportedTree], [own, exported] =>
    own ++ after " as " exportedTree exported
  | .exportAllAs, _, [source, name] => "export * as " ++ name ++ " from " ++ source ++ statementEnd
  | .exportAll, _, [source] => "export * from " ++ source ++ statementEnd
  | _, _, _ => .empty

def templateLayout (chunks : List String) (holes : List Layout) : Layout :=
  "`" ++ fill chunks holes ++ "`"
where
  fill : List String → List Layout → Layout
    | [], _ => .empty
    | chunk :: chunks, hole :: holes =>
      chunk ++ "$\x7b" ++ hole ++ "\x7d" ++ fill chunks holes
    | chunk :: chunks, [] => chunk ++ fill chunks []

def unifyLineEnds (text : String) : String :=
  String.ofList (unify text.toList)
where
  unify : List Char → List Char
    | '\r' :: '\n' :: rest => '\n' :: unify rest
    | '\r' :: rest => '\n' :: unify rest
    | c :: rest => c :: unify rest
    | [] => []

mutual

def Tree.layout : Tree → Layout
  | .absent => .empty
  | .identifier name => name
  | .word text => text
  | .token text => text
  | .string literal => literal.print
  | .template chunks holes => templateLayout (chunks.map unifyLineEnds) (layoutAll holes)
  | .tagged _ tag chunks holes => tag.layout ++ templateLayout chunks (layoutAll holes)
  | .call _ callee arguments => callee.layout ++ "(" ++ commas (layoutAll arguments) ++ ")"
  | .object properties _ =>
    if properties.isEmpty then "\x7b\x7d"
    else "\x7b" ++ lines "," (layoutAll properties) ++ "\x7d"
  | .property key value => key.layout ++ ": " ++ value.layout
  | .declarator target value => target.layout ++ " = " ++ value.layout
  | .node form children => form.arrange children (layoutAll children)

def layoutAll : List Tree → List Layout
  | [] => []
  | tree :: rest => tree.layout :: layoutAll rest

end

def ImportSpecifier.layout : ImportSpecifier → Layout
  | .main binding => binding
  | .everything binding => "* as " ++ binding
  | .named (some imported) binding => imported.layout ++ " as " ++ binding
  | .named none binding => binding

def ImportSpecifier.isNamed : ImportSpecifier → Bool
  | .named _ _ => true
  | _ => false

def ImportPhase.layout : ImportPhase → Layout
  | .evaluation => ""
  | .source => "source "
  | .defer => "defer "

def ImportDeclaration.layout (declaration : ImportDeclaration) : Layout :=
  let whole := declaration.specifiers.filter (!·.isNamed)
  let named := declaration.specifiers.filter (·.isNamed)
  let groups := whole.map ImportSpecifier.layout ++
    (if named.isEmpty then []
      else ["\x7b " ++ commas (named.map ImportSpecifier.layout) ++
        onlyIf declaration.endsInComma ", " ++ " \x7d"])
  "import " ++ declaration.phase.layout ++ onlyIf (!groups.isEmpty) (commas groups ++ " from ") ++
    declaration.source.print ++ statementEnd

def Item.layout : Item → Layout
  | .importing declaration => declaration.layout
  | .code tree => tree.layout

def Program.layout (program : Program) : Layout :=
  (match program.shebang with
    | some text => "#!" ++ text ++ newline
    | none => .empty) ++ concat (program.items.map Item.layout)

def Program.print (program : Program) : String :=
  program.layout.toText

end ScopedStyles.JavaScript
