import ScopedStyles.Position
import ScopedStyles.Template

namespace ScopedStyles.JavaScript

inductive Owner where
  | object
  | inClass (isStatic : Bool)
  deriving DecidableEq, Repr, Inhabited

inductive Form where
  | array (hasComma : Bool)
  | parenthesized
  | sequence
  | spread
  | member
  | element
  | optionalMember
  | optionalElement
  | optionalCall
  | construct (hasArguments : Bool)
  | unary (operator : String)
  | update (operator : String) (before : Bool)
  | binary (operator : String)
  | assignment (operator : String)
  | conditional
  | yieldExpression (delegates : Bool)
  | awaitExpression
  | arrow (isAsync : Bool)
  | function (isAsync isGenerator isDeclared : Bool)
  | parameters
  | classDefinition
  | members
  | method (owner : Owner) (isAsync isGenerator : Bool)
  | instanceMaker
  | getter (owner : Owner)
  | setter (owner : Owner)
  | field (isStatic : Bool)
  | staticBlock
  | computedKey
  | shorthandDefault
  | objectPattern
  | arrayPattern
  | defaulted
  | rest
  | bareDeclarator
  | markup
  | markupChildren
  | openingTag (closesItself : Bool)
  | closingTag
  | fragment
  | markupAttribute
  | markupSpread
  | markupContainer
  | expressionStatement
  | emptyStatement
  | debuggerStatement
  | block
  | withStatement
  | returnStatement
  | throwStatement
  | labeled
  | breakStatement
  | continueStatement
  | ifStatement
  | switchStatement
  | switchCase
  | tryStatement
  | catchClause
  | whileLoop
  -- The condition first: it is visited first.
  | doLoop
  | forLoop
  | forIn
  | forOf (isAwait : Bool)
  | declaration (keyword : String)
  | variableStatement
  | declarationStatement
  | exportDeclaration
  | exportDefault
  | exportDefaultDeclaration
  | exportNames (endsInComma : Bool)
  | exportSpecifier
  | exportAllAs
  | exportAll
  deriving DecidableEq, Repr, Inhabited

def Form.withoutPositions : Form → Form
  | .array _ => .array false
  | .exportNames _ => .exportNames false
  | form => form

structure StringLiteral where
  value : String
  spelling : Option String := none
  deriving DecidableEq, Repr, Inhabited

inductive Tree where
  | absent
  | identifier (name : String)
  | word (text : String)
  | token (text : String)
  | string (literal : StringLiteral)
  | template (chunks : List String) (holes : List Tree)
  | tagged (start : Option Site) (tag : Tree) (chunks : List String) (holes : List Tree)
  | call (start : Option Site) (callee : Tree) (arguments : List Tree)
  | object (properties : List Tree) (hasComma : Bool)
  | property (key value : Tree)
  | declarator (target value : Tree)
  | node (form : Form) (children : List Tree)
  deriving Inhabited, Repr

inductive ImportSpecifier where
  | main (binding : String)
  | everything (binding : String)
  | named (imported : Option Tree) (binding : String)
  deriving Repr, Inhabited

inductive ImportPhase where
  | evaluation
  | source
  | defer
  deriving DecidableEq, Repr, Inhabited

structure ImportDeclaration where
  phase : ImportPhase := .evaluation
  specifiers : List ImportSpecifier
  source : StringLiteral
  endsInComma : Bool := false
  deriving Repr, Inhabited

inductive Item where
  | importing (declaration : ImportDeclaration)
  | code (tree : Tree)
  deriving Repr, Inhabited

structure Program where
  isModule : Bool
  shebang : Option String
  items : List Item
  deriving Repr, Inhabited

namespace Tree

def isAbsent : Tree → Bool
  | absent => true
  | _ => false

def text (value : String) : Tree :=
  string { value }

mutual

def withoutPositions : Tree → Tree
  | absent => absent
  | identifier name => identifier name
  | word text => word text
  | token text => token text
  | string literal => string literal
  | template chunks holes => template chunks (withoutPositionsAll holes)
  | tagged _ tag chunks holes =>
    tagged none tag.withoutPositions chunks (withoutPositionsAll holes)
  | call _ callee arguments => call none callee.withoutPositions (withoutPositionsAll arguments)
  | object properties _ => object (withoutPositionsAll properties) false
  | property key value => property key.withoutPositions value.withoutPositions
  | declarator target value => declarator target.withoutPositions value.withoutPositions
  | node form children => node form.withoutPositions (withoutPositionsAll children)

def withoutPositionsAll : List Tree → List Tree
  | [] => []
  | tree :: rest => tree.withoutPositions :: withoutPositionsAll rest

end

mutual

def templates : Tree → List (List String)
  | absent | identifier _ | word _ | token _ | string _ => []
  | template chunks holes => chunks :: templatesAll holes
  | tagged _ tag chunks holes => tag.templates ++ chunks :: templatesAll holes
  | call _ callee arguments => callee.templates ++ templatesAll arguments
  | object properties _ => templatesAll properties
  | property key value => key.templates ++ value.templates
  | declarator target value => target.templates ++ value.templates
  | node _ children => templatesAll children

def templatesAll : List Tree → List (List String)
  | [] => []
  | tree :: rest => tree.templates ++ templatesAll rest

end

end Tree

namespace Program

def withoutPositions (program : Program) : Program :=
  { program with items := program.items.map fun
      | .importing declaration => .importing { declaration with endsInComma := false }
      | .code tree => .code tree.withoutPositions }

def templates (program : Program) : List (List String) :=
  program.items.flatMap fun
    | .importing _ => []
    | .code tree => tree.templates

end Program

end ScopedStyles.JavaScript
