import ScopedStyles.Stylesheet.Browsers
import ScopedStyles.Stylesheet.Token

namespace ScopedStyles.Stylesheet

inductive Combinator where
  | descendant
  | child
  | nextSibling
  | laterSibling
  | pseudoElement
  | part
  | slot
  deriving DecidableEq, Repr, Inhabited

namespace Combinator

def ofDelim? : Char → Option Combinator
  | '>' => some child
  | '+' => some nextSibling
  | '~' => some laterSibling
  | _ => none

def write : Combinator → String
  | descendant => " "
  | child => ">"
  | nextSibling => "+"
  | laterSibling => "~"
  | _ => ""

end Combinator

inductive Rank where
  | child
  | lastChild
  | ofType
  | lastOfType
  | onlyChild
  | onlyOfType
  | column
  | lastColumn
  deriving DecidableEq, Repr, Inhabited

structure Formula where
  step : Int
  offset : Int
  deriving DecidableEq, Repr, Inhabited

inductive NameSpace where
  | named (name : String)
  | any
  | none
  deriving DecidableEq, Repr, Inhabited

structure AttributeTest where
  text : String
  ignoresCase : Bool
  deriving DecidableEq, Repr, Inhabited

inductive Simple where
  | universal
  | element (name : String)
  | space (space : NameSpace)
  | id (name : String)
  | className (name : String)
  | attribute (test : AttributeTest)
  | nesting
  | combinator (combinator : Combinator)
  | ranked (rank : Rank) (formula : Formula) (among : Option (List (List Simple)))
  | languages (names : List String)
  | direction (name : String)
  | pseudoClass (name : String) (spellings : List Spelling) (argument : Option String)
  | pseudoElement (name : String) (spellings : List Spelling) (argument : Option String)
  | among (name : String) (selectors : List (List Simple))
  deriving Repr, Inhabited

abbrev Selector := List Simple

namespace Simple

mutual

def beq : Simple → Simple → Bool
  | universal, universal => true
  | element a, element b => a == b
  | space a, space b => a == b
  | id a, id b => a == b
  | className a, className b => a == b
  | .attribute a, .attribute b => a == b
  | nesting, nesting => true
  | combinator a, combinator b => a == b
  | ranked a x none, ranked b y none => a == b && x == y
  | ranked a x (some xs), ranked b y (some ys) => a == b && x == y && beqLists xs ys
  | languages a, languages b => a == b
  | direction a, direction b => a == b
  | pseudoClass a x s, pseudoClass b y t => a == b && x == y && s == t
  | pseudoElement a x s, pseudoElement b y t => a == b && x == y && s == t
  | among a xs, among b ys => a == b && beqLists xs ys
  | _, _ => false

def beqList : List Simple → List Simple → Bool
  | [], [] => true
  | x :: xs, y :: ys => beq x y && beqList xs ys
  | _, _ => false

def beqLists : List (List Simple) → List (List Simple) → Bool
  | [], [] => true
  | x :: xs, y :: ys => beqList x y && beqLists xs ys
  | _, _ => false

end

instance : BEq Simple := ⟨beq⟩

def earlyElements : List String := ["before", "after", "first-line", "first-letter"]

def isCombinator : Simple → Bool
  | combinator _ => true
  | _ => false

def isType : Simple → Bool
  | element _ => true
  | universal => true
  | _ => false

def isSpace : Simple → Bool
  | space _ => true
  | _ => false

def isScope : Simple → Bool
  | pseudoClass "scope" _ _ => true
  | _ => false

end Simple

namespace Selector

def startsWithType (selector : Selector) : Bool :=
  ((selector.dropWhile Simple.isSpace).head?.map Simple.isType).getD false

def isCompound (selector : Selector) : Bool :=
  !selector.any Simple.isCombinator

def isLone : List Selector → Bool
  | [selector] => !startsWithType selector && isCompound selector
  | _ => false

end Selector

end ScopedStyles.Stylesheet
