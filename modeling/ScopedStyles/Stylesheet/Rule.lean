import ScopedStyles.Stylesheet.Condition
import ScopedStyles.Stylesheet.Selector

namespace ScopedStyles.Stylesheet

abbrev LayerName := List String

inductive Rule where
  | style (selectors : List Selector) (spellings : List Spelling) (declarations : Declarations)
      (inner : List Rule)
  | group (condition : Condition) (rules : List Rule)
  | layer (name : Option LayerName) (rules : List Rule)
  | layerOrder (names : List LayerName)
  | starting (rules : List Rule)
  | document (rules : List Rule)
  | scope (start finish : Option (List Selector)) (rules : List Rule)
  | loose (declarations : Declarations)
  | unknown (name : String) (front : Raw) (block : Option Raw)
  | removed
  deriving Inhabited

namespace Rule

mutual

def depth : Rule → Nat
  | style _ _ _ inner => depthOfAll inner + 1
  | group _ rules | layer _ rules | starting rules | document rules | scope _ _ rules =>
    depthOfAll rules + 1
  | _ => 1

def depthOfAll : List Rule → Nat
  | [] => 0
  | rule :: rest => Nat.max (depth rule) (depthOfAll rest)

end

end Rule

structure StyleRule where
  selectors : List Selector
  spellings : List Spelling
  declarations : Declarations
  inner : List Rule
  deriving Inhabited

namespace StyleRule

def toRule (rule : StyleRule) : Rule :=
  .style rule.selectors rule.spellings rule.declarations rule.inner

def ofRule? : Rule → Option StyleRule
  | .style selectors spellings declarations inner =>
    some ⟨selectors, spellings, declarations, inner⟩
  | _ => none

def isEmpty (rule : StyleRule) : Bool :=
  rule.selectors.isEmpty || (rule.declarations.isEmpty && rule.inner.isEmpty)

end StyleRule

end ScopedStyles.Stylesheet
