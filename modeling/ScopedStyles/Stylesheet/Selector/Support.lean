import ScopedStyles.Stylesheet.Selector

namespace ScopedStyles.Stylesheet.Selector

def commonStates : List String :=
  ["link", "visited", "active", "hover", "focus", "checked", "disabled", "enabled", "target",
    "optional", "root", "empty"]

def recentStates : List String :=
  ["any-link", "indeterminate", "focus-within", "default", "placeholder-shown", "read-only",
    "read-write", "valid", "invalid", "required", "in-range", "out-of-range", "scope", "host"]

def recentElements : List String := ["selection", "placeholder", "cue", "part"]

def isPlainlySpelled (spellings : List Spelling) : Bool :=
  spellings.isEmpty || spellings == [.plain]

def knowsState (browsers : Browsers) (name : String) (argument : Option String) : Bool :=
  argument.isNone &&
    (commonStates.contains name || (browsers.areRecent && recentStates.contains name))

def knowsElement (browsers : Browsers) (name : String) : Bool :=
  Simple.earlyElements.contains name || (browsers.areRecent && recentElements.contains name)

mutual

def knowsSimple (browsers : Browsers) : Simple → Bool
  | .nesting => browsers.areRecent
  | .attribute test => browsers.areRecent || !test.ignoresCase
  | .ranked rank _ none => rank != .column && rank != .lastColumn
  | .ranked _ _ (some _) => false
  | .direction _ => false
  | .pseudoClass name spellings argument =>
    isPlainlySpelled spellings && knowsState browsers name argument
  | .pseudoElement name spellings _ => isPlainlySpelled spellings && knowsElement browsers name
  | .among name selectors =>
    match name with
    | "not" => knowsLists browsers selectors
    | "is" => browsers.areRecent || (isLone selectors && knowsLists browsers selectors)
    | "where" | "host" | "slotted" => browsers.areRecent
    | _ => false
  | _ => true

def knows (browsers : Browsers) : List Simple → Bool
  | [] => true
  | simple :: rest => knowsSimple browsers simple && knows browsers rest

def knowsLists (browsers : Browsers) : List (List Simple) → Bool
  | [] => true
  | selector :: rest => knows browsers selector && knowsLists browsers rest

end

structure Weight where
  names : Nat := 0
  classes : Nat := 0
  elements : Nat := 0
  deriving DecidableEq, Repr, Inhabited

namespace Weight

def add (a b : Weight) : Weight :=
  ⟨a.names + b.names, a.classes + b.classes, a.elements + b.elements⟩

def lt (a b : Weight) : Bool :=
  a.names < b.names || (a.names == b.names &&
    (a.classes < b.classes || (a.classes == b.classes && a.elements < b.elements)))

def max (a b : Weight) : Weight :=
  if lt a b then b else a

end Weight

mutual

def weightOf : Simple → Weight
  | .id _ => { names := 1 }
  | .className _ | .attribute _ | .pseudoClass _ _ _ => { classes := 1 }
  | .languages _ | .direction _ => { classes := 1 }
  | .ranked _ _ none => { classes := 1 }
  | .ranked _ _ (some selectors) => ({ classes := 1 } : Weight).add (heaviest selectors)
  | .element _ | .pseudoElement _ _ _ => { elements := 1 }
  | .among name selectors =>
    match name with
    | "where" => {}
    | "host" => ({ classes := 1 } : Weight).add (heaviest selectors)
    | "slotted" => ({ elements := 1 } : Weight).add (heaviest selectors)
    | "cue" | "cue-region" => { elements := 1 }
    | _ => heaviest selectors
  | .universal | .space _ | .nesting | .combinator _ => {}

def weight : List Simple → Weight
  | [] => {}
  | simple :: rest => (weightOf simple).add (weight rest)

def heaviest : List (List Simple) → Weight
  | [] => {}
  | selector :: rest => (weight selector).max (heaviest rest)

end

def isElementPart : Simple → Bool
  | .pseudoElement name _ _ => name != "part"
  | .among name _ => name == "cue" || name == "cue-region"
  | _ => false

def canGroup (selectors : List Selector) : Bool :=
  !selectors.any (·.any isElementPart) &&
    match selectors with
    | [] => true
    | first :: rest => rest.all fun selector => weight selector = weight first

def appending (simple : Simple) (selector : Selector) : Selector :=
  let lastLength := (selector.reverse.takeWhile (!Simple.isCombinator ·)).length
  let front := selector.take (selector.length - lastLength)
  let last := selector.drop (selector.length - lastLength)
  front ++ last.takeWhile (!isElementPart ·) ++ [simple] ++ last.dropWhile (!isElementPart ·)

def rightToLeftLanguages : List String :=
  ["ae", "ar", "arc", "bcc", "bqi", "ckb", "dv", "fa", "glk", "he", "ku", "mzn", "nqo", "pnb",
    "ps", "sd", "ug", "ur", "yi"]

def vendorsOf (browsers : Browsers) (name : String) : List Spelling :=
  match browsers.generation, name with
  | .recent, "fullscreen" | _, "autofill" | .old, "file-selector-button" => [.webkit]
  | .old, "fullscreen" | .old, "any-link" | .old, "placeholder" => [.webkit, .moz]
  | .old, "read-only" | .old, "read-write" | .old, "placeholder-shown" | .old, "selection" => [.moz]
  | _, _ => []

def neededSpellings (browsers : Browsers) (name : String) (given : List Spelling) :
    List Spelling :=
  if given.contains .plain then vendorsOf browsers name ++ [.plain] else given

def groupSpellings (browsers : Browsers) : List Spelling :=
  if browsers.areOld then [.webkit, .moz, .plain] else [.plain]

def group (browsers : Browsers) (selectors : List Selector) (spellings : List Spelling) :
    Simple × List Spelling :=
  let own := if !isLone selectors && selectors.all isCompound then groupSpellings browsers
    else [.plain]
  (.among "is" selectors, Spelling.union spellings own)

def exclusion (browsers : Browsers) (selectors : List Selector) (spellings : List Spelling) :
    Simple × List Spelling :=
  if browsers.areOld && selectors.length > 1 then
    (.among "not" [[.among "is" selectors]], Spelling.union spellings (groupSpellings browsers))
  else (.among "not" selectors, spellings)

def languageSelectors (names : List String) : List Selector :=
  names.map fun name => [.languages [name]]

mutual

def loweredSimple (browsers : Browsers) : Simple → Simple × List Spelling
  | .direction name =>
    let selectors := languageSelectors rightToLeftLanguages
    if name == "rtl" then group browsers selectors [] else exclusion browsers selectors []
  | .languages names =>
    if names.length > 1 then group browsers (languageSelectors names) []
    else (.languages names, [])
  | .pseudoClass name spellings argument =>
    let spellings := neededSpellings browsers name spellings
    (.pseudoClass name spellings argument, spellings)
  | .pseudoElement name spellings argument =>
    let spellings := neededSpellings browsers name spellings
    (.pseudoElement name spellings argument, spellings)
  | .among name selectors =>
    let (lowered, spellings) := loweredLists browsers selectors
    match name with
    | "is" => group browsers lowered spellings
    | "not" => exclusion browsers lowered spellings
    | "where" | "has" | "-webkit-any" | "-moz-any" => (.among name lowered, spellings)
    | _ => (.among name selectors, [])
  | simple => (simple, [])

def lowered (browsers : Browsers) : List Simple → List Simple × List Spelling
  | [] => ([], [])
  | simple :: rest =>
    let (simple, own) := loweredSimple browsers simple
    let (rest, others) := lowered browsers rest
    (simple :: rest, Spelling.union own others)

def loweredLists (browsers : Browsers) : List (List Simple) → List (List Simple) × List Spelling
  | [] => ([], [])
  | selector :: rest =>
    let (selector, own) := lowered browsers selector
    let (rest, others) := loweredLists browsers rest
    (selector :: rest, Spelling.union own others)

end

def givenSpellings : Simple → List Spelling
  | .languages _ | .direction _ => [.plain]
  | .pseudoClass _ spellings _ | .pseudoElement _ spellings _ => spellings
  | .among name _ =>
    match name with
    | "is" | "where" | "has" | "not" => [.plain]
    | "-webkit-any" => [.webkit]
    | "-moz-any" => [.moz]
    | _ => []
  | _ => []

def inMatchOrder (selector : Selector) : List Simple :=
  (selector.splitOnP Simple.isCombinator).reverse.flatten

def commonSpellings (selectors : List Selector) : List Spelling :=
  let parts := selectors.flatMap fun selector => (inMatchOrder selector).map givenSpellings
  (parts.foldlM join []).getD []
where
  join (common own : List Spelling) : Option (List Spelling) :=
    let vendors := common.filter (· != .plain)
    if own.isEmpty then some common
    else if vendors.isEmpty || vendors == own then some (Spelling.union common own)
    else none

def prepared (browsers : Browsers) (selectors : List Selector) : List Selector × List Spelling :=
  let given := commonSpellings selectors
  if given.contains .plain then loweredLists browsers selectors else (selectors, given)

def plainGroupName (name : String) : String :=
  if name == "-webkit-any" || name == "-moz-any" then "is" else name

mutual

def areLike : Simple → Simple → Bool
  | .pseudoClass a x s, .pseudoClass b y t =>
    a == b && (x == y || (!x.isEmpty && !y.isEmpty)) && s == t
  | .pseudoElement a x s, .pseudoElement b y t =>
    a == b && (x == y || (!x.isEmpty && !y.isEmpty)) && s == t
  | .among a xs, .among b ys =>
    if plainGroupName a == "is" && plainGroupName b == "is" then areListsAlike xs ys
    else Simple.among a xs == Simple.among b ys
  | a, b => a == b

def areAlike : List Simple → List Simple → Bool
  | [], [] => true
  | x :: xs, y :: ys => areLike x y && areAlike xs ys
  | _, _ => false

def areListsAlike : List (List Simple) → List (List Simple) → Bool
  | [], [] => true
  | x :: xs, y :: ys => areAlike x y && areListsAlike xs ys
  | _, _ => false

end

end ScopedStyles.Stylesheet.Selector
