import ScopedStyles.Stylesheet.Declarations.Shortened
import ScopedStyles.Stylesheet.Rule
import ScopedStyles.Stylesheet.Selector.Support

namespace ScopedStyles.Stylesheet

abbrev RuleShortening := StateM Extras

namespace RuleShortening

structure Key where
  selectors : List Selector
  properties : List (String × List Spelling)
  deriving BEq, Inhabited

def Key.of (rule : StyleRule) : Key :=
  ⟨rule.selectors, (rule.declarations.normal ++ rule.declarations.important).map fun declaration =>
    (declaration.name, declaration.spellings)⟩

structure Progress where
  rules : List Rule := []
  keys : List (Key × Nat) := []
  layers : List (LayerName × Nat) := []
  hasLayers : Bool := false
  deriving Inhabited

namespace Progress

def push (progress : Progress) (rule : Rule) : Progress :=
  { progress with rules := progress.rules ++ [rule] }

def pushAll (progress : Progress) (rules : List Rule) : Progress :=
  { progress with rules := progress.rules ++ rules }

def replaceLast (progress : Progress) (rule : Rule) : Progress :=
  { progress with rules := progress.rules.dropLast ++ [rule] }

def noteKey (progress : Progress) (rule : StyleRule) : Progress :=
  let place := progress.rules.length - 1
  let key := Key.of rule
  let isNow (entry : Key × Nat) : Bool :=
    entry.1 == key &&
      ((progress.rules[entry.2]?.bind StyleRule.ofRule?).map (Key.of · == key)).getD false
  match progress.keys.find? isNow with
  | some (_, earlier) =>
    { progress with
      rules := if place > 0 then progress.rules.set earlier .removed else progress.rules
      keys := (key, place) :: progress.keys.filter (!isNow ·) }
  | none => { progress with keys := (key, place) :: progress.keys }

end Progress

def shortened (browsers : Browsers) (declarations : Declarations) :
    RuleShortening Declarations := do
  let (declarations, extras) := declarations.shortened browsers (← get)
  set extras
  return declarations

def joinedSpellings (last rule : StyleRule) : List Spelling :=
  if rule.spellings.contains .plain then rule.spellings
  else Spelling.union last.spellings rule.spellings

def join? (browsers : Browsers) (rule last : StyleRule) :
    RuleShortening (Option (StyleRule × StyleRule)) := do
  let areKnown :=
    rule.selectors.all (Selector.knows browsers ·) && last.selectors.all (Selector.knows browsers ·)
  if !rule.inner.isEmpty || !last.inner.isEmpty then return none
  if rule.selectors == last.selectors && areKnown then
    let declarations ← shortened browsers (last.declarations.append rule.declarations)
    return some ({ last with declarations }, { rule with declarations := {} })
  if rule.declarations != last.declarations then return none
  let spellings := joinedSpellings last rule
  if !rule.spellings.isEmpty && !last.spellings.isEmpty &&
      Selector.areListsAlike rule.selectors last.selectors then
    return some ({ last with spellings }, rule)
  if areKnown then
    let selectors := last.selectors ++ rule.selectors
    return some ({ last with selectors, spellings }, { rule with selectors := [] })
  return none

def joinBack (browsers : Browsers) : Nat → List Rule → RuleShortening (List Rule)
  | 0, rules => return rules
  | bound + 1, rules => do
    let others := rules.dropLast
    match rules.getLast?.bind StyleRule.ofRule?, others.getLast?.bind StyleRule.ofRule? with
    | some last, some before =>
      match ← join? browsers last before with
      | some (joined, _) => joinBack browsers bound (others.dropLast ++ [joined.toRule])
      | none => return rules
    | _, _ => return rules

def plainRule (selectors : List Selector) (declarations : Declarations) : Rule :=
  .style selectors [.plain] declarations []

def directedRules (extras : Extras) (selectors : List Selector) : List Rule :=
  let directed (name : String) (declarations : List Declaration) : List Rule :=
    if declarations.isEmpty then []
    else [plainRule (selectors.map (Selector.appending (.direction name))) ⟨declarations, []⟩]
  directed "ltr" extras.leftToRight ++ directed "rtl" extras.rightToLeft ++
    (if extras.dark.isEmpty then []
      else [.group Condition.prefersDark [plainRule selectors ⟨extras.dark, []⟩]])

def conditionalRules (extras : Extras) (selectors : List Selector) : List Rule :=
  extras.conditional.map fun (kind, declarations) =>
    .group (Condition.knowsColors kind) [plainRule selectors declarations]

def divided (browsers : Browsers) (selectors : List Selector) : List Selector × List Selector :=
  if selectors.length ≤ 1 || selectors.all (Selector.knows browsers ·) then (selectors, [])
  else if browsers.areRecent && Selector.canGroup selectors then ([[.among "is" selectors]], [])
  else selectors.partition (Selector.knows browsers ·)

def prepared (browsers : Browsers) (rule : StyleRule) : StyleRule :=
  let (selectors, spellings) := Selector.prepared browsers rule.selectors
  { rule with selectors, spellings }

section

variable (browsers : Browsers) (recur : Browsers → List Rule → RuleShortening (List Rule))

def shortenedContent (rule : StyleRule) : RuleShortening StyleRule := do
  let declarations ← shortened browsers rule.declarations
  if rule.inner.isEmpty then return { rule with declarations }
  let extras ← get
  set ({} : Extras)
  let inner ← recur browsers rule.inner
  set extras
  return { rule with declarations, inner }

def pushStyle (rule : StyleRule) (progress : Progress) : Progress :=
  if rule.isEmpty then progress
  else
    let progress := progress.push rule.toRule
    if rule.inner.isEmpty then progress.noteKey rule else progress

def addStyle (rule : StyleRule) (progress : Progress) : RuleShortening Progress := do
  let content ← shortenedContent browsers recur rule
  let (known, unknown) := divided browsers content.selectors
  let rule := prepared browsers { content with selectors := known }
  let joined? ←
    match progress.rules.getLast?.bind StyleRule.ofRule? with
    | some last => join? browsers rule last
    | none => pure none
  let (isJoined, rule, progress) ←
    match joined? with
    | some (last, rest) => do
      let rules := progress.rules.dropLast ++ [last.toRule]
      let rules ← joinBack browsers rules.length rules
      pure (true, rest, { progress with rules })
    | none => pure (false, rule, progress)
  let extras ← get
  let directed := directedRules extras rule.selectors
  let conditional := conditionalRules extras rule.selectors
  let others := unknown.map fun selector =>
    prepared browsers { rule with selectors := [selector] }
  set ({} : Extras)
  let parts := !rule.inner.isEmpty && !rule.selectors.isEmpty &&
    !(directed.isEmpty && conditional.isEmpty && others.isEmpty)
  let outer := if parts then { rule with inner := [] } else rule
  let progress := if isJoined then progress else pushStyle outer progress
  let directed ← if directed.isEmpty then pure [] else recur browsers directed
  let progress := (progress.pushAll directed).pushAll conditional
  let progress ← others.foldlM (fun progress other => do
    let progress := if other.isEmpty then progress else progress.push other.toRule
    let directed := directedRules extras other.selectors
    let directed ← if directed.isEmpty then pure [] else recur browsers directed
    return (progress.pushAll directed).pushAll (conditionalRules extras other.selectors)) progress
  if parts then return progress.push { rule with declarations := {} }.toRule
  return progress

def addGroup (condition : Condition) (rules : List Rule) (progress : Progress) :
    RuleShortening Progress := do
  let inner := browsers.knowing condition.colorStyles
  match progress.rules.getLast? with
  | some (.group lastCondition lastRules) =>
    if lastCondition == condition then
      let rules ← recur inner (lastRules ++ rules)
      return progress.replaceLast (.group (condition.prepared browsers) rules)
  | _ => pure ()
  let rules ← recur inner rules
  if rules.isEmpty || condition.holdsNever then return progress
  return progress.push (.group (condition.prepared browsers) rules)

def layerPlace? (progress : Progress) (name : LayerName) : Option (Nat × List Rule) := do
  let place ← progress.layers.lookup name
  match progress.rules[place]? with
  | some (.layer _ rules) => some (place, rules)
  | _ => none

def addLayer (name : LayerName) (rules : List Rule) (progress : Progress) : Progress :=
  let progress := { progress with hasLayers := true }
  match layerPlace? progress name with
  | some (place, before) =>
    { progress with rules := progress.rules.set place (.layer (some name) (before ++ rules)) }
  | none =>
    let layers := (name, progress.rules.length) :: progress.layers
    { progress.push (.layer (some name) rules) with layers }

def addLayerOrder (names : List LayerName) (progress : Progress) : Progress :=
  names.foldl (fun progress name =>
    if (progress.layers.lookup name).isSome then progress else addLayer name [] progress)
    { progress with hasLayers := true }

def add (progress : Progress) : Rule → RuleShortening Progress
  | .style selectors spellings declarations inner =>
    addStyle browsers recur ⟨selectors, spellings, declarations, inner⟩ progress
  | .group condition rules => addGroup browsers recur condition rules progress
  | .layer (some name) rules => return addLayer name rules progress
  | .layerOrder names => return addLayerOrder names progress
  | .starting rules => do
    let rules ← recur browsers rules
    return if rules.isEmpty then progress else progress.push (.starting rules)
  | .document rules => return progress.push (.document (← recur browsers rules))
  | .scope start finish rules =>
    return progress.push (.scope start finish (← recur browsers rules))
  | .loose declarations => return progress.push (.loose (← shortened browsers declarations))
  | rule => return progress.push rule

structure LayerState where
  rules : List Rule := []
  declared : List LayerName := []
  order : Option Nat := none

def nameLayer (name : LayerName) (state : LayerState) : LayerState :=
  if state.declared.contains name then { state with rules := state.rules ++ [.removed] }
  else
    let declared := name :: state.declared
    match state.order.bind fun place => (state.rules[place]?.map (place, ·)) with
    | some (place, .layerOrder names) =>
      { state with
        rules := state.rules.set place (.layerOrder (names ++ [name])) ++ [.removed]
        declared }
    | _ =>
      { rules := state.rules ++ [.layerOrder [name]], declared, order := some state.rules.length }

def shortenLayer (state : LayerState) : Rule → RuleShortening LayerState
  | .layer name rules => do
    let rules ← recur browsers rules
    match rules, name with
    | [], some name => return nameLayer name state
    | [], none => return { state with rules := state.rules ++ [.removed] }
    | _, _ => return { state with rules := state.rules ++ [.layer name rules], order := none }
  | rule => return { state with rules := state.rules ++ [rule] }

end

def shortenedRules : Nat → Browsers → List Rule → RuleShortening (List Rule)
  | 0, _, rules => return rules
  | depth + 1, browsers, rules => do
    let recur := shortenedRules depth
    let progress ← rules.foldlM (add browsers recur) {}
    if progress.hasLayers then
      let state ← progress.rules.foldlM (shortenLayer browsers recur) {}
      return state.rules
    else return progress.rules

end RuleShortening

namespace Rule

def shortenSheet (browsers : Browsers) (rules : List Rule) : List Rule :=
  ((RuleShortening.shortenedRules (depthOfAll rules + 3) browsers rules).run {}).1

end Rule

end ScopedStyles.Stylesheet
