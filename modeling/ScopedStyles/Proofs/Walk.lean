import Mathlib.Logic.Relation
import Mathlib.Tactic.SplitIfs
import ScopedStyles.Build.File
import ScopedStyles.Proofs.Imports

namespace ScopedStyles

open JavaScript

namespace JavaScript.Tree

def isLeaf : Tree → Bool
  | absent | identifier _ | word _ | token _ | string _ => true
  | _ => false

end JavaScript.Tree

namespace Session

theorem markSeen_names (session : Session) (file : String) :
    (session.markSeen file).names = session.names := by
  unfold markSeen
  split <;> rfl

theorem markSeen_cache (session : Session) (file : String) :
    (session.markSeen file).cache = session.cache := by
  unfold markSeen
  split <;> rfl

end Session

namespace Expansion

variable {job : Job} {state : Expansion}

-- Makes the equations of the walk once, before the lemmas below ask for them in parallel.
attribute [local simp] visit visitAll in
theorem visit_failed (h : state.hasFailed = true) (tree : Tree) :
    visit job tree state = (tree, state) := by
  cases tree <;> simp [h]

theorem visitAll_failed (h : state.hasFailed = true) (trees : List Tree) :
    visitAll job trees state = (trees, state) := by
  induction trees with
  | nil => rfl
  | cons tree rest ih => simp [visitAll, visit_failed h, ih]

theorem visit_leaf {tree : Tree} (h : tree.isLeaf = true) :
    visit job tree state = (tree, state) := by
  cases tree <;> simp_all [visit, Tree.isLeaf]

theorem visit_identifier (name : String) (state : Expansion) :
    visit job (.identifier name) state = (.identifier name, state) :=
  visit_leaf rfl

theorem visitAll_cons (tree : Tree) (rest : List Tree) :
    visitAll job (tree :: rest) state =
      ((visit job tree state).1 :: (visitAll job rest (visit job tree state).2).1,
        (visitAll job rest (visit job tree state).2).2) := by
  rw [visitAll]

theorem visit_template (chunks : List String) (holes : List Tree) :
    visit job (.template chunks holes) state =
      (.template chunks (visitAll job holes state).1, (visitAll job holes state).2) := by
  cases h : state.hasFailed with
  | true => rw [visit_failed h, visitAll_failed h]
  | false => simp [visit, h]

theorem visit_tagged (h : state.hasFailed = false) (start : Option Site) (tag : Tree)
    (chunks : List String) (holes : List Tree) :
    visit job (.tagged start tag chunks holes) state =
      (visitAll job holes (visit job tag state).2).2.expandTemplate job start
        (visit job tag state).1 chunks (visitAll job holes (visit job tag state).2).1 := by
  simp [visit, h]

theorem visit_call (start : Option Site) (callee : Tree) (arguments : List Tree) :
    visit job (.call start callee arguments) state =
      (.call start (visit job callee state).1 (visitAll job arguments (visit job callee state).2).1,
        (visitAll job arguments (visit job callee state).2).2) := by
  cases h : state.hasFailed with
  | true => simp only [visit_failed h, visitAll_failed h]
  | false => simp [visit, h]

theorem visit_object (properties : List Tree) (hasComma : Bool) :
    visit job (.object properties hasComma) state =
      (.object (visitAll job properties state).1 hasComma, (visitAll job properties state).2) := by
  cases h : state.hasFailed with
  | true => rw [visit_failed h, visitAll_failed h]
  | false => simp [visit, h]

theorem visit_property (key value : Tree) :
    visit job (.property key value) state =
      (.property (visit job key state).1 (visit job value (visit job key state).2).1,
        (visit job value (visit job key state).2).2) := by
  cases h : state.hasFailed with
  | true => simp only [visit_failed h]
  | false => simp [visit, h]

theorem visit_node (form : Form) (children : List Tree) :
    visit job (.node form children) state =
      (.node form (visitAll job children state).1, (visitAll job children state).2) := by
  cases h : state.hasFailed with
  | true => rw [visit_failed h, visitAll_failed h]
  | false => simp [visit, h]

def withName (name : Option String) (value : Tree) : Tree :=
  (name.map fun name => insertName name value).getD value

theorem visit_declarator (h : state.hasFailed = false) (target value : Tree) :
    visit job (.declarator target value) state =
      let named := state.nameDeclarator job target value
      let bound := visit job target named.2
      let given := visit job value bound.2
      (.declarator bound.1 (withName named.1 given.1), given.2) := by
  simp [visit, h, withName]

inductive Step (job : Job) : Expansion → Expansion → Prop
  | claim {state : Expansion} (name : String) (start : Option Site) :
      state.hasFailed = false → Step job state (state.claim job name start)
  | compile (chunks : List String) (state : Expansion) :
      Step job state (state.piecesOf job chunks).2

abbrev Reaches (job : Job) : Expansion → Expansion → Prop :=
  Relation.ReflTransGen (Step job)

theorem claim_cases (job : Job) (name : String) (start : Option Site) (state : Expansion) :
    state.claim job name start = state ∨
      (∃ file, job.file = some file ∧ state.session.name? name = none ∧
        state.claim job name start =
          { state with session := { state.session with
              names := state.session.names ++ [(name, ⟨file, job.lineOf start⟩)] } }) ∨
      ∃ record, state.session.name? name = some record ∧
        state.claim job name start =
          { state with failure := some (.duplicateName name record.file record.line) } := by
  unfold claim
  cases hfile : job.file with
  | none => exact .inl rfl
  | some file =>
    dsimp only
    split
    · exact .inl rfl
    · unfold Session.register
      cases hname : state.session.name? name with
      | none => exact .inr (.inl ⟨file, rfl, rfl, rfl⟩)
      | some record => exact .inr (.inr ⟨record, rfl, rfl⟩)

section Fields

variable (name : String) (start : Option Site) (chunks : List String)

@[simp] theorem claim_cssAlias : (state.claim job name start).cssAlias = state.cssAlias := by
  rcases claim_cases job name start state with h | ⟨_, _, _, h⟩ | ⟨_, _, h⟩ <;> rw [h]

@[simp] theorem claim_factoryAlias :
    (state.claim job name start).factoryAlias = state.factoryAlias := by
  rcases claim_cases job name start state with h | ⟨_, _, _, h⟩ | ⟨_, _, h⟩ <;> rw [h]

@[simp] theorem claim_files :
    (state.claim job name start).session.files = state.session.files := by
  rcases claim_cases job name start state with h | ⟨_, _, _, h⟩ | ⟨_, _, h⟩ <;> rw [h]

theorem piecesOf_cases (job : Job) (chunks : List String) (state : Expansion) :
    (state.piecesOf job chunks).2 = state ∨
      ∃ cache calls, (state.piecesOf job chunks).2 =
        { state with session := { state.session with cache }, calls } := by
  unfold piecesOf
  dsimp only
  split
  · right
    unfold Session.compile
    split
    · exact ⟨state.session.cache, _, rfl⟩
    · exact ⟨_, _, rfl⟩
  · exact .inl rfl

@[simp] theorem piecesOf_cssAlias : (state.piecesOf job chunks).2.cssAlias = state.cssAlias := by
  rcases piecesOf_cases job chunks state with h | ⟨_, _, h⟩ <;> rw [h]

@[simp] theorem piecesOf_factoryAlias :
    (state.piecesOf job chunks).2.factoryAlias = state.factoryAlias := by
  rcases piecesOf_cases job chunks state with h | ⟨_, _, h⟩ <;> rw [h]

@[simp] theorem piecesOf_files :
    (state.piecesOf job chunks).2.session.files = state.session.files := by
  rcases piecesOf_cases job chunks state with h | ⟨_, _, h⟩ <;> rw [h]

@[simp] theorem piecesOf_names :
    (state.piecesOf job chunks).2.session.names = state.session.names := by
  rcases piecesOf_cases job chunks state with h | ⟨_, _, h⟩ <;> rw [h]

@[simp] theorem piecesOf_failure : (state.piecesOf job chunks).2.failure = state.failure := by
  rcases piecesOf_cases job chunks state with h | ⟨_, _, h⟩ <;> rw [h]

end Fields

namespace Reaches

variable {state' : Expansion}

theorem keeps {α : Type} (view : Expansion → α)
    (hclaim : ∀ name start state, view (state.claim job name start) = view state)
    (hcompile : ∀ chunks state, view (state.piecesOf job chunks).2 = view state)
    (h : Reaches job state state') : view state' = view state := by
  induction h with
  | refl => rfl
  | tail _ hstep ih =>
    cases hstep with
    | claim name start _ => rw [hclaim, ih]
    | compile chunks state => rw [hcompile, ih]

theorem cssAlias (h : Reaches job state state') : state'.cssAlias = state.cssAlias :=
  h.keeps (·.cssAlias) (by simp) (by simp)

theorem factoryAlias (h : Reaches job state state') : state'.factoryAlias = state.factoryAlias :=
  h.keeps (·.factoryAlias) (by simp) (by simp)

theorem files (h : Reaches job state state') : state'.session.files = state.session.files :=
  h.keeps (·.session.files) (by simp) (by simp)

theorem hasSeen (h : Reaches job state state') (file : String) :
    state'.session.hasSeen file = state.session.hasSeen file := by
  rw [Session.hasSeen, h.files, Session.hasSeen]

theorem failure (h : Reaches job state state') (hf : state.hasFailed = true) :
    state'.failure = state.failure := by
  induction h with
  | refl => rfl
  | tail _ hstep ih =>
    cases hstep with
    | claim name start hok => simp_all [hasFailed]
    | compile chunks state => simp [ih]

theorem not_failed (h : Reaches job state state') (hok : state'.hasFailed = false) :
    state.hasFailed = false := by
  cases hf : state.hasFailed with
  | false => rfl
  | true =>
    have he := h.failure hf
    simp_all [hasFailed]

end Reaches

theorem nameDeclarator_reaches (h : state.hasFailed = false) (target value : Tree) :
    Reaches job state (state.nameDeclarator job target value).2 := by
  unfold nameDeclarator
  split
  · exact .refl
  · exact .single (.claim _ _ h)
  · exact .single (.claim _ _ h)

theorem component?_eq_some {target value : Tree} {component : Component}
    {start : Option Site} (h : component? job state target value = some (component, start)) :
    ∃ binding callee arguments, target = .identifier binding ∧
      value = .call start (.identifier callee) arguments ∧ job.file.isSome = true ∧
      state.factoryAlias = some callee ∧ componentOf? binding arguments = some component := by
  cases target with
  | identifier binding =>
    cases value with
    | call start' callee arguments =>
      cases callee with
      | identifier callee =>
        simp only [component?, Bool.and_eq_true, beq_iff_eq] at h
        split at h
        · rename_i hin
          obtain ⟨made, hmade, he⟩ := Option.map_eq_some_iff.mp h
          obtain ⟨rfl, rfl⟩ := Prod.mk.inj he
          exact ⟨binding, callee, arguments, rfl, rfl, hin.1, hin.2, hmade⟩
        · cases h
      | _ => cases h
    | _ => cases h
  | _ => cases h

theorem nameDeclarator_eq_some {target value : Tree} {name : String}
    (h : (state.nameDeclarator job target value).1 = some name) :
    ∃ binding start, component? job state target value = some (.bare binding, start) ∧
      name = job.settings.nameFor job.file binding := by
  unfold nameDeclarator at h
  split at h
  · cases h
  · cases h
  · rename_i binding start hc
    dsimp only at h
    split at h
    · cases h
    · exact ⟨binding, start, hc, (Option.some.inj h).symm⟩

def Nameable (arguments : List Tree) : Prop :=
  arguments = [] ∨ ∃ properties hasComma rest, arguments = .object properties hasComma :: rest

theorem componentOf?_bare {binding binding' : String} {arguments : List Tree}
    (h : componentOf? binding arguments = some (.bare binding')) :
    binding' = binding ∧ Nameable arguments := by
  cases arguments with
  | nil => cases h; exact ⟨rfl, .inl rfl⟩
  | cons first rest =>
    cases first with
    | object properties hasComma =>
      refine ⟨?_, .inr ⟨properties, hasComma, rest, rfl⟩⟩
      simp only [componentOf?] at h
      split at h
      · split at h <;> cases h
        rfl
      · cases h
        rfl
    | _ => cases h

theorem expandTemplate_reaches (start : Option Site) (tag : Tree) (chunks : List String)
    (holes : List Tree) :
    Reaches job state (state.expandTemplate job start tag chunks holes).2 := by
  unfold expandTemplate
  split
  · exact .single (.compile chunks state)
  · exact .refl

def Visited (job : Job) (tree : Tree) (state : Expansion) (tree' : Tree) (state' : Expansion) :
    Prop :=
  visit job tree state = (tree', state')

def VisitedAll (job : Job) (trees : List Tree) (state : Expansion) (trees' : List Tree)
    (state' : Expansion) : Prop :=
  visitAll job trees state = (trees', state')

structure Walk (job : Job) (One : Tree → Expansion → Tree → Expansion → Prop)
    (All : List Tree → Expansion → List Tree → Expansion → Prop) : Prop where
  failed : ∀ tree state, state.hasFailed = true → One tree state tree state
  leaf : ∀ tree state, tree.isLeaf = true → One tree state tree state
  template : ∀ chunks {holes state holes' state'}, VisitedAll job holes state holes' state' →
    All holes state holes' state' →
    One (.template chunks holes) state (.template chunks holes') state'
  tagged : ∀ start chunks {tag holes state tag' state₁ holes' state₂}, state.hasFailed = false →
    Visited job tag state tag' state₁ → VisitedAll job holes state₁ holes' state₂ →
    One tag state tag' state₁ → All holes state₁ holes' state₂ →
    One (.tagged start tag chunks holes) state
      (state₂.expandTemplate job start tag' chunks holes').1
      (state₂.expandTemplate job start tag' chunks holes').2
  call : ∀ start {callee arguments state callee' state₁ arguments' state₂},
    Visited job callee state callee' state₁ →
    VisitedAll job arguments state₁ arguments' state₂ →
    One callee state callee' state₁ → All arguments state₁ arguments' state₂ →
    One (.call start callee arguments) state (.call start callee' arguments') state₂
  object : ∀ hasComma {properties state properties' state'},
    VisitedAll job properties state properties' state' →
    All properties state properties' state' →
    One (.object properties hasComma) state (.object properties' hasComma) state'
  property : ∀ {key value state key' state₁ value' state₂},
    Visited job key state key' state₁ → Visited job value state₁ value' state₂ →
    One key state key' state₁ → One value state₁ value' state₂ →
    One (.property key value) state (.property key' value') state₂
  declarator : ∀ {target value state target' state₁ value' state₂}, state.hasFailed = false →
    Visited job target (state.nameDeclarator job target value).2 target' state₁ →
    Visited job value state₁ value' state₂ →
    One target (state.nameDeclarator job target value).2 target' state₁ →
    One value state₁ value' state₂ →
    One (.declarator target value) state
      (.declarator target' (withName (state.nameDeclarator job target value).1 value')) state₂
  node : ∀ form {children state children' state'}, VisitedAll job children state children' state' →
    All children state children' state' →
    One (.node form children) state (.node form children') state'
  nil : ∀ state, All [] state [] state
  cons : ∀ {tree rest state tree' state₁ rest' state₂},
    Visited job tree state tree' state₁ → VisitedAll job rest state₁ rest' state₂ →
    One tree state tree' state₁ → All rest state₁ rest' state₂ →
    All (tree :: rest) state (tree' :: rest') state₂

namespace Walk

variable {One : Tree → Expansion → Tree → Expansion → Prop}
  {All : List Tree → Expansion → List Tree → Expansion → Prop}

mutual

theorem one (walk : Walk job One All) : ∀ (tree : Tree) (state : Expansion),
    One tree state (visit job tree state).1 (visit job tree state).2
  | .absent, state => by
    rw [visit_leaf rfl]
    exact walk.leaf _ _ rfl
  | .identifier _, state => by
    rw [visit_leaf rfl]
    exact walk.leaf _ _ rfl
  | .word _, state => by
    rw [visit_leaf rfl]
    exact walk.leaf _ _ rfl
  | .token _, state => by
    rw [visit_leaf rfl]
    exact walk.leaf _ _ rfl
  | .string _, state => by
    rw [visit_leaf rfl]
    exact walk.leaf _ _ rfl
  | .template chunks holes, state => by
    rw [visit_template]
    exact walk.template chunks rfl (walk.all holes state)
  | .tagged start tag chunks holes, state => by
    cases h : state.hasFailed with
    | true =>
      rw [visit_failed h]
      exact walk.failed _ _ h
    | false =>
      rw [visit_tagged h]
      exact walk.tagged start chunks h rfl rfl (walk.one tag state) (walk.all holes _)
  | .call start callee arguments, state => by
    rw [visit_call]
    exact walk.call start rfl rfl (walk.one callee state) (walk.all arguments _)
  | .object properties hasComma, state => by
    rw [visit_object]
    exact walk.object hasComma rfl (walk.all properties state)
  | .property key value, state => by
    rw [visit_property]
    exact walk.property rfl rfl (walk.one key state) (walk.one value _)
  | .declarator target value, state => by
    cases h : state.hasFailed with
    | true =>
      rw [visit_failed h]
      exact walk.failed _ _ h
    | false =>
      rw [visit_declarator h]
      exact walk.declarator h rfl rfl (walk.one target _) (walk.one value _)
  | .node form children, state => by
    rw [visit_node]
    exact walk.node form rfl (walk.all children state)

theorem all (walk : Walk job One All) : ∀ (trees : List Tree) (state : Expansion),
    All trees state (visitAll job trees state).1 (visitAll job trees state).2
  | [], state => walk.nil state
  | tree :: rest, state => by
    rw [visitAll_cons]
    exact walk.cons rfl rfl (walk.one tree state) (walk.all rest _)

end

theorem visited (walk : Walk job One All) {tree tree' : Tree} {state' : Expansion}
    (h : Visited job tree state tree' state') : One tree state tree' state' := by
  have hone := walk.one tree state
  rwa [h] at hone

theorem visitedAll (walk : Walk job One All) {trees trees' : List Tree} {state' : Expansion}
    (h : VisitedAll job trees state trees' state') : All trees state trees' state' := by
  have hall := walk.all trees state
  rwa [h] at hall

end Walk

theorem walk_reaches :
    Walk job (fun _ state _ state' => Reaches job state state')
      (fun _ state _ state' => Reaches job state state') where
  failed _ _ _ := .refl
  leaf _ _ _ := .refl
  template _ _ _ _ _ _ ih := ih
  tagged _ _ _ _ _ _ _ _ _ _ _ _ ih₁ ih₂ := (ih₁.trans ih₂).trans (expandTemplate_reaches ..)
  call _ _ _ _ _ _ _ _ _ _ ih₁ ih₂ := ih₁.trans ih₂
  object _ _ _ _ _ _ ih := ih
  property _ _ ih₁ ih₂ := ih₁.trans ih₂
  declarator hok _ _ ih₁ ih₂ := ((nameDeclarator_reaches hok _ _).trans ih₁).trans ih₂
  node _ _ _ _ _ _ ih := ih
  nil _ := .refl
  cons _ _ ih₁ ih₂ := ih₁.trans ih₂

theorem Visited.reaches {tree tree' : Tree} {state' : Expansion}
    (h : Visited job tree state tree' state') : Reaches job state state' :=
  walk_reaches.visited h

theorem VisitedAll.reaches {trees trees' : List Tree} {state' : Expansion}
    (h : VisitedAll job trees state trees' state') : Reaches job state state' :=
  walk_reaches.visitedAll h

theorem visit_reaches (tree : Tree) (state : Expansion) :
    Reaches job state (visit job tree state).2 :=
  walk_reaches.one tree state

theorem visitAll_reaches (trees : List Tree) (state : Expansion) :
    Reaches job state (visitAll job trees state).2 :=
  walk_reaches.all trees state

theorem length_visitAll (trees : List Tree) (state : Expansion) :
    (visitAll job trees state).1.length = trees.length := by
  induction trees generalizing state with
  | nil => rfl
  | cons tree rest ih => simp only [visitAll_cons, List.length_cons, ih]

theorem visitItems_importing (declaration : ImportDeclaration) (rest : List Item) :
    visitItems job (.importing declaration :: rest) state =
      let led := state.visitImport job declaration
      (.importing led.1 :: (visitItems job rest led.2).1, (visitItems job rest led.2).2) := by
  rw [visitItems, visitItem]

theorem visitItems_imports (state : Expansion) :
    (visitItems job Item.imports state).2.factoryAlias = some "make" := by
  simp only [Item.imports, visitItems_importing, visitImport_eq, aliasAfter_ofName]
  rfl

theorem visitItems_code (tree : Tree) (rest : List Item) :
    visitItems job (.code tree :: rest) state =
      let seen := visit job tree state
      (.code seen.1 :: (visitItems job rest seen.2).1, (visitItems job rest seen.2).2) := by
  rw [visitItems, visitItem]

theorem visitItems_append (before after : List Item) (state : Expansion) :
    visitItems job (before ++ after) state =
      let seen := visitItems job before state
      (seen.1 ++ (visitItems job after seen.2).1, (visitItems job after seen.2).2) := by
  induction before generalizing state with
  | nil => rfl
  | cons item rest ih => simp only [List.cons_append, visitItems, ih]

theorem length_visitItems (items : List Item) (state : Expansion) :
    (visitItems job items state).1.length = items.length := by
  induction items generalizing state with
  | nil => rfl
  | cons item rest ih => simp only [visitItems, List.length_cons, ih]

theorem visitItems_hasFailed {items : List Item}
    (hok : (visitItems job items state).2.hasFailed = false) : state.hasFailed = false := by
  induction items generalizing state with
  | nil => exact hok
  | cons item rest ih =>
    cases item with
    | importing declaration =>
      simp only [visitItems_importing, visitImport_eq] at hok
      have hstart := ih hok
      exact hstart
    | code tree =>
      simp only [visitItems_code] at hok
      exact (visit_reaches tree state).not_failed (ih hok)

theorem visitItems_keeps {α : Type} (view : Expansion → α)
    (himport : ∀ (state : Expansion) cssAlias factoryAlias,
      view { state with cssAlias, factoryAlias } = view state)
    (hclaim : ∀ name start state, view (state.claim job name start) = view state)
    (hcompile : ∀ chunks state, view (state.piecesOf job chunks).2 = view state)
    (items : List Item) (state : Expansion) :
    view (visitItems job items state).2 = view state := by
  induction items generalizing state with
  | nil => rfl
  | cons item rest ih =>
    cases item with
    | importing declaration =>
      rw [visitItems_importing, ih, visitImport_eq]
      exact himport ..
    | code tree =>
      rw [visitItems_code, ih]
      exact (visit_reaches tree state).keeps view hclaim hcompile

theorem finish_cases (job : Job) (state : Expansion) :
    ∃ session, state.finish job = { state with session } := by
  unfold finish
  split
  · split
    · exact ⟨state.session, rfl⟩
    · exact ⟨_, rfl⟩
  · exact ⟨state.session, rfl⟩

@[simp] theorem finish_failure : (state.finish job).failure = state.failure := by
  obtain ⟨_, h⟩ := finish_cases job state
  rw [h]

@[simp] theorem finish_calls : (state.finish job).calls = state.calls := by
  obtain ⟨_, h⟩ := finish_cases job state
  rw [h]

theorem finish_keeps {α : Type} (view : Session → α)
    (hseen : ∀ session file, view (session.markSeen file) = view session) :
    view (state.finish job).session = view state.session := by
  unfold finish
  split
  · split
    · rfl
    · exact hseen _ _
  · rfl

theorem finish_failed (h : state.hasFailed = true) : state.finish job = state := by
  unfold finish
  split
  · rw [if_pos h]
  · rfl

end Expansion

end ScopedStyles
