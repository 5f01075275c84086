import ScopedStyles.Proofs.Walk

namespace ScopedStyles

open JavaScript

structure Declaration where
  name : String
  start : Option Site

abbrev Entry := String × NameRecord

namespace Declaration

open Expansion

def entry (job : Job) (file : String) (declaration : Declaration) : Entry :=
  (declaration.name, ⟨file, job.lineOf declaration.start⟩)

def resolvedName? (job : Job) (binding : String) : List Tree → Option String
  | [] => some (job.settings.nameFor job.file binding)
  | .object properties _ :: _ =>
    some (((literalName? properties).filter (· ≠ "")).getD
      (job.settings.nameFor job.file binding))
  | _ => none

def of? (job : Job) (factory : Option String) : Tree → Tree → Option Declaration
  | .identifier binding, .call start (.identifier callee) arguments =>
    if job.file.isSome ∧ factory = some callee then
      (resolvedName? job binding arguments).map (⟨·, start⟩)
    else none
  | _, _ => none

mutual

def inTree (job : Job) (factory : Option String) : Tree → List Declaration
  | .absent | .identifier _ | .word _ | .token _ | .string _ => []
  | .template _ holes => inTrees job factory holes
  | .tagged _ tag _ holes => inTree job factory tag ++ inTrees job factory holes
  | .call _ callee arguments => inTree job factory callee ++ inTrees job factory arguments
  | .object properties _ => inTrees job factory properties
  | .property key value => inTree job factory key ++ inTree job factory value
  | .declarator target value =>
    (of? job factory target value).toList ++ (inTree job factory target ++ inTree job factory value)
  | .node _ children => inTrees job factory children

def inTrees (job : Job) (factory : Option String) : List Tree → List Declaration
  | [] => []
  | tree :: rest => inTree job factory tree ++ inTrees job factory rest

end

def inItems (job : Job) : Option String → List Item → List Declaration
  | _, [] => []
  | factory, .importing declaration :: rest =>
    inItems job (aliasAfter Job.factoryModule Job.factory declaration factory) rest
  | factory, .code tree :: rest => inTree job factory tree ++ inItems job factory rest

theorem inTree_leaf (job : Job) (factory : Option String) {tree : Tree} (h : tree.isLeaf = true) :
    inTree job factory tree = [] := by
  cases tree <;> simp_all [inTree, Tree.isLeaf]

end Declaration

namespace Expansion

abbrev Memory := List Entry × Option Failure

def memory (state : Expansion) : Memory := (state.session.names, state.failure)

def enter (memory : Memory) (entry : Entry) : Memory :=
  match memory with
  | (names, some failure) => (names, some failure)
  | (names, none) =>
    match names.lookup entry.1 with
    | some first => (names, some (.duplicateName entry.1 first.file first.line))
    | none => (names ++ [entry], none)

theorem foldl_enter_failed {memory : Memory} (h : memory.2.isSome = true) (entries : List Entry) :
    entries.foldl enter memory = memory := by
  induction entries with
  | nil => rfl
  | cons entry rest ih =>
    obtain ⟨names, failure⟩ := memory
    cases failure with
    | none => cases h
    | some failure => exact ih

variable {job : Job} {state : Expansion} {file : String}

theorem memory_claim (hfile : job.file = some file)
    (hchecks : job.settings.checksUniqueNames = true) (hok : state.hasFailed = false)
    (declaration : Declaration) :
    memory (state.claim job declaration.name declaration.start) =
      if state.session.hasSeen file then memory state
      else enter (memory state) (declaration.entry job file) := by
  have hnone : state.failure = none := by simpa [hasFailed] using hok
  unfold claim memory enter
  simp only [hfile, hchecks, hnone, Bool.not_true, Bool.false_or, Session.register, Session.name?,
    Declaration.entry]
  cases state.session.hasSeen file with
  | true => simp [hnone]
  | false => cases h : state.session.names.lookup declaration.name <;> simp

def Component.resolved (job : Job) : Component → String
  | .named name => name
  | .bare binding => job.settings.nameFor job.file binding

theorem resolvedName?_eq (binding : String) (arguments : List Tree) :
    Declaration.resolvedName? job binding arguments =
      (componentOf? binding arguments).map (Component.resolved job) := by
  cases arguments with
  | nil => rfl
  | cons first rest =>
    cases first with
    | object properties hasComma =>
      simp only [Declaration.resolvedName?, componentOf?]
      cases literalName? properties with
      | none => rfl
      | some name => by_cases h : name = "" <;> simp [h, Component.resolved, Option.filter]
    | _ => rfl

theorem of?_eq_component? (target value : Tree) :
    Declaration.of? job state.factoryAlias target value =
      (component? job state target value).map fun made => ⟨made.1.resolved job, made.2⟩ := by
  cases target with
  | identifier binding =>
    cases value with
    | call start callee arguments =>
      cases callee with
      | identifier callee =>
        simp only [Declaration.of?, component?, resolvedName?_eq]
        by_cases h : job.file.isSome ∧ state.factoryAlias = some callee
        · cases componentOf? binding arguments <;> simp [h]
        · rw [if_neg h, if_neg (by simpa using h)]
          rfl
      | _ => rfl
    | _ => rfl
  | _ => rfl

theorem nameDeclarator_state (target value : Tree) :
    (state.nameDeclarator job target value).2 =
      match Declaration.of? job state.factoryAlias target value with
      | none => state
      | some declaration => state.claim job declaration.name declaration.start := by
  rw [of?_eq_component?]
  unfold nameDeclarator
  split <;> rename_i h <;> simp [h, Component.resolved]

theorem memory_expandTemplate (start : Option Site) (tag : Tree) (chunks : List String)
    (holes : List Tree) :
    memory (state.expandTemplate job start tag chunks holes).2 = memory state := by
  unfold expandTemplate
  split <;> simp [memory]

def Enters (job : Job) (file : String) (declarations : List Declaration)
    (state state' : Expansion) : Prop :=
  memory state' =
    if state.session.hasSeen file then memory state
    else (declarations.map (·.entry job file)).foldl enter (memory state)

namespace Enters

variable {state₁ state₂ : Expansion} {before after : List Declaration}

theorem of_memory_eq (h : memory state₁ = memory state) : Enters job file [] state state₁ := by
  simp [Enters, h]

theorem trans (hr : Reaches job state state₁) (h₁ : Enters job file before state state₁)
    (h₂ : Enters job file after state₁ state₂) :
    Enters job file (before ++ after) state state₂ := by
  unfold Enters at *
  rw [h₂, h₁, hr.hasSeen]
  split
  · rfl
  · rw [List.map_append, List.foldl_append]

end Enters

theorem nameDeclarator_enters (hfile : job.file = some file)
    (hchecks : job.settings.checksUniqueNames = true) (hok : state.hasFailed = false)
    (target value : Tree) :
    Enters job file (Declaration.of? job state.factoryAlias target value).toList state
      (state.nameDeclarator job target value).2 := by
  rw [nameDeclarator_state]
  cases Declaration.of? job state.factoryAlias target value with
  | none => exact .of_memory_eq rfl
  | some declaration => exact memory_claim hfile hchecks hok declaration

theorem walk_enters (hfile : job.file = some file)
    (hchecks : job.settings.checksUniqueNames = true) :
    Walk job
      (fun tree state _ state' =>
        Enters job file (Declaration.inTree job state.factoryAlias tree) state state')
      (fun trees state _ state' =>
        Enters job file (Declaration.inTrees job state.factoryAlias trees) state state') where
  failed tree state h := by
    have hf : (memory state).2.isSome = true := h
    rw [Enters, foldl_enter_failed hf, ite_self]
  leaf tree state h := by
    rw [Declaration.inTree_leaf job _ h]
    exact .of_memory_eq rfl
  template chunks _ _ _ _ _ ih := ih
  tagged start chunks _ _ _ _ _ _ _ _ hv₁ _ ih₁ ih₂ := by
    rw [hv₁.reaches.factoryAlias] at ih₂
    rw [Enters, memory_expandTemplate]
    exact ih₁.trans hv₁.reaches ih₂
  call start _ _ _ _ _ _ _ hv₁ _ ih₁ ih₂ := by
    rw [hv₁.reaches.factoryAlias] at ih₂
    exact ih₁.trans hv₁.reaches ih₂
  object hasComma _ _ _ _ _ ih := ih
  property hv₁ _ ih₁ ih₂ := by
    rw [hv₁.reaches.factoryAlias] at ih₂
    exact ih₁.trans hv₁.reaches ih₂
  declarator {target value _ _ _ _ _} hok hv₁ _ ih₁ ih₂ := by
    have hr : Reaches job _ _ := nameDeclarator_reaches hok target value
    rw [hv₁.reaches.factoryAlias, hr.factoryAlias] at ih₂
    rw [hr.factoryAlias] at ih₁
    exact (nameDeclarator_enters hfile hchecks hok target value).trans hr
      (ih₁.trans hv₁.reaches ih₂)
  node form _ _ _ _ _ ih := ih
  nil _ := .of_memory_eq rfl
  cons hv₁ _ ih₁ ih₂ := by
    rw [hv₁.reaches.factoryAlias] at ih₂
    exact ih₁.trans hv₁.reaches ih₂

theorem visitItems_enters (hfile : job.file = some file)
    (hchecks : job.settings.checksUniqueNames = true) (items : List Item) (state : Expansion) :
    Enters job file (Declaration.inItems job state.factoryAlias items) state
      (visitItems job items state).2 := by
  induction items generalizing state with
  | nil => exact .of_memory_eq rfl
  | cons item rest ih =>
    cases item with
    | importing declaration =>
      have hrest := ih (state.visitImport job declaration).2
      rw [visitItems_importing]
      rw [visitImport_eq] at hrest ⊢
      exact hrest
    | code tree =>
      have hr : Reaches job state _ := visit_reaches tree state
      have hrest := ih (visit job tree state).2
      rw [hr.factoryAlias] at hrest
      rw [visitItems_code]
      exact ((walk_enters hfile hchecks).one tree state).trans hr hrest

theorem visitItems_files (items : List Item) (state : Expansion) :
    (visitItems job items state).2.session.files = state.session.files :=
  visitItems_keeps (·.session.files) (fun _ _ _ => rfl) (by simp) (by simp) items state

end Expansion

namespace Job

open Expansion

variable {job : Job} {file : String}

theorem run_memory_eq (job : Job) (session : Session) (program : Program) :
    ((job.run session program).session.names, (job.run session program).failure) =
      memory (visitItems job program.items { session }).2 :=
  Prod.ext (finish_keeps (·.names) Session.markSeen_names) finish_failure

theorem run_memory (hfile : job.file = some file)
    (hchecks : job.settings.checksUniqueNames = true) (session : Session) (program : Program) :
    ((job.run session program).session.names, (job.run session program).failure) =
      if session.hasSeen file then (session.names, none)
      else ((Declaration.inItems job none program.items).map (·.entry job file)).foldl enter
        (session.names, none) := by
  have h := visitItems_enters hfile hchecks program.items { session }
  rw [run_memory_eq]
  exact h

theorem run_files (hfile : job.file = some file) (session : Session) (program : Program)
    (hok : (job.run session program).failure = none) :
    (job.run session program).session.files = (session.markSeen file).files := by
  have hfiles : (visitItems job program.items { session }).2.session.files = session.files :=
    visitItems_files program.items { session }
  simp only [run, visitProgram, finish, hfile] at hok ⊢
  split at hok
  · rename_i hf
    simp [hasFailed, hok] at hf
  · rename_i hf
    rw [if_neg hf]
    unfold Session.markSeen Session.hasSeen
    rw [hfiles]
    split <;> simp [hfiles]

end Job

end ScopedStyles
