import ScopedStyles.Proofs.Answers

namespace ScopedStyles

open JavaScript

namespace Expansion

structure Ledger where
  cache : List (String × List String)
  calls : List CompilerCall

def ledger (state : Expansion) : Ledger :=
  ⟨state.session.cache, state.calls⟩

def withLedger (state : Expansion) (ledger : Ledger) : Expansion :=
  { state with session := { state.session with cache := ledger.cache }, calls := ledger.calls }

variable {job : Job} {state other state' : Expansion} {R : Ledger → Ledger → Prop}

@[simp] theorem withLedger_hasFailed (state : Expansion) (ledger : Ledger) :
    (state.withLedger ledger).hasFailed = state.hasFailed := rfl

@[simp] theorem withLedger_withLedger (state : Expansion) (ledger ledger' : Ledger) :
    (state.withLedger ledger).withLedger ledger' = state.withLedger ledger' := rfl

@[simp] theorem ledger_withLedger (state : Expansion) (ledger : Ledger) :
    (state.withLedger ledger).ledger = ledger := rfl

theorem claim_withLedger (name : String) (start : Option Site) (ledger : Ledger) :
    (state.withLedger ledger).claim job name start =
      (state.claim job name start).withLedger ledger := by
  have hseen (file : String) : (state.withLedger ledger).session.hasSeen file =
      state.session.hasSeen file := rfl
  have hname : (state.withLedger ledger).session.name? name = state.session.name? name := rfl
  unfold claim Session.register
  simp only [hseen, hname]
  cases job.file with
  | none => rfl
  | some file =>
    dsimp only
    split
    · rfl
    · cases state.session.name? name <;> rfl

theorem claim_ledger (name : String) (start : Option Site) :
    (state.claim job name start).ledger = state.ledger := by
  rcases claim_cases job name start state with h | ⟨_, _, _, h⟩ | ⟨_, _, h⟩ <;> rw [h] <;> rfl

theorem nameDeclarator_withLedger (target value : Tree) (ledger : Ledger) :
    (state.withLedger ledger).nameDeclarator job target value =
      let named := state.nameDeclarator job target value
      (named.1, named.2.withLedger ledger) := by
  have hcomponent : component? job (state.withLedger ledger) target value =
      component? job state target value := rfl
  unfold nameDeclarator
  rw [hcomponent]
  split
  · rfl
  · simp only [claim_withLedger]
  · simp only [claim_withLedger, withLedger_hasFailed]

theorem nameDeclarator_ledger (target value : Tree) :
    (state.nameDeclarator job target value).2.ledger = state.ledger := by
  rw [nameDeclarator_state]
  split
  · rfl
  · exact claim_ledger ..

theorem piecesOf_eq_withLedger (chunks : List String) (state : Expansion) :
    (state.piecesOf job chunks).2 = state.withLedger (state.piecesOf job chunks).2.ledger := by
  rcases piecesOf_cases job chunks state with h | ⟨_, _, h⟩ <;> rw [h] <;> rfl

def Agree (R : Ledger → Ledger → Prop) (state other : Expansion) : Prop :=
  ∃ ledger, other = state.withLedger ledger ∧ R state.ledger ledger

def Respected (job : Job) (R : Ledger → Ledger → Prop) : Prop :=
  ∀ (chunks : List String) (state : Expansion) (ledger : Ledger), R state.ledger ledger →
    let pieces := state.piecesOf job chunks
    let others := (state.withLedger ledger).piecesOf job chunks
    others.1 = pieces.1 ∧ R pieces.2.ledger others.2.ledger

def Mirrors {α : Type} (R : Ledger → Ledger → Prop) (make : Expansion → α × Expansion)
    (state : Expansion) (made : α) (state' : Expansion) : Prop :=
  ∀ other, Agree R state other → (make other).1 = made ∧ Agree R state' (make other).2

theorem Agree.hasFailed (h : Agree R state other) : other.hasFailed = state.hasFailed := by
  obtain ⟨ledger, rfl, -⟩ := h
  rfl

theorem Mirrors.both {α β : Type} {first : Expansion → α × Expansion}
    {second : Expansion → β × Expansion} {made₁ : α} {made₂ : β} {state₁ state₂ : Expansion}
    (h₁ : Mirrors R first state made₁ state₁) (h₂ : Mirrors R second state₁ made₂ state₂)
    (hagree : Agree R state other) :
    (first other).1 = made₁ ∧ (second (first other).2).1 = made₂ ∧
      Agree R state₂ (second (first other).2).2 := by
  obtain ⟨hfirst, hagree₁⟩ := h₁ other hagree
  exact ⟨hfirst, h₂ _ hagree₁⟩

theorem nameDeclarator_agree (job : Job) (hagree : Agree R state other) (target value : Tree) :
    (other.nameDeclarator job target value).1 = (state.nameDeclarator job target value).1 ∧
      Agree R (state.nameDeclarator job target value).2
        (other.nameDeclarator job target value).2 := by
  obtain ⟨ledger, rfl, hledger⟩ := hagree
  rw [nameDeclarator_withLedger]
  refine ⟨rfl, ledger, rfl, ?_⟩
  rwa [nameDeclarator_ledger]

theorem expandTemplate_agree (hR : Respected job R) (hagree : Agree R state other)
    (start : Option Site) (tag : Tree) (chunks : List String) (holes : List Tree) :
    (other.expandTemplate job start tag chunks holes).1 =
        (state.expandTemplate job start tag chunks holes).1 ∧
      Agree R (state.expandTemplate job start tag chunks holes).2
        (other.expandTemplate job start tag chunks holes).2 := by
  obtain ⟨ledger, rfl, hledger⟩ := hagree
  have htracked : (state.withLedger ledger).isTracked tag = state.isTracked tag := rfl
  unfold expandTemplate
  rw [htracked]
  split
  · obtain ⟨hpieces, hledger'⟩ := hR chunks state ledger hledger
    refine ⟨congrArg (callFor job start tag holes) hpieces, _, ?_, hledger'⟩
    dsimp only
    rw [piecesOf_eq_withLedger chunks state, withLedger_withLedger, piecesOf_eq_withLedger,
      withLedger_withLedger, ledger_withLedger]
  · exact ⟨rfl, ledger, rfl, hledger⟩

theorem walk_mirrors (hR : Respected job R) :
    Walk job (fun tree state tree' state' => Mirrors R (visit job tree) state tree' state')
      (fun trees state trees' state' => Mirrors R (visitAll job trees) state trees' state') where
  failed tree state hfailed other hagree := by
    rw [visit_failed (hagree.hasFailed.trans hfailed)]
    exact ⟨rfl, hagree⟩
  leaf tree state hleaf other hagree := by
    rw [visit_leaf hleaf]
    exact ⟨rfl, hagree⟩
  template chunks _ _ _ _ _ ih other hagree := by
    obtain ⟨hholes, hagree'⟩ := ih other hagree
    rw [visit_template, hholes]
    exact ⟨rfl, hagree'⟩
  tagged start chunks _ _ _ _ _ _ _ hok _ _ ih₁ ih₂ other hagree := by
    obtain ⟨htag, hholes, hagree₂⟩ := ih₁.both ih₂ hagree
    rw [visit_tagged (hagree.hasFailed.trans hok), htag, hholes]
    exact expandTemplate_agree hR hagree₂ start _ chunks _
  call start _ _ _ _ _ _ _ _ _ ih₁ ih₂ other hagree := by
    obtain ⟨hcallee, harguments, hagree₂⟩ := ih₁.both ih₂ hagree
    rw [visit_call, hcallee, harguments]
    exact ⟨rfl, hagree₂⟩
  object hasComma _ _ _ _ _ ih other hagree := by
    obtain ⟨hproperties, hagree'⟩ := ih other hagree
    rw [visit_object, hproperties]
    exact ⟨rfl, hagree'⟩
  property _ _ ih₁ ih₂ other hagree := by
    obtain ⟨hkey, hvalue, hagree₂⟩ := ih₁.both ih₂ hagree
    rw [visit_property, hkey, hvalue]
    exact ⟨rfl, hagree₂⟩
  declarator {target value _ _ _ _ _} hok _ _ ih₁ ih₂ other hagree := by
    obtain ⟨hname, hnamed⟩ := nameDeclarator_agree job hagree target value
    obtain ⟨htarget, hvalue, hagree₂⟩ := ih₁.both ih₂ hnamed
    rw [visit_declarator (hagree.hasFailed.trans hok)]
    dsimp only
    rw [htarget, hvalue, hname]
    exact ⟨rfl, hagree₂⟩
  node form _ _ _ _ _ ih other hagree := by
    obtain ⟨hchildren, hagree'⟩ := ih other hagree
    rw [visit_node, hchildren]
    exact ⟨rfl, hagree'⟩
  nil _ _ hagree := ⟨rfl, hagree⟩
  cons _ _ ih₁ ih₂ other hagree := by
    obtain ⟨htree, hrest, hagree₂⟩ := ih₁.both ih₂ hagree
    rw [visitAll_cons, htree, hrest]
    exact ⟨rfl, hagree₂⟩

theorem visitItems_mirrors (hR : Respected job R) (items : List Item) (state : Expansion) :
    Mirrors R (visitItems job items) state (visitItems job items state).1
      (visitItems job items state).2 := by
  induction items generalizing state with
  | nil => exact fun _ hagree => ⟨rfl, hagree⟩
  | cons item rest ih =>
    intro other hagree
    cases item with
    | importing declaration =>
      have himport : Agree R (state.visitImport job declaration).2
          (other.visitImport job declaration).2 := by
        obtain ⟨ledger, rfl, hledger⟩ := hagree
        rw [visitImport_eq, visitImport_eq]
        exact ⟨ledger, rfl, hledger⟩
      obtain ⟨hrest, hagree'⟩ := ih _ _ himport
      rw [visitItems_importing, visitItems_importing]
      dsimp only
      rw [hrest]
      refine ⟨?_, hagree'⟩
      rw [visitImport_eq, visitImport_eq]
    | code tree =>
      obtain ⟨htree, hagree₁⟩ := (walk_mirrors hR).one tree state other hagree
      obtain ⟨hrest, hagree₂⟩ := ih _ _ hagree₁
      rw [visitItems_code, visitItems_code]
      dsimp only
      rw [htree, hrest]
      exact ⟨rfl, hagree₂⟩

theorem finish_withLedger (ledger : Ledger) :
    (state.withLedger ledger).finish job = (state.finish job).withLedger ledger := by
  have hseen (file : String) : (state.withLedger ledger).session.hasSeen file =
      state.session.hasSeen file := rfl
  unfold finish Session.markSeen
  simp only [hseen, withLedger_hasFailed]
  cases job.file with
  | none => rfl
  | some file =>
    dsimp only
    split
    · rfl
    · split <;> rfl

theorem finish_ledger : (state.finish job).ledger = state.ledger :=
  congrArg₂ Ledger.mk (finish_keeps (·.cache) Session.markSeen_cache) finish_calls

theorem finish_agree (hagree : Agree R state other) :
    Agree R (state.finish job) (other.finish job) := by
  obtain ⟨ledger, rfl, hledger⟩ := hagree
  exact ⟨ledger, finish_withLedger ledger, by rwa [finish_ledger]⟩

theorem visitProgram_mirrors (hR : Respected job R) (program : Program) (state : Expansion) :
    Mirrors R (visitProgram job program) state (visitProgram job program state).1
      (visitProgram job program state).2 := by
  rintro _ ⟨ledger, rfl, hledger⟩
  have hstart : Agree R { state with cssAlias := none, factoryAlias := none }
      { state.withLedger ledger with cssAlias := none, factoryAlias := none } :=
    ⟨ledger, rfl, hledger⟩
  obtain ⟨hitems, hagree⟩ := visitItems_mirrors hR program.items _ _ hstart
  exact ⟨congrArg (fun items => { program with items }) hitems, finish_agree hagree⟩

end Expansion

end ScopedStyles
