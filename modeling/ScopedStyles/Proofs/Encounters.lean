import ScopedStyles.Proofs.Interruption

namespace ScopedStyles

open JavaScript

namespace Expansion

mutual

inductive Meets (job : Job) (part : Tree) (moment : Expansion) : Tree → Expansion → Prop
  | here : Meets job part moment part moment
  | template {chunks holes state} : MeetsAll job part moment holes state →
      Meets job part moment (.template chunks holes) state
  | tag {start tag chunks holes state} : state.hasFailed = false →
      Meets job part moment tag state → Meets job part moment (.tagged start tag chunks holes) state
  | hole {start tag chunks holes state} : state.hasFailed = false →
      MeetsAll job part moment holes (visit job tag state).2 →
      Meets job part moment (.tagged start tag chunks holes) state
  | callee {start callee arguments state} : Meets job part moment callee state →
      Meets job part moment (.call start callee arguments) state
  | argument {start callee arguments state} :
      MeetsAll job part moment arguments (visit job callee state).2 →
      Meets job part moment (.call start callee arguments) state
  | object {properties hasComma state} : MeetsAll job part moment properties state →
      Meets job part moment (.object properties hasComma) state
  | key {key value state} : Meets job part moment key state →
      Meets job part moment (.property key value) state
  | value {key value state} : Meets job part moment value (visit job key state).2 →
      Meets job part moment (.property key value) state
  | target {target value state} : state.hasFailed = false →
      Meets job part moment target (state.nameDeclarator job target value).2 →
      Meets job part moment (.declarator target value) state
  | initial {target value state} : state.hasFailed = false →
      Meets job part moment value (visit job target (state.nameDeclarator job target value).2).2 →
      Meets job part moment (.declarator target value) state
  | node {form children state} : MeetsAll job part moment children state →
      Meets job part moment (.node form children) state

inductive MeetsAll (job : Job) (part : Tree) (moment : Expansion) : List Tree → Expansion → Prop
  | head {tree rest state} : Meets job part moment tree state →
      MeetsAll job part moment (tree :: rest) state
  | tail {tree rest state} : MeetsAll job part moment rest (visit job tree state).2 →
      MeetsAll job part moment (tree :: rest) state

end

variable {job : Job} {part : Tree} {moment state state' : Expansion}

def Between (job : Job) (part : Tree) (moment state state' : Expansion) : Prop :=
  Reaches job state moment ∧ Reaches job (visit job part moment).2 state'

namespace Between

variable {state₁ : Expansion}

theorem before (hr : Reaches job state state₁) (h : Between job part moment state₁ state') :
    Between job part moment state state' :=
  ⟨hr.trans h.1, h.2⟩

theorem after (h : Between job part moment state state₁) (hr : Reaches job state₁ state') :
    Between job part moment state state' :=
  ⟨h.1, h.2.trans hr⟩

end Between

mutual

theorem Meets.between : ∀ {tree state}, Meets job part moment tree state →
    Between job part moment state (visit job tree state).2
  | _, _, .here => ⟨.refl, .refl⟩
  | _, _, .template h => by
    rw [visit_template]
    exact h.between
  | _, _, .tag hok h => by
    rw [visit_tagged hok]
    exact (h.between.after (visitAll_reaches ..)).after (expandTemplate_reaches ..)
  | _, _, .hole hok h => by
    rw [visit_tagged hok]
    exact (h.between.before (visit_reaches ..)).after (expandTemplate_reaches ..)
  | _, _, .callee h => by
    rw [visit_call]
    exact h.between.after (visitAll_reaches ..)
  | _, _, .argument h => by
    rw [visit_call]
    exact h.between.before (visit_reaches ..)
  | _, _, .object h => by
    rw [visit_object]
    exact h.between
  | _, _, .key h => by
    rw [visit_property]
    exact h.between.after (visit_reaches ..)
  | _, _, .value h => by
    rw [visit_property]
    exact h.between.before (visit_reaches ..)
  | _, _, .target hok h => by
    rw [visit_declarator hok]
    exact (h.between.before (nameDeclarator_reaches hok _ _)).after (visit_reaches ..)
  | _, _, .initial hok h => by
    rw [visit_declarator hok]
    exact (h.between.before (visit_reaches ..)).before (nameDeclarator_reaches hok _ _)
  | _, _, .node h => by
    rw [visit_node]
    exact h.between

theorem MeetsAll.between : ∀ {trees state}, MeetsAll job part moment trees state →
    Between job part moment state (visitAll job trees state).2
  | _, _, .head h => by
    rw [visitAll_cons]
    exact h.between.after (visitAll_reaches ..)
  | _, _, .tail h => by
    rw [visitAll_cons]
    exact h.between.before (visit_reaches ..)

end

def Remembers (state state' : Expansion) : Prop :=
  ∃ later, state'.session.names = state.session.names ++ later

theorem Remembers.trans {state₁ : Expansion} (h₁ : Remembers state state₁)
    (h₂ : Remembers state₁ state') : Remembers state state' := by
  obtain ⟨later₁, h₁⟩ := h₁
  obtain ⟨later₂, h₂⟩ := h₂
  exact ⟨later₁ ++ later₂, by rw [h₂, h₁, List.append_assoc]⟩

theorem Remembers.name? (h : Remembers state state') {name : String} {record : NameRecord}
    (hname : state.session.name? name = some record) :
    state'.session.name? name = some record := by
  obtain ⟨later, h⟩ := h
  rw [Session.name?] at hname
  rw [Session.name?, h, List.lookup_append, hname]
  rfl

theorem claim_remembers (name : String) (start : Option Site) (state : Expansion) :
    Remembers state (state.claim job name start) := by
  rcases claim_cases job name start state with h | ⟨_, _, _, h⟩ | ⟨_, _, h⟩
  · exact ⟨[], by simp [h]⟩
  · exact ⟨[(name, _)], by rw [h]⟩
  · exact ⟨[], by simp [h]⟩

theorem Reaches.remembers (h : Reaches job state state') : Remembers state state' := by
  induction h with
  | refl => exact ⟨[], (List.append_nil _).symm⟩
  | tail _ hstep ih =>
    cases hstep with
    | claim name start _ => exact ih.trans (claim_remembers ..)
    | compile chunks state => exact ih.trans ⟨[], by simp⟩

theorem visitItems_remembers (items : List Item) (state : Expansion) :
    Remembers state (visitItems job items state).2 := by
  induction items generalizing state with
  | nil => exact ⟨[], (List.append_nil _).symm⟩
  | cons item rest ih =>
    cases item with
    | importing declaration =>
      rw [visitItems_importing, visitImport_eq]
      exact ih _
    | code tree =>
      rw [visitItems_code]
      exact (visit_reaches tree state).remembers.trans (ih _)

theorem visitItems_failure (hfailed : state.hasFailed = true) (items : List Item) :
    (visitItems job items state).2.failure = state.failure := by
  obtain ⟨css, factory, h⟩ := @Interruption.visitItems_failed job state hfailed items
  rw [h]
  rfl

end Expansion

namespace Job

open Expansion

variable {job : Job} {session : Session} {program : Program} {part : Tree} {moment : Expansion}

def ComesTo (job : Job) (session : Session) (program : Program) (part : Tree)
    (moment : Expansion) : Prop :=
  ∃ before tree after, program.items = before ++ .code tree :: after ∧
    Meets job part moment tree (visitItems job before { session }).2

namespace ComesTo

theorem states (h : job.ComesTo session program part moment) : ∃ before start seen after,
    start = (visitItems job before { session }).2 ∧ Between job part moment start seen ∧
      (visitItems job program.items { session }).2 = (visitItems job after seen).2 := by
  obtain ⟨before, tree, after, hitems, hmeets⟩ := h
  refine ⟨before, _, _, after, rfl, hmeets.between, ?_⟩
  rw [hitems, visitItems_append]
  dsimp only
  rw [visitItems_code]

theorem hasSeen (h : job.ComesTo session program part moment) (file : String) :
    moment.session.hasSeen file = session.hasSeen file := by
  obtain ⟨before, start, seen, after, rfl, hbetween, -⟩ := h.states
  rw [hbetween.1.hasSeen, Session.hasSeen, visitItems_files, Session.hasSeen]

theorem remembers (h : job.ComesTo session program part moment) :
    Remembers { session } moment := by
  obtain ⟨before, start, seen, after, rfl, hbetween, -⟩ := h.states
  exact (visitItems_remembers before _).trans hbetween.1.remembers

theorem not_failed (h : job.ComesTo session program part moment)
    (hok : (job.run session program).failure = none) :
    (visit job part moment).2.hasFailed = false := by
  obtain ⟨before, start, seen, after, -, hbetween, hend⟩ := h.states
  have hok : (visitItems job program.items { session }).2.hasFailed = false := by
    simpa [Job.run, visitProgram, Expansion.hasFailed] using hok
  rw [hend] at hok
  exact hbetween.2.not_failed (visitItems_hasFailed hok)

theorem failure (h : job.ComesTo session program part moment)
    (hfailed : (visit job part moment).2.hasFailed = true) :
    (job.run session program).failure = (visit job part moment).2.failure := by
  obtain ⟨before, start, seen, after, -, hbetween, hend⟩ := h.states
  have hseen : seen.failure = (visit job part moment).2.failure := hbetween.2.failure hfailed
  have hseen' : seen.hasFailed = true := by rwa [Expansion.hasFailed, hseen]
  have hlater : (visitItems job after seen).2.failure = seen.failure :=
    visitItems_failure hseen' after
  rw [← hseen, ← hlater, ← hend]
  exact finish_failure

theorem name? (h : job.ComesTo session program part moment) {name : String} {record : NameRecord}
    (hname : (visit job part moment).2.session.name? name = some record) :
    (job.run session program).session.name? name = some record := by
  obtain ⟨before, start, seen, after, -, hbetween, hend⟩ := h.states
  have hafter : (visitItems job after seen).2.session.name? name = some record :=
    (hbetween.2.remembers.trans (visitItems_remembers after seen)).name? hname
  have hnames : (job.run session program).session.names =
      (visitItems job program.items { session }).2.session.names :=
    finish_keeps (·.names) Session.markSeen_names
  rw [Session.name?, hnames, hend]
  exact hafter

end ComesTo

end Job

end ScopedStyles
