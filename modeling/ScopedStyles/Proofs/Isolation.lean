import Mathlib.Logic.Function.Basic
import ScopedStyles.Proofs.Visits

namespace ScopedStyles

namespace Context

variable {α : Type} {context other : Context}

def own (context : Context) (entries : List (Context × α)) : List α :=
  (entries.filter (·.1 = context)).map Prod.snd

theorem own_cons_self (entry : α) (rest : List (Context × α)) :
    context.own ((context, entry) :: rest) = entry :: context.own rest := by
  simp [own]

theorem own_cons_ne (h : other ≠ context) (entry : α) (rest : List (Context × α)) :
    context.own ((other, entry) :: rest) = context.own rest := by
  simp [own, h]

theorem own_append (before since : List (Context × α)) :
    context.own (before ++ since) = context.own before ++ context.own since := by
  rw [own, List.filter_append, List.map_append, own, own]

theorem own_filter (entries : List (Context × α)) :
    context.own (entries.filter (·.1 = context)) = context.own entries := by
  rw [own, List.filter_filter, own]
  simp only [Bool.and_self]

theorem map_own (entries : List (Context × α)) :
    (context.own entries).map (context, ·) = entries.filter (·.1 = context) := by
  rw [own, List.map_map]
  refine (List.map_congr_left fun entry hmem => ?_).trans (List.map_id _)
  have howner : entry.1 = context := of_decide_eq_true (List.mem_filter.mp hmem).2
  rw [← howner]
  rfl

theorem mem_own {entry : α} {entries : List (Context × α)} (h : (context, entry) ∈ entries) :
    entry ∈ context.own entries :=
  List.mem_map.mpr ⟨_, List.mem_filter.mpr ⟨h, decide_eq_true rfl⟩, rfl⟩

def replace (context : Context) (new : α) : Nat → List (Context × α) → List (Context × α)
  | _, [] => []
  | 0, (owner, old) :: rest =>
    if owner = context then (owner, new) :: rest else (owner, old) :: replace context new 0 rest
  | index + 1, (owner, old) :: rest =>
    (owner, old) :: replace context new (if owner = context then index else index + 1) rest

theorem own_replace_self (new : α) (index : Nat) (entries : List (Context × α)) :
    context.own (context.replace new index entries) = (context.own entries).set index new := by
  induction entries generalizing index with
  | nil => rfl
  | cons entry rest ih =>
    obtain ⟨owner, old⟩ := entry
    by_cases howner : owner = context
    · subst howner
      cases index with
      | zero => rw [replace, if_pos rfl, own_cons_self, own_cons_self, List.set_cons_zero]
      | succ index =>
        rw [replace, if_pos rfl, own_cons_self, own_cons_self, ih, List.set_cons_succ]
    · cases index with
      | zero => rw [replace, if_neg howner, own_cons_ne howner, own_cons_ne howner, ih]
      | succ index => rw [replace, if_neg howner, own_cons_ne howner, own_cons_ne howner, ih]

theorem own_replace_ne (h : other ≠ context) (new : α) (index : Nat)
    (entries : List (Context × α)) :
    context.own (other.replace new index entries) = context.own entries := by
  induction entries generalizing index with
  | nil => cases index <;> rfl
  | cons entry rest ih =>
    obtain ⟨owner, old⟩ := entry
    have hkeep : ∀ index, context.own ((owner, old) :: other.replace new index rest) =
        context.own ((owner, old) :: rest) := by
      intro index
      by_cases howner : owner = context
      · subst howner
        rw [own_cons_self, own_cons_self, ih]
      · rw [own_cons_ne howner, own_cons_ne howner, ih]
    -- In front of the entry to be replaced, the number goes down at entries of `other` only.
    cases index with
    | zero =>
      rw [replace]
      split
      · rename_i howner
        subst howner
        rw [own_cons_ne h, own_cons_ne h]
      · exact hkeep 0
    | succ index => exact hkeep _

theorem map_fst_replace (new : α) (index : Nat) (entries : List (Context × α)) :
    (context.replace new index entries).map Prod.fst = entries.map Prod.fst := by
  induction entries generalizing index with
  | nil => cases index <;> rfl
  | cons entry rest ih =>
    cases index with
    | zero =>
      rw [replace]
      split
      · rfl
      · rw [List.map_cons, ih, List.map_cons]
    | succ index => rw [replace, List.map_cons, ih, List.map_cons]

end Context

namespace Visit

theorem step_injected {visit : Visit} (hserver : visit.place.isBrowser = false)
    (hquiet : ∀ shown ∈ visit.shown, shown.injected = []) (event : PlaceEvent) :
    ∀ shown ∈ (visit.step event).shown, shown.injected = [] := by
  intro shown hmem
  cases event with
  | render call =>
    rcases List.mem_append.mp hmem with hold | hnew
    · exact hquiet shown hold
    · rw [List.mem_singleton.mp hnew]
      exact call.render_injected visit.place hserver
  | mount index =>
    rw [step] at hmem
    split at hmem
    · rename_i old hold
      rcases List.mem_or_eq_of_mem_set hmem with hmem | rfl
      · exact hquiet shown hmem
      · exact hquiet old (List.mem_of_getElem? hold)
    · exact hquiet shown hmem
  | finishFirstRender => exact hquiet shown hmem
  | reset => exact hquiet shown hmem

theorem run_injected {place : Place} (hserver : place.isBrowser = false)
    (events : List PlaceEvent) : ∀ shown ∈ (run place events).shown, shown.injected = [] := by
  induction events using List.reverseRecOn with
  | nil =>
    intro shown hmem
    cases hmem
  | append_singleton events event ih =>
    rw [run_append]
    exact step_injected ((run_isBrowser place events).trans hserver) ih event

end Visit

structure World where
  place : Context → Place := Context.fresh
  shown : List (Context × Shown) := []

namespace World

def step (world : World) : Context × PlaceEvent → World
  | (context, .render call) =>
    let (rendered, pass) := call.render (world.place context)
    { place := Function.update world.place context pass.place
      shown := world.shown ++ [(context, ⟨rendered, pass.injected⟩)] }
  | (context, .mount index) =>
    match (context.own world.shown)[index]? with
    | some shown =>
      let (rendered, place) := shown.rendered.mount (world.place context)
      { place := Function.update world.place context place
        shown := context.replace { shown with rendered } index world.shown }
    | none => world
  | (context, .finishFirstRender) =>
    { world with
      place := Function.update world.place context (world.place context).finishFirstRender }
  | (context, .reset) =>
    { world with place := Function.update world.place context (world.place context).reset }

def run (events : List (Context × PlaceEvent)) : World :=
  events.foldl step {}

theorem run_append (before since : List (Context × PlaceEvent)) :
    run (before ++ since) = since.foldl step (run before) :=
  List.foldl_append

def document (world : World) : List Injection :=
  world.shown.flatMap (·.2.injected)

def visit (world : World) (context : Context) : Visit :=
  ⟨world.place context, context.own world.shown⟩

variable {context other : Context}

theorem step_visit_self (world : World) (context : Context) (event : PlaceEvent) :
    (world.step (context, event)).visit context = (world.visit context).step event := by
  cases event with
  | render call =>
    simp only [step, visit, Function.update_self, Context.own_append, Context.own_cons_self]
    rfl
  | mount index =>
    have hshown : (world.visit context).shown = context.own world.shown := rfl
    simp only [step, Visit.step, hshown]
    cases (context.own world.shown)[index]? with
    | none => rfl
    | some shown => simp only [visit, Function.update_self, Context.own_replace_self]
  | finishFirstRender => simp only [step, visit, Function.update_self, Visit.step]
  | reset => simp only [step, visit, Function.update_self, Visit.step]

theorem step_visit_ne (world : World) (h : other ≠ context) (event : PlaceEvent) :
    (world.step (other, event)).visit context = world.visit context := by
  cases event with
  | render call =>
    simp only [step, visit, Function.update_of_ne h.symm, Context.own_append,
      Context.own_cons_ne h]
    exact congrArg (Visit.mk _) (List.append_nil _)
  | mount index =>
    simp only [step]
    split
    · simp only [visit, Function.update_of_ne h.symm, Context.own_replace_ne h]
    · rfl
  | finishFirstRender => simp only [step, visit, Function.update_of_ne h.symm]
  | reset => simp only [step, visit, Function.update_of_ne h.symm]

theorem foldl_step_visit (world : World) (context : Context)
    (events : List (Context × PlaceEvent)) :
    (events.foldl step world).visit context =
      (context.own events).foldl Visit.step (world.visit context) := by
  induction events generalizing world with
  | nil => rfl
  | cons event rest ih =>
    obtain ⟨owner, event⟩ := event
    rw [List.foldl_cons, ih]
    by_cases howner : owner = context
    · subst howner
      rw [step_visit_self, Context.own_cons_self, List.foldl_cons]
    · rw [step_visit_ne world howner, Context.own_cons_ne howner]

theorem run_visit (events : List (Context × PlaceEvent)) (context : Context) :
    (run events).visit context = Visit.run context.fresh (context.own events) :=
  foldl_step_visit {} context events

theorem step_owners (world : World) (event : Context × PlaceEvent) :
    (world.step event).shown.map Prod.fst = world.shown.map Prod.fst ++
      if event.2.call?.isSome then [event.1] else [] := by
  obtain ⟨context, event⟩ := event
  cases event with
  | render call => simp [step, PlaceEvent.call?]
  | mount index =>
    simp only [step]
    split <;> simp [PlaceEvent.call?, Context.map_fst_replace]
  | finishFirstRender => simp [step, PlaceEvent.call?]
  | reset => simp [step, PlaceEvent.call?]

theorem run_owners (events : List (Context × PlaceEvent)) :
    (run events).shown.map Prod.fst = (events.filter (·.2.call?.isSome)).map Prod.fst := by
  induction events using List.reverseRecOn with
  | nil => rfl
  | append_singleton events event ih =>
    rw [run_append, List.foldl_cons, List.foldl_nil, step_owners, ih, List.filter_append,
      List.map_append, List.filter_cons, List.filter_nil]
    split <;> rfl

theorem run_visit_filter (events : List (Context × PlaceEvent)) (context : Context) :
    (run (events.filter (·.1 = context))).visit context = (run events).visit context := by
  rw [run_visit, run_visit, Context.own_filter]

theorem run_shown_filter (events : List (Context × PlaceEvent)) (context : Context) :
    (run (events.filter (·.1 = context))).shown = (run events).shown.filter (·.1 = context) := by
  have howner : ∀ entry ∈ (run (events.filter (·.1 = context))).shown, entry.1 = context := by
    intro entry hmem
    have hown := List.mem_map_of_mem (f := Prod.fst) hmem
    rw [run_owners] at hown
    obtain ⟨event, hevent, heq⟩ := List.mem_map.mp hown
    have hfilter := (List.mem_filter.mp (List.mem_filter.mp hevent).1).2
    exact heq.symm.trans (of_decide_eq_true hfilter)
  have hshown : context.own (run (events.filter (·.1 = context))).shown =
      context.own (run events).shown :=
    congrArg Visit.shown (run_visit_filter events context)
  calc
    (run (events.filter (·.1 = context))).shown
    _ = (run (events.filter (·.1 = context))).shown.filter (·.1 = context) :=
      (List.filter_eq_self.mpr fun entry hmem => decide_eq_true (howner entry hmem)).symm
    _ = (context.own (run (events.filter (·.1 = context))).shown).map (context, ·) :=
      (Context.map_own _).symm
    _ = (context.own (run events).shown).map (context, ·) := by rw [hshown]
    _ = (run events).shown.filter (·.1 = context) := Context.map_own _

theorem flatMap_injected {shown : List (Context × Shown)}
    (hquiet : ∀ entry ∈ shown, entry.1 ≠ .browser → entry.2.injected = []) :
    shown.flatMap (·.2.injected) = (shown.filter (·.1 = .browser)).flatMap (·.2.injected) := by
  induction shown with
  | nil => rfl
  | cons entry rest ih =>
    obtain ⟨hentry, hrest⟩ := List.forall_mem_cons.mp hquiet
    rw [List.flatMap_cons, ih hrest]
    by_cases hbrowser : entry.1 = .browser
    · simp [hbrowser]
    · simp [hbrowser, hentry hbrowser]

theorem run_document (events : List (Context × PlaceEvent)) :
    (run events).document = (run (events.filter (·.1 = .browser))).document := by
  rw [document, document, run_shown_filter]
  refine flatMap_injected ?_
  rintro ⟨context, shown⟩ hmem hserver
  have hfresh : context.fresh.isBrowser = false := by
    cases context with
    | browser => exact absurd rfl hserver
    | server number => rfl
  have hown : shown ∈ ((run events).visit context).shown := Context.mem_own hmem
  rw [run_visit] at hown
  exact Visit.run_injected hfresh _ shown hown

theorem contexts_isolated (events : List (Context × PlaceEvent)) (context : Context) :
    let whole := run events
    let alone := run (events.filter (·.1 = context))
    whole.place context = alone.place context ∧
      whole.shown.filter (·.1 = context) = alone.shown ∧
      whole.document = (run (events.filter (·.1 = .browser))).document := by
  have hvisit := run_visit_filter events context
  have hshown := run_shown_filter events context
  exact ⟨congrArg Visit.place hvisit.symm, hshown.symm, run_document events⟩

end World

end ScopedStyles
