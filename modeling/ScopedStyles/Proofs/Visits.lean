import Mathlib.Data.List.Induction
import ScopedStyles.Page.Renderer

namespace ScopedStyles

namespace Place

@[simp] theorem record_mark (place : Place) (className : String) :
    (place.mark className).record = place.record.mark className := by
  cases place <;> rfl

@[simp] theorem isBrowser_mark (place : Place) (className : String) :
    (place.mark className).isBrowser = place.isBrowser := by
  cases place <;> rfl

@[simp] theorem firstRenderDone_mark (place : Place) (className : String) :
    (place.mark className).firstRenderDone = place.firstRenderDone := by
  cases place <;> rfl

theorem contains_mark (place : Place) (className name : String) :
    (place.mark className).contains name = (place.contains name || name == className) := by
  rw [contains, record_mark, RenderRecord.contains_mark, contains]

end Place

namespace Renderer

variable {renderer : Renderer} {pass : Pass}

theorem step_cases (renderer : Renderer) (pass : Pass) (chunk : Chunk) :
    (pass.place.contains chunk.className = true ∧ renderer.step pass chunk = pass) ∨
      ∃ styled injected calls, (pass.place.isBrowser = false → injected = pass.injected) ∧
        renderer.step pass chunk =
          ⟨pass.place.mark chunk.className, styled, injected, calls⟩ := by
  unfold step
  split
  · rename_i hskip
    rw [Bool.and_eq_true] at hskip
    exact .inl ⟨hskip.1, rfl⟩
  · refine .inr ⟨_, _, _, ?_, rfl⟩
    intro hserver
    rw [hserver]
    rfl

theorem step_keeps {α : Type} (view : Place → α)
    (hmark : ∀ place className, view (place.mark className) = view place) (chunk : Chunk) :
    view (renderer.step pass chunk).place = view pass.place := by
  rcases step_cases renderer pass chunk with ⟨-, h⟩ | ⟨_, _, _, -, h⟩
  · rw [h]
  · rw [h, hmark]

theorem step_injected (hserver : pass.place.isBrowser = false) (chunk : Chunk) :
    (renderer.step pass chunk).injected = pass.injected := by
  rcases step_cases renderer pass chunk with ⟨-, h⟩ | ⟨_, _, _, hinjected, h⟩
  · rw [h]
  · rw [h]
    exact hinjected hserver

theorem step_contains (chunk : Chunk) (name : String) :
    (renderer.step pass chunk).place.contains name = true ↔
      pass.place.contains name = true ∨ chunk.className = name := by
  rcases step_cases renderer pass chunk with ⟨hseen, h⟩ | ⟨_, _, _, -, h⟩
  · rw [h]
    constructor
    · exact .inl
    · rintro (hname | rfl)
      · exact hname
      · exact hseen
  · rw [h, Place.contains_mark, Bool.or_eq_true, beq_iff_eq, eq_comm (a := name)]

theorem foldl_step_keeps {α : Type} (view : Place → α)
    (hmark : ∀ place className, view (place.mark className) = view place) (chunks : List Chunk)
    (pass : Pass) : view (chunks.foldl renderer.step pass).place = view pass.place := by
  induction chunks generalizing pass with
  | nil => rfl
  | cons chunk rest ih => rw [List.foldl_cons, ih, step_keeps view hmark]

theorem foldl_step_injected (chunks : List Chunk) {pass : Pass}
    (hserver : pass.place.isBrowser = false) :
    (chunks.foldl renderer.step pass).injected = pass.injected := by
  induction chunks generalizing pass with
  | nil => rfl
  | cons chunk rest ih =>
    have hstep : (renderer.step pass chunk).place.isBrowser = false := by
      rw [step_keeps Place.isBrowser Place.isBrowser_mark, hserver]
    rw [List.foldl_cons, ih hstep, step_injected hserver]

theorem foldl_step_contains (chunks : List Chunk) (pass : Pass) (name : String) :
    (chunks.foldl renderer.step pass).place.contains name = true ↔
      pass.place.contains name = true ∨ ∃ chunk ∈ chunks, chunk.className = name := by
  induction chunks generalizing pass with
  | nil => simp
  | cons chunk rest ih =>
    rw [List.foldl_cons, ih, step_contains, or_assoc]
    simp only [List.mem_cons, exists_eq_or_imp]

end Renderer

structure Call where
  renderer : Renderer
  element : String
  chunks : List Chunk

namespace Call

def render (call : Call) (place : Place) : Rendered × Renderer.Pass :=
  call.renderer.render call.element call.chunks place

variable (call : Call) (place : Place)

@[simp] theorem render_isBrowser : (call.render place).2.place.isBrowser = place.isBrowser :=
  Renderer.foldl_step_keeps Place.isBrowser Place.isBrowser_mark call.chunks { place }

@[simp] theorem render_firstRenderDone :
    (call.render place).2.place.firstRenderDone = place.firstRenderDone :=
  Renderer.foldl_step_keeps Place.firstRenderDone Place.firstRenderDone_mark call.chunks { place }

theorem render_injected (hserver : place.isBrowser = false) :
    (call.render place).2.injected = [] :=
  Renderer.foldl_step_injected call.chunks hserver

theorem render_contains (name : String) :
    (call.render place).2.place.contains name = true ↔
      place.contains name = true ∨ ∃ chunk ∈ call.chunks, chunk.className = name :=
  Renderer.foldl_step_contains call.chunks { place } name

theorem render_style :
    (call.render place).1.style =
      if (call.render place).2.styled.isEmpty || place.firstRenderDone then none
      else some (call.renderer.inlineStyle (call.render place).2.styled) := by
  rw [← render_firstRenderDone call place]
  rfl

end Call

theorem Rendered.mount_cases (rendered : Rendered) (place : Place) :
    (rendered.mount place = (rendered, place) ∧
        (rendered.style.isSome = true → place.isBrowser = false)) ∨
      ∃ style browser, rendered.style = some style ∧ place = .browser browser ∧
        rendered.mount place = (⟨some { style with removed := true }, rendered.element⟩,
          .browser browser.finishFirstRender) := by
  obtain ⟨style, element⟩ := rendered
  cases style with
  | none => exact .inl ⟨rfl, fun h => by cases h⟩
  | some style =>
    cases place with
    | browser browser => exact .inr ⟨style, browser, rfl, rfl, rfl⟩
    | server server => exact .inl ⟨rfl, fun _ => rfl⟩

@[simp] theorem Rendered.mount_isBrowser (rendered : Rendered) (place : Place) :
    (rendered.mount place).2.isBrowser = place.isBrowser := by
  rcases rendered.mount_cases place with ⟨h, -⟩ | ⟨_, browser, -, rfl, h⟩ <;> rw [h]
  rfl

namespace Place

def finishFirstRender : Place → Place
  | browser b => browser b.finishFirstRender
  | server s => server s

def reset : Place → Place
  | browser _ => browser .fresh
  | server s => server s

theorem finishFirstRender_isBrowser (place : Place) :
    place.finishFirstRender.isBrowser = place.isBrowser := by
  cases place <;> rfl

theorem reset_isBrowser (place : Place) : place.reset.isBrowser = place.isBrowser := by
  cases place <;> rfl

theorem firstRenderDone_server {place : Place} (h : place.isBrowser = false) :
    place.firstRenderDone = false := by
  cases place with
  | browser browser => cases h
  | server server => rfl

end Place

inductive PlaceEvent where
  | render (call : Call)
  | mount (index : Nat)
  | finishFirstRender
  | reset

def PlaceEvent.call? : PlaceEvent → Option Call
  | .render call => some call
  | _ => none

theorem PlaceEvent.call?_eq_some {event : PlaceEvent} {call : Call} (h : event.call? = some call) :
    event = .render call := by
  cases event <;> cases h
  rfl

structure Shown where
  rendered : Rendered
  injected : List Injection

structure Visit where
  place : Place
  shown : List Shown := []

namespace Visit

def step (visit : Visit) : PlaceEvent → Visit
  | .render call =>
    let (rendered, pass) := call.render visit.place
    ⟨pass.place, visit.shown ++ [⟨rendered, pass.injected⟩]⟩
  | .mount index =>
    match visit.shown[index]? with
    | some shown =>
      let (rendered, place) := shown.rendered.mount visit.place
      ⟨place, visit.shown.set index { shown with rendered }⟩
    | none => visit
  | .finishFirstRender => { visit with place := visit.place.finishFirstRender }
  | .reset => { visit with place := visit.place.reset }

def run (place : Place) (events : List PlaceEvent) : Visit :=
  events.foldl step { place }

theorem run_append (place : Place) (before since : List PlaceEvent) :
    run place (before ++ since) = since.foldl step (run place before) :=
  List.foldl_append

@[simp] theorem step_render_firstRenderDone (visit : Visit) (call : Call) :
    (visit.step (.render call)).place.firstRenderDone = visit.place.firstRenderDone :=
  call.render_firstRenderDone visit.place

@[simp] theorem step_isBrowser (visit : Visit) (event : PlaceEvent) :
    (visit.step event).place.isBrowser = visit.place.isBrowser := by
  cases event with
  | render call => exact call.render_isBrowser visit.place
  | mount index =>
    rw [step]
    split
    · rename_i shown _
      exact shown.rendered.mount_isBrowser visit.place
    · rfl
  | finishFirstRender => exact visit.place.finishFirstRender_isBrowser
  | reset => exact visit.place.reset_isBrowser

theorem run_isBrowser (place : Place) (events : List PlaceEvent) :
    (run place events).place.isBrowser = place.isBrowser := by
  induction events using List.reverseRecOn with
  | nil => rfl
  | append_singleton events event ih => rw [run_append, List.foldl_cons, List.foldl_nil,
      step_isBrowser, ih]

theorem step_firstRenderDone {visit : Visit} (hdone : visit.place.firstRenderDone = true)
    {event : PlaceEvent} (hreset : event ≠ .reset) :
    (visit.step event).place.firstRenderDone = true := by
  cases event with
  | render call => rw [step_render_firstRenderDone, hdone]
  | mount index =>
    rw [step]
    split
    · rename_i shown _
      rcases shown.rendered.mount_cases visit.place with ⟨h, -⟩ | ⟨_, _, -, -, h⟩
      · rw [h]
        exact hdone
      · rw [h]
        rfl
    · exact hdone
  | finishFirstRender =>
    rw [step]
    cases hplace : visit.place with
    | browser browser => rfl
    | server server => rw [hplace] at hdone; cases hdone
  | reset => exact absurd rfl hreset

theorem foldl_step_firstRenderDone {visit : Visit} (hdone : visit.place.firstRenderDone = true)
    {events : List PlaceEvent} (hreset : .reset ∉ events) :
    (events.foldl step visit).place.firstRenderDone = true := by
  induction events generalizing visit with
  | nil => exact hdone
  | cons event rest ih =>
    obtain ⟨hevent, hrest⟩ := List.ne_and_not_mem_of_not_mem_cons hreset
    exact ih (step_firstRenderDone hdone hevent.symm) hrest

end Visit

inductive Context where
  | browser
  | server (number : Nat)
  deriving DecidableEq

def Context.fresh : Context → Place
  | .browser => .browser .fresh
  | .server _ => .server {}

namespace Context

@[simp] theorem fresh_record (context : Context) : context.fresh.record = {} := by
  cases context <;> rfl

@[simp] theorem fresh_firstRenderDone (context : Context) :
    context.fresh.firstRenderDone = false := by
  cases context <;> rfl

end Context

end ScopedStyles
