import ScopedStyles.Proofs.InlineStyles

namespace ScopedStyles

namespace Renderer

structure Pass.Agrees (pass other : Pass) : Prop where
  record_eq : pass.place.record = other.place.record
  styled_eq : pass.styled = other.styled
  first : pass.place.firstRenderDone = false
  first_other : other.place.firstRenderDone = false

variable {pass other : Pass}

theorem step_agrees (h : pass.Agrees other) (renderer : Renderer) (chunk : Chunk) :
    (renderer.step pass chunk).Agrees (renderer.step other chunk) := by
  have hcontains : pass.place.contains chunk.className = other.place.contains chunk.className := by
    rw [Place.contains, h.record_eq, Place.contains]
  obtain ⟨hplace, hstyled⟩ := step_of_first renderer h.first chunk
  obtain ⟨hplace', hstyled'⟩ := step_of_first renderer h.first_other chunk
  rw [← hcontains] at hplace' hstyled'
  constructor
  · rw [hplace, hplace']
    split <;> simp [h.record_eq]
  · rw [hstyled, hstyled', h.styled_eq]
  · rw [step_keeps Place.firstRenderDone Place.firstRenderDone_mark, h.first]
  · rw [step_keeps Place.firstRenderDone Place.firstRenderDone_mark, h.first_other]

theorem foldl_step_agrees (h : pass.Agrees other) (renderer : Renderer) (chunks : List Chunk) :
    (chunks.foldl renderer.step pass).Agrees (chunks.foldl renderer.step other) := by
  induction chunks generalizing pass other with
  | nil => exact h
  | cons chunk rest ih => exact ih (step_agrees h renderer chunk)

end Renderer

namespace Visit

structure Agrees (visit other : Visit) : Prop where
  record_eq : visit.place.record = other.place.record
  rendered_eq : visit.shown.map Shown.rendered = other.shown.map Shown.rendered
  first : visit.place.firstRenderDone = false
  first_other : other.place.firstRenderDone = false

variable {visit other : Visit}

theorem render_agrees (h : visit.Agrees other) (call : Call) :
    (visit.step (.render call)).Agrees (other.step (.render call)) := by
  have hstart : Renderer.Pass.Agrees { place := visit.place } { place := other.place } :=
    ⟨h.record_eq, rfl, h.first, h.first_other⟩
  have hpass : (call.render visit.place).2.Agrees (call.render other.place).2 :=
    Renderer.foldl_step_agrees hstart call.renderer call.chunks
  have hrendered : (call.render visit.place).1 = (call.render other.place).1 := by
    have hstyle : (call.render visit.place).1.style = (call.render other.place).1.style := by
      rw [Call.render_style, Call.render_style, hpass.styled_eq, h.first, h.first_other]
    exact congrArg (Rendered.mk · call.element) hstyle
  constructor
  · exact hpass.record_eq
  · simp only [step, List.map_append, List.map_singleton, h.rendered_eq, hrendered]
  · exact hpass.first
  · exact hpass.first_other

def rendering (visit : Visit) (calls : List Call) : Visit :=
  calls.foldl (fun visit call => visit.step (.render call)) visit

theorem rendering_agrees (h : visit.Agrees other) (calls : List Call) :
    (visit.rendering calls).Agrees (other.rendering calls) := by
  induction calls generalizing visit other with
  | nil => exact h
  | cons call rest ih => exact ih (render_agrees h call)

theorem step_eq_self {event : PlaceEvent} (hcall : event.call? = none) (hreset : event ≠ .reset)
    (hfirst : (visit.step event).place.firstRenderDone = false) : visit.step event = visit := by
  cases event with
  | render call => cases hcall
  | mount index =>
    rw [step] at hfirst ⊢
    split at hfirst
    · rename_i shown hshown
      rcases shown.rendered.mount_cases visit.place with ⟨hmount, -⟩ | ⟨_, _, -, -, hmount⟩
      · obtain ⟨hlt, rfl⟩ := List.getElem?_eq_some_iff.mp hshown
        have hshown : visit.shown.set index visit.shown[index] = visit.shown :=
          List.set_getElem_self hlt
        rw [hmount]
        exact congrArg (Visit.mk visit.place) hshown
      · rw [hmount] at hfirst
        cases hfirst
    · rfl
  | finishFirstRender =>
    cases hplace : visit.place with
    | browser browser =>
      rw [step, hplace] at hfirst
      cases hfirst
    | server server =>
      rw [step, hplace, Place.finishFirstRender, ← hplace]
  | reset => exact absurd rfl hreset

theorem foldl_step_eq_rendering {events : List PlaceEvent} (hreset : .reset ∉ events)
    (hfirst : (events.foldl step visit).place.firstRenderDone = false) :
    events.foldl step visit = visit.rendering (events.filterMap PlaceEvent.call?) := by
  induction events generalizing visit with
  | nil => rfl
  | cons event rest ih =>
    obtain ⟨hevent, hrest⟩ := List.ne_and_not_mem_of_not_mem_cons hreset
    have hstep : (visit.step event).place.firstRenderDone = false := by
      cases hdone : (visit.step event).place.firstRenderDone with
      | false => rfl
      | true => exact (foldl_step_firstRenderDone hdone hrest).symm.trans hfirst
    rw [List.foldl_cons, ih hrest hfirst]
    cases hcall : event.call? with
    | none => rw [step_eq_self hcall hevent.symm hstep, List.filterMap_cons_none hcall]
    | some call =>
      rw [List.filterMap_cons_some hcall, PlaceEvent.call?_eq_some hcall]
      rfl

theorem run_eq_rendering {place : Place} {events : List PlaceEvent} (hreset : .reset ∉ events)
    (hfirst : (run place events).place.firstRenderDone = false) :
    run place events = rendering { place } (events.filterMap PlaceEvent.call?) :=
  foldl_step_eq_rendering hreset hfirst

end Visit

theorem first_render_matches (number : Nat) (onServer onPage : List PlaceEvent)
    (hcalls : onServer.filterMap PlaceEvent.call? = onPage.filterMap PlaceEvent.call?)
    (hserver : .reset ∉ onServer) (hpage : .reset ∉ onPage)
    (hfirst : (Visit.run Context.browser.fresh onPage).place.firstRenderDone = false) :
    let server := Visit.run (Context.server number).fresh onServer
    let page := Visit.run Context.browser.fresh onPage
    server.shown.map (·.rendered) = page.shown.map (·.rendered) ∧
      server.shown.map (·.rendered.html) = page.shown.map (·.rendered.html) ∧
      server.place.record = page.place.record := by
  have hfirst' : (Visit.run (Context.server number).fresh onServer).place.firstRenderDone = false :=
    Place.firstRenderDone_server (Visit.run_isBrowser _ onServer)
  have hfresh : Visit.Agrees { place := (Context.server number).fresh }
      { place := Context.browser.fresh } := ⟨by simp, rfl, by simp, by simp⟩
  have hagrees := Visit.rendering_agrees hfresh (onServer.filterMap PlaceEvent.call?)
  rw [← Visit.run_eq_rendering hserver hfirst', hcalls, ← Visit.run_eq_rendering hpage hfirst]
    at hagrees
  have hhtml := congrArg (List.map Rendered.html) hagrees.rendered_eq
  rw [List.map_map, List.map_map] at hhtml
  exact ⟨hagrees.rendered_eq, hhtml, hagrees.record_eq⟩

theorem first_render_matches_card :
    let card : Call := ⟨⟨Compiler.wrap, .production⟩, "<div>", [⟨"card", "color: red", ""⟩]⟩
    let onServer : List PlaceEvent := [.render card, .mount 0, .render card]
    let onPage : List PlaceEvent := [.render card, .render card, .mount 1]
    (onServer.filterMap PlaceEvent.call? = onPage.filterMap PlaceEvent.call? ∧
      .reset ∉ onServer ∧ .reset ∉ onPage ∧
      (Visit.run Context.browser.fresh onPage).place.firstRenderDone = false) ∧
    (Visit.run (Context.server 0).fresh onServer).shown.map (·.rendered.html) =
      (Visit.run Context.browser.fresh onPage).shown.map (·.rendered.html) := by
  intro card onServer onPage
  have hserver : .reset ∉ onServer := by simp [onServer]
  have hpage : .reset ∉ onPage := by simp [onPage]
  have hfirst : (Visit.run Context.browser.fresh onPage).place.firstRenderDone = false := by
    decide
  exact ⟨⟨rfl, hserver, hpage, hfirst⟩,
    (first_render_matches 0 onServer onPage rfl hserver hpage hfirst).2.1⟩

end ScopedStyles
