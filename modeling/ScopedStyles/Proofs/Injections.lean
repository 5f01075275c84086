import Mathlib.Data.List.Basic
import Mathlib.Data.List.Induction
import ScopedStyles.Page.Renderer

namespace ScopedStyles

inductive PageEvent where
  | render (renderer : Renderer) (element : String) (chunks : List Chunk)
  | mount (rendered : Rendered)
  | finishFirstRender
  | reset

def Browser.movedTo (browser : Browser) : Place → Browser
  | .browser next => next
  | .server _ => browser

structure Page where
  browser : Browser := .fresh
  injected : List Injection := []

namespace Page

def step (page : Page) : PageEvent → Page
  | .render renderer element chunks =>
    let pass := (renderer.render element chunks (.browser page.browser)).2
    ⟨page.browser.movedTo pass.place, page.injected ++ pass.injected⟩
  | .mount rendered =>
    { page with browser := page.browser.movedTo (rendered.mount (.browser page.browser)).2 }
  | .finishFirstRender => { page with browser := page.browser.finishFirstRender }
  | .reset => {}

def run (events : List PageEvent) : Page :=
  events.foldl step {}

end Page

structure Offer where
  renderer : Renderer
  chunk : Chunk
  firstRenderDone : Bool

namespace Offer

def className (offer : Offer) : String :=
  offer.chunk.className

def repeats (offer : Offer) : Bool :=
  offer.renderer.mode == .development && offer.firstRenderDone

def enters (offer : Offer) (earlier : List Offer) : Bool :=
  earlier.all (·.className != offer.className) || offer.repeats

def injection (offer : Offer) : Injection :=
  ⟨offer.className, offer.renderer.compiler ("." ++ offer.className) offer.chunk.css,
    offer.chunk.sourceMap⟩

end Offer

structure History where
  offers : List Offer := []
  firstRenderDone : Bool := false

namespace History

def step (history : History) : PageEvent → History
  | .render renderer _ chunks =>
    { history with offers := history.offers ++ chunks.map (⟨renderer, ·, history.firstRenderDone⟩) }
  | .mount rendered =>
    { history with firstRenderDone := history.firstRenderDone || rendered.style.isSome }
  | .finishFirstRender => { history with firstRenderDone := true }
  | .reset => {}

def of (events : List PageEvent) : History :=
  events.foldl step {}

end History

def entering (offers : List Offer) : List Offer :=
  (List.range offers.length).filterMap fun i => offers[i]?.filter (·.enters (offers.take i))

theorem entering_snoc (offers : List Offer) (offer : Offer) :
    entering (offers ++ [offer]) =
      entering offers ++ (if offer.enters offers then [offer] else []) := by
  unfold entering
  rw [List.length_append, List.length_singleton, List.range_succ, List.filterMap_append]
  congr 1
  · refine List.filterMap_congr fun i hi => ?_
    have hlt : i < offers.length := List.mem_range.mp hi
    rw [List.getElem?_append_left hlt, List.take_append_of_le_length (Nat.le_of_lt hlt)]
  · by_cases h : offer.enters offers <;> simp [h, Option.filter]

theorem enters_iff_first {offer : Offer} {earlier : List Offer} (h : offer.repeats = false) :
    offer.enters earlier = true ↔ earlier.find? (·.className = offer.className) = none := by
  simp [Offer.enters, h]

theorem entering_first {offers : List Offer} (h : ∀ offer ∈ offers, offer.repeats = false)
    (className : String) :
    (entering offers).filter (·.className = className) =
      (offers.find? (·.className = className)).toList := by
  induction offers using List.reverseRecOn with
  | nil => rfl
  | append_singleton offers offer ih =>
    have hrest := ih fun earlier hmem => h earlier (List.mem_append_left _ hmem)
    have henters : offer.enters offers = true ↔ _ := enters_iff_first (h offer (by simp))
    rw [entering_snoc, List.filter_append, hrest, List.find?_append]
    by_cases hclass : offer.className = className
    · subst hclass
      cases hfirst : offers.find? (·.className = offer.className) with
      | none => simp [henters.mpr hfirst]
      | some first =>
        have hstays : offer.enters offers = false := by
          rw [← Bool.not_eq_true, henters, hfirst]
          exact Option.some_ne_none first
        simp [hstays]
    · have hother : (if offer.enters offers then [offer] else []).filter
          (·.className = className) = [] := by
        split <;> simp [hclass]
      simp [hother, hclass]

structure Accounted (offers : List Offer) (record : RenderRecord) (injected : List Injection) :
    Prop where
  injected_eq : injected = (entering offers).map Offer.injection
  contains_iff : ∀ className, record.contains className = true ↔
    ∃ offer ∈ offers, offer.className = className
  count_eq : ∀ className, (record.count className).toNat =
    injected.countP (·.className = className) % UInt32.size

namespace Accounted

variable {offers : List Offer} {record : RenderRecord} {injected : List Injection} {offer : Offer}

theorem enters_iff (h : Accounted offers record injected) (offer : Offer) :
    offer.enters offers = true ↔ record.contains offer.className = true → offer.repeats = true := by
  rw [h.contains_iff]
  simp only [Offer.enters, Bool.or_eq_true, List.all_eq_true, bne_iff_ne]
  constructor
  · rintro (hfirst | hrepeats) ⟨earlier, hmem, hclass⟩
    · exact absurd hclass (hfirst earlier hmem)
    · exact hrepeats
  · intro himp
    by_cases hseen : ∃ earlier ∈ offers, earlier.className = offer.className
    · exact .inr (himp hseen)
    · exact .inl fun earlier hmem hclass => hseen ⟨earlier, hmem, hclass⟩

theorem skip (h : Accounted offers record injected) (hseen : record.contains offer.className = true)
    (hstays : offer.enters offers = false) : Accounted (offers ++ [offer]) record injected where
  injected_eq := by simp [entering_snoc, hstays, h.injected_eq]
  contains_iff className := by
    rw [h.contains_iff]
    constructor
    · rintro ⟨earlier, hmem, hclass⟩
      exact ⟨earlier, List.mem_append_left _ hmem, hclass⟩
    · rintro ⟨later, hmem, rfl⟩
      rcases List.mem_append.mp hmem with hmem | hmem
      · exact ⟨later, hmem, rfl⟩
      · obtain rfl := List.mem_singleton.mp hmem
        exact (h.contains_iff _).mp hseen
  count_eq := h.count_eq

theorem mark (h : Accounted offers record injected) (henters : offer.enters offers = true) :
    Accounted (offers ++ [offer]) (record.mark offer.className)
      (injected ++ [offer.injection]) where
  injected_eq := by simp [entering_snoc, henters, h.injected_eq]
  contains_iff className := by
    simp only [RenderRecord.contains_mark, Bool.or_eq_true, beq_iff_eq, h.contains_iff,
      List.mem_append, List.mem_singleton]
    constructor
    · rintro (⟨earlier, hmem, hclass⟩ | rfl)
      · exact ⟨earlier, .inl hmem, hclass⟩
      · exact ⟨offer, .inr rfl, rfl⟩
    · rintro ⟨later, hmem | rfl, hclass⟩
      · exact .inl ⟨later, hmem, hclass⟩
      · exact .inr hclass.symm
  count_eq className := by
    rw [RenderRecord.count_mark, List.countP_append, List.countP_singleton]
    by_cases hclass : className = offer.className
    · subst hclass
      have hcount := h.count_eq offer.className
      simp only [↓reduceIte, UInt32.toNat_add, hcount, Offer.injection, decide_true]
      exact Nat.mod_add_mod _ _ _
    · have hother : offer.injection.className ≠ className := fun he => hclass he.symm
      simp [hclass, hother, h.count_eq className]

end Accounted

def Serves (firstRenderDone : Bool) (before : List Injection) (offers : List Offer)
    (pass : Renderer.Pass) : Prop :=
  ∃ browser, pass.place = .browser browser ∧ browser.firstRenderDone = firstRenderDone ∧
    Accounted offers browser.record (before ++ pass.injected)

variable {firstRenderDone : Bool} {before : List Injection} {offers : List Offer}
  {pass : Renderer.Pass}

theorem step_serves (renderer : Renderer) (chunk : Chunk)
    (h : Serves firstRenderDone before offers pass) :
    Serves firstRenderDone before (offers ++ [⟨renderer, chunk, firstRenderDone⟩])
      (renderer.step pass chunk) := by
  obtain ⟨browser, hplace, rfl, haccounted⟩ := h
  have henters := haccounted.enters_iff ⟨renderer, chunk, browser.firstRenderDone⟩
  have hrepeats : renderer.allowsReinjection pass.place =
      Offer.repeats ⟨renderer, chunk, browser.firstRenderDone⟩ := by
    simp [Renderer.allowsReinjection, Offer.repeats, hplace, Place.isBrowser,
      Place.firstRenderDone]
  have hcontains : pass.place.contains chunk.className =
      browser.record.contains chunk.className := by
    rw [hplace]
    rfl
  unfold Renderer.step
  rw [hrepeats, hcontains]
  split
  · rename_i hskip
    rw [Bool.and_eq_true, Bool.not_eq_true'] at hskip
    refine ⟨browser, hplace, rfl, haccounted.skip hskip.1 ?_⟩
    rw [← Bool.not_eq_true, henters]
    exact fun himp => absurd (himp hskip.1) (by simp [hskip.2])
  · rename_i henter
    simp only [Bool.and_eq_true, Bool.not_eq_true', not_and, Bool.not_eq_false] at henter
    have hmarked : Accounted _ (browser.record.mark chunk.className)
        (before ++ pass.injected ++ [⟨chunk.className,
          renderer.compiler (Renderer.selector chunk.className) chunk.css, chunk.sourceMap⟩]) :=
      haccounted.mark (henters.mpr henter)
    refine ⟨{ browser with record := browser.record.mark chunk.className }, by rw [hplace]; rfl,
      rfl, ?_⟩
    simpa [hplace, Place.isBrowser] using hmarked

theorem run_serves (renderer : Renderer) (chunks : List Chunk)
    (h : Serves firstRenderDone before offers pass) :
    Serves firstRenderDone before (offers ++ chunks.map (⟨renderer, ·, firstRenderDone⟩))
      (chunks.foldl renderer.step pass) := by
  induction chunks generalizing offers pass with
  | nil => simpa using h
  | cons chunk rest ih => simpa using ih (step_serves renderer chunk h)

structure Page.Follows (page : Page) (history : History) : Prop where
  firstRenderDone_eq : page.browser.firstRenderDone = history.firstRenderDone
  accounted : Accounted history.offers page.browser.record page.injected

theorem fresh_follows : Page.Follows {} {} where
  firstRenderDone_eq := rfl
  accounted := ⟨rfl, by simp [Browser.fresh, RenderRecord.contains], by
    simp [Browser.fresh, RenderRecord.count]⟩

theorem step_follows {page : Page} {history : History} (h : page.Follows history)
    (event : PageEvent) : (page.step event).Follows (history.step event) := by
  cases event with
  | render renderer element chunks =>
    have hstart : Serves history.firstRenderDone page.injected history.offers
        { place := .browser page.browser } :=
      ⟨page.browser, rfl, h.firstRenderDone_eq, by simpa using h.accounted⟩
    obtain ⟨browser, hplace, hdone, haccounted⟩ := run_serves renderer chunks hstart
    have hmoved : (page.step (.render renderer element chunks)).browser = browser := by
      simp [Page.step, Renderer.render, Renderer.run, hplace, Browser.movedTo]
    exact ⟨hmoved ▸ hdone, hmoved ▸ haccounted⟩
  | mount rendered =>
    obtain ⟨style, element⟩ := rendered
    cases style with
    | none =>
      refine ⟨?_, h.accounted⟩
      rw [History.step, Option.isSome_none, Bool.or_false]
      exact h.firstRenderDone_eq
    | some style =>
      refine ⟨?_, h.accounted⟩
      rw [History.step, Option.isSome_some, Bool.or_true]
      rfl
  | finishFirstRender => exact ⟨rfl, h.accounted⟩
  | reset => exact fresh_follows

theorem run_follows (events : List PageEvent) : (Page.run events).Follows (.of events) := by
  induction events using List.reverseRecOn with
  | nil => exact fresh_follows
  | append_singleton events event ih =>
    simpa [Page.run, History.of] using step_follows ih event

theorem offers_before (events : List PageEvent) (h : (History.of events).firstRenderDone = false) :
    ∀ offer ∈ (History.of events).offers, offer.firstRenderDone = false := by
  induction events using List.reverseRecOn with
  | nil => simp [History.of]
  | append_singleton events event ih =>
    rw [History.of, List.foldl_concat] at h ⊢
    cases event with
    | render renderer element chunks =>
      intro offer hmem
      rcases List.mem_append.mp hmem with hmem | hmem
      · exact ih h offer hmem
      · obtain ⟨chunk, -, rfl⟩ := List.mem_map.mp hmem
        exact h
    | mount rendered =>
      rw [History.step, Bool.or_eq_false_iff] at h
      exact ih h.1
    | finishFirstRender => cases h
    | reset => simp [History.step]

/-- What enters the document since the page was loaded are the first chunk of each class and the
later ones that may repeat it, each compiled under its class; the record counts them, modulo the
width of its counters. If there was no cause for repeating, each class enters once. -/
theorem injections_exact (events : List PageEvent) (className : String) :
    let page := Page.run events
    let history := History.of events
    let injected := page.injected.filter (·.className = className)
    let first := history.offers.find? (·.className = className)
    page.browser.firstRenderDone = history.firstRenderDone ∧
      page.injected = (entering history.offers).map Offer.injection ∧
      (page.browser.record.contains className = true ↔
        ∃ offer ∈ history.offers, offer.className = className) ∧
      (page.browser.record.count className).toNat = injected.length % UInt32.size ∧
      (history.firstRenderDone = false ∨
          (∀ offer ∈ history.offers, offer.renderer.mode ≠ .development) →
        injected = (first.map Offer.injection).toList) := by
  obtain ⟨hdone, hinjected, hcontains, hcount⟩ := run_follows events
  dsimp only
  refine ⟨hdone, hinjected, hcontains className, ?_, ?_⟩
  · rw [hcount, List.countP_eq_length_filter]
  · intro hcause
    have hnone : ∀ offer ∈ (History.of events).offers, offer.repeats = false := by
      intro offer hmem
      rcases hcause with hnotDone | hmode
      · simp [Offer.repeats, offers_before events hnotDone offer hmem]
      · simp [Offer.repeats, hmode offer hmem]
    have hfirst := congrArg (List.map Offer.injection) (entering_first hnone className)
    rw [hinjected, List.filter_map, Option.toList_map]
    exact hfirst

end ScopedStyles
