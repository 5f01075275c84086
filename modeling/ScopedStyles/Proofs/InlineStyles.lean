import Mathlib.Data.List.Nodup
import ScopedStyles.Proofs.ByteOrder
import ScopedStyles.Proofs.Visits

namespace ScopedStyles

namespace Chunk

def firstOfEach : List Chunk → List Chunk
  | [] => []
  | chunk :: rest => chunk :: (firstOfEach rest).filter (·.className != chunk.className)

def newcomers (record : RenderRecord) (chunks : List Chunk) : List Chunk :=
  (firstOfEach chunks).filter (!record.contains ·.className)

variable {record : RenderRecord} {chunk : Chunk} {chunks rest : List Chunk}

theorem mem_firstOfEach {name : String} :
    name ∈ (firstOfEach chunks).map className ↔ ∃ chunk ∈ chunks, chunk.className = name := by
  induction chunks with
  | nil => simp [firstOfEach]
  | cons chunk rest ih =>
    rw [List.mem_map] at ih
    simp only [firstOfEach, List.map_cons, List.mem_cons, List.mem_map, List.mem_filter,
      bne_iff_ne, exists_eq_or_imp, ← ih, eq_comm (a := name)]
    by_cases hname : chunk.className = name
    · simp [hname]
    · have hrest : ∀ later : Chunk, later.className = name → later.className ≠ chunk.className :=
        fun later hlater hsame => hname (hsame.symm.trans hlater)
      constructor
      · rintro (hfirst | ⟨later, ⟨hmem, -⟩, hlater⟩)
        · exact .inl hfirst
        · exact .inr ⟨later, hmem, hlater⟩
      · rintro (hfirst | ⟨later, hmem, hlater⟩)
        · exact .inl hfirst
        · exact .inr ⟨later, ⟨hmem, hrest later hlater⟩, hlater⟩

theorem nodup_firstOfEach : ((firstOfEach chunks).map className).Nodup := by
  induction chunks with
  | nil => exact List.nodup_nil
  | cons chunk rest ih =>
    rw [firstOfEach, List.map_cons, List.nodup_cons]
    constructor
    · simp
    · exact ih.sublist (List.filter_sublist.map className)

theorem newcomers_known (h : record.contains chunk.className = true) :
    newcomers record (chunk :: rest) = newcomers record rest := by
  rw [newcomers, firstOfEach, List.filter_cons_of_neg (by simp [h]), List.filter_filter, newcomers]
  refine List.filter_congr fun later _ => ?_
  by_cases hclass : later.className = chunk.className
  · simp [hclass, h]
  · simp [hclass]

theorem newcomers_unknown (h : record.contains chunk.className = false) :
    newcomers record (chunk :: rest) = chunk :: newcomers (record.mark chunk.className) rest := by
  rw [newcomers, firstOfEach, List.filter_cons_of_pos (by simp [h]), List.filter_filter, newcomers]
  congr 1
  refine List.filter_congr fun later _ => ?_
  rw [RenderRecord.contains_mark, Bool.not_or, bne]

theorem mem_newcomers {name : String} :
    name ∈ (newcomers record chunks).map className ↔
      record.contains name = false ∧ ∃ chunk ∈ chunks, chunk.className = name := by
  rw [← mem_firstOfEach]
  simp only [newcomers, List.mem_map, List.mem_filter, Bool.not_eq_true']
  constructor
  · rintro ⟨chunk, ⟨hmem, hnew⟩, rfl⟩
    exact ⟨hnew, chunk, hmem, rfl⟩
  · rintro ⟨hnew, chunk, hmem, rfl⟩
    exact ⟨chunk, ⟨hmem, hnew⟩, rfl⟩

theorem nodup_newcomers : ((newcomers record chunks).map className).Nodup :=
  nodup_firstOfEach.sublist (List.filter_sublist.map className)

end Chunk

namespace Renderer

variable {renderer : Renderer}

def styling (renderer : Renderer) (chunk : Chunk) : String × String :=
  (chunk.className, renderer.compiler ("." ++ chunk.className) chunk.css)

theorem map_fst_styling (chunks : List Chunk) :
    (chunks.map renderer.styling).map Prod.fst = chunks.map Chunk.className :=
  List.map_map

theorem map_snd_styling (renderer : Renderer) (chunks : List Chunk) :
    (chunks.map renderer.styling).map Prod.snd =
      chunks.map fun chunk => renderer.compiler ("." ++ chunk.className) chunk.css :=
  List.map_map

theorem step_of_first (renderer : Renderer) {pass : Pass}
    (hfirst : pass.place.firstRenderDone = false) (chunk : Chunk) :
    (renderer.step pass chunk).place =
        (if pass.place.contains chunk.className then pass.place
          else pass.place.mark chunk.className) ∧
      (renderer.step pass chunk).styled =
        if pass.place.contains chunk.className then pass.styled
        else pass.styled ++ [renderer.styling chunk] := by
  have hrepeats : renderer.allowsReinjection pass.place = false := by
    simp [allowsReinjection, hfirst]
  unfold step
  rw [hrepeats]
  cases pass.place.contains chunk.className <;> exact ⟨rfl, rfl⟩

theorem foldl_step_styled (chunks : List Chunk) {pass : Pass}
    (hfirst : pass.place.firstRenderDone = false) :
    (chunks.foldl renderer.step pass).styled =
      pass.styled ++ (Chunk.newcomers pass.place.record chunks).map renderer.styling := by
  induction chunks generalizing pass with
  | nil => simp [Chunk.newcomers, Chunk.firstOfEach]
  | cons chunk rest ih =>
    have hstill : (renderer.step pass chunk).place.firstRenderDone = false := by
      rw [step_keeps Place.firstRenderDone Place.firstRenderDone_mark, hfirst]
    obtain ⟨hplace, hstyled⟩ := step_of_first renderer hfirst chunk
    rw [List.foldl_cons, ih hstill, hplace, hstyled]
    cases hknown : pass.place.contains chunk.className with
    | true => rw [if_pos rfl, if_pos rfl, Chunk.newcomers_known hknown]
    | false =>
      rw [if_neg Bool.false_ne_true, if_neg Bool.false_ne_true, Place.record_mark,
        Chunk.newcomers_unknown hknown, List.map_cons, List.append_assoc, List.singleton_append]

end Renderer

theorem Call.render_styled (call : Call) {place : Place}
    (hfirst : place.firstRenderDone = false) :
    (call.render place).2.styled =
      (Chunk.newcomers place.record call.chunks).map call.renderer.styling :=
  Renderer.foldl_step_styled call.chunks hfirst

theorem pairwise_bytes_mergeSort {names : List String} (h : names.Nodup) :
    (names.mergeSort (· ≤ ·)).Pairwise (Text.bytes · < Text.bytes ·) := by
  have hsorted : (names.mergeSort (· ≤ ·)).Pairwise (fun a b => decide (a ≤ b) = true) := by
    refine List.pairwise_mergeSort ?_ ?_ names
    · intro a b c hab hbc
      exact decide_eq_true (String.le_trans (of_decide_eq_true hab) (of_decide_eq_true hbc))
    · intro a b
      simpa using String.le_total a b
  have hdistinct : (names.mergeSort (· ≤ ·)).Nodup :=
    (List.mergeSort_perm names _).nodup_iff.mpr h
  refine hsorted.imp₂ (fun a b hle hne => ?_) hdistinct
  refine Text.bytes_lt_bytes (Decidable.byContradiction fun hnot => hne ?_)
  exact String.le_antisymm (of_decide_eq_true hle) (String.not_lt.mp hnot)

structure Turn where
  call : Call
  before : Place

namespace Turn

def rendered (turn : Turn) : Rendered :=
  (turn.call.render turn.before).1

def after (turn : Turn) : Place :=
  (turn.call.render turn.before).2.place

def adds (turn : Turn) (name : String) : Bool :=
  turn.after.contains name && !turn.before.contains name

structure Tagged (turn : Turn) : Prop where
  element_eq : turn.rendered.element = turn.call.element
  style_iff : turn.rendered.style.isSome = true ↔ ∃ name, turn.adds name = true
  key_eq : ∀ style, turn.rendered.style = some style → ∃ names : List String,
    style.key = ",".intercalate names ∧ names.Pairwise (Text.bytes · < Text.bytes ·) ∧
      ∀ name, name ∈ names ↔ turn.adds name = true
  css_eq : ∀ style, turn.rendered.style = some style →
    style.css = "\n".intercalate
      (((Chunk.firstOfEach turn.call.chunks).filter (turn.adds ·.className)).map fun chunk =>
        turn.call.renderer.compiler ("." ++ chunk.className) chunk.css)

variable {turn : Turn}

theorem adds_iff {name : String} : turn.adds name = true ↔
    turn.before.contains name = false ∧ ∃ chunk ∈ turn.call.chunks, chunk.className = name := by
  rw [adds, Bool.and_eq_true, after, Call.render_contains, Bool.not_eq_true']
  constructor
  · rintro ⟨hbefore | hchunk, hnew⟩
    · rw [hbefore] at hnew
      cases hnew
    · exact ⟨hnew, hchunk⟩
  · rintro ⟨hnew, hchunk⟩
    exact ⟨.inr hchunk, hnew⟩

theorem after_contains {name : String} : turn.after.contains name = true ↔
    turn.before.contains name = true ∨ turn.adds name = true := by
  rw [adds_iff, after, Call.render_contains]
  cases turn.before.contains name <;> simp

theorem mem_newcomers {name : String} :
    name ∈ (Chunk.newcomers turn.before.record turn.call.chunks).map Chunk.className ↔
      turn.adds name = true := by
  rw [Chunk.mem_newcomers, adds_iff]
  rfl

theorem newcomers_eq : Chunk.newcomers turn.before.record turn.call.chunks =
    (Chunk.firstOfEach turn.call.chunks).filter (turn.adds ·.className) := by
  refine List.filter_congr fun chunk hmem => ?_
  obtain ⟨first, hfirst, hclass⟩ := Chunk.mem_firstOfEach.mp (List.mem_map_of_mem hmem)
  rw [Bool.eq_iff_iff, adds_iff, Bool.not_eq_true']
  exact ⟨fun hnew => ⟨hnew, first, hfirst, hclass⟩, fun h => h.1⟩

theorem rendered_style (hfirst : turn.before.firstRenderDone = false) :
    turn.rendered.style =
      if (Chunk.newcomers turn.before.record turn.call.chunks).isEmpty then none
      else some (turn.call.renderer.inlineStyle
        ((Chunk.newcomers turn.before.record turn.call.chunks).map turn.call.renderer.styling)) := by
  rw [rendered, Call.render_style, Call.render_styled _ hfirst, hfirst, Bool.or_false,
    List.isEmpty_map]

theorem eq_inlineStyle (hfirst : turn.before.firstRenderDone = false) {style : InlineStyle}
    (h : turn.rendered.style = some style) :
    style = turn.call.renderer.inlineStyle
      ((Chunk.newcomers turn.before.record turn.call.chunks).map turn.call.renderer.styling) := by
  rw [rendered_style hfirst] at h
  split at h
  · cases h
  · exact (Option.some.inj h).symm

theorem tagged (hfirst : turn.before.firstRenderDone = false) : turn.Tagged where
  element_eq := rfl
  style_iff := by
    simp only [rendered_style hfirst, ← mem_newcomers]
    cases Chunk.newcomers turn.before.record turn.call.chunks with
    | nil => simp
    | cons chunk rest => exact ⟨fun _ => ⟨chunk.className, List.mem_cons_self⟩, fun _ => rfl⟩
  key_eq style h := by
    rw [eq_inlineStyle hfirst h]
    refine ⟨_, rfl, pairwise_bytes_mergeSort ?_, fun name => ?_⟩
    · rw [Renderer.map_fst_styling]
      exact Chunk.nodup_newcomers
    · rw [(List.mergeSort_perm _ _).mem_iff, Renderer.map_fst_styling]
      exact mem_newcomers
  css_eq style h := by
    rw [eq_inlineStyle hfirst h, ← newcomers_eq]
    exact congrArg "\n".intercalate (Renderer.map_snd_styling _ _)

end Turn

def turns : Place → List Call → List Turn
  | _, [] => []
  | place, call :: rest => ⟨call, place⟩ :: turns (Turn.after ⟨call, place⟩) rest

def placeAfter (place : Place) (calls : List Call) : Place :=
  calls.foldl (fun place call => Turn.after ⟨call, place⟩) place

variable {calls : List Call} {place : Place} {turn : Turn}

theorem turns_firstRenderDone (hmem : turn ∈ turns place calls) :
    turn.before.firstRenderDone = place.firstRenderDone := by
  induction calls generalizing place with
  | nil => cases hmem
  | cons call rest ih =>
    rcases List.mem_cons.mp hmem with rfl | hmem
    · rfl
    · exact (ih hmem).trans (call.render_firstRenderDone place)

theorem placeAfter_contains (place : Place) (calls : List Call) (name : String) :
    (placeAfter place calls).contains name = true ↔
      place.contains name = true ∨ ∃ call ∈ calls, ∃ chunk ∈ call.chunks, chunk.className = name := by
  induction calls generalizing place with
  | nil => simp [placeAfter]
  | cons call rest ih =>
    have hstep : placeAfter place (call :: rest) = placeAfter (call.render place).2.place rest := rfl
    rw [hstep, ih, Call.render_contains, or_assoc]
    simp only [List.mem_cons, exists_eq_or_imp]

theorem turns_contains (hmem : turn ∈ turns place calls) {name : String}
    (h : place.contains name = true) : turn.before.contains name = true := by
  induction calls generalizing place with
  | nil => cases hmem
  | cons call rest ih =>
    rcases List.mem_cons.mp hmem with rfl | hmem
    · exact h
    · exact ih hmem ((call.render_contains place name).mpr (.inl h))

theorem turns_disjoint : (turns place calls).Pairwise fun earlier later =>
    ∀ name, ¬ (earlier.adds name = true ∧ later.adds name = true) := by
  induction calls generalizing place with
  | nil => exact .nil
  | cons call rest ih =>
    refine .cons ?_ ih
    rintro later hmem name ⟨hearlier, hlater⟩
    rw [Turn.adds, Bool.and_eq_true] at hearlier
    have hbefore := turns_contains hmem hearlier.1
    rw [(Turn.adds_iff.mp hlater).1] at hbefore
    cases hbefore

theorem turns_cover (place : Place) (calls : List Call) (name : String) :
    (placeAfter place calls).contains name = true ↔
      place.contains name = true ∨ ∃ turn ∈ turns place calls, turn.adds name = true := by
  induction calls generalizing place with
  | nil => simp [placeAfter, turns]
  | cons call rest ih =>
    have hstep : placeAfter place (call :: rest) = placeAfter (Turn.after ⟨call, place⟩) rest := rfl
    rw [hstep, ih, Turn.after_contains, or_assoc, turns]
    simp only [List.mem_cons, exists_eq_or_imp]

/-- Calls in a place where nothing has happened yet: a result has a style tag if the call brings a
class into the record, and the tag holds just these classes. So no class is in two tags, and each
class that a chunk had is in one. Once the first render of a page is over, and until a reset, there
are no style tags. -/
theorem styles_cover (context : Context) (calls : List Call) :
    let turns := turns context.fresh calls
    let record := (placeAfter context.fresh calls).record
    (∀ turn ∈ turns, turn.Tagged) ∧
      (turns.Pairwise fun earlier later =>
        ∀ name, ¬ (earlier.adds name = true ∧ later.adds name = true)) ∧
      (∀ name, record.contains name = true ↔ ∃ turn ∈ turns, turn.adds name = true) ∧
      (∀ name, record.contains name = true ↔
        ∃ call ∈ calls, ∃ chunk ∈ call.chunks, chunk.className = name) ∧
      ∀ (before since : List PlaceEvent) (call : Call),
        (Visit.run Context.browser.fresh before).place.firstRenderDone = true → .reset ∉ since →
        (call.render (Visit.run Context.browser.fresh (before ++ since)).place).1 =
          ⟨none, call.element⟩ := by
  have hempty : ∀ name, context.fresh.contains name = false := by
    intro name
    rw [Place.contains, Context.fresh_record]
    rfl
  refine ⟨?_, turns_disjoint, ?_, ?_, ?_⟩
  · intro turn hmem
    exact Turn.tagged ((turns_firstRenderDone hmem).trans context.fresh_firstRenderDone)
  · intro name
    have hcover := turns_cover context.fresh calls name
    simp only [hempty, Bool.false_eq_true, false_or] at hcover
    exact hcover
  · intro name
    have hcontains := placeAfter_contains context.fresh calls name
    simp only [hempty, Bool.false_eq_true, false_or] at hcontains
    exact hcontains
  · intro before since call hdone hreset
    have hstill := Visit.foldl_step_firstRenderDone hdone hreset
    rw [← Visit.run_append] at hstill
    have hstyle := call.render_style (Visit.run Context.browser.fresh (before ++ since)).place
    rw [hstill, Bool.or_true, if_pos rfl] at hstyle
    exact congrArg (Rendered.mk · call.element) hstyle

end ScopedStyles
