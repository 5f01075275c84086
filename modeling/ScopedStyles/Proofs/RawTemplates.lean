import ScopedStyles.Proofs.CompiledAhead
import ScopedStyles.Proofs.Decoding
import ScopedStyles.Proofs.UntouchedCode

namespace ScopedStyles

open JavaScript Expansion

namespace RawTemplates

open Untouched

variable {job : Job} {state : Expansion} {holes : List Tree}

theorem isLiteral_iff {text : String} :
    IsLiteral holes text ↔ ∀ number < holes.length, ¬ Marker.Reads text number := by
  simp only [IsLiteral, Option.bind_eq_none_iff, List.getElem?_eq_none_iff,
    Marker.index?_eq_some_iff]
  constructor
  · intro h number hnumber hreads
    exact absurd hnumber (Nat.not_lt.mpr (h number hreads))
  · intro h number hreads
    exact Nat.not_lt.mp fun hnumber => h number hnumber hreads

theorem getElem?_elements {pieces : List String} {piece : String} {place : Nat}
    (h : pieces[place]? = some piece) :
    (elements holes pieces)[place]? = (elements holes [piece])[0]? := by
  simp [elements, h]

theorem element_literal {pieces : List String} {text : String} {place : Nat}
    (h : pieces[place]? = some text) (hliteral : IsLiteral holes text) :
    (elements holes pieces)[place]? = some (.text text) := by
  rw [getElem?_elements h, elements_literal hliteral]
  rfl

theorem element_reads {pieces : List String} {piece : String} {place number : Nat}
    (h : pieces[place]? = some piece) (hreads : Marker.Reads piece number)
    (hnumber : number < holes.length) :
    (elements holes pieces)[place]? = holes[number]? := by
  rw [getElem?_elements h]
  simp [elements, Marker.index?_eq_some_iff.mpr hreads, hnumber]

theorem reads_token {number : Nat} (h : number < UInt64.size) :
    Marker.Reads (Marker.token number) number :=
  Marker.index?_eq_some_iff.mp (Marker.index?_token h)

theorem visit_raw (hraw : job.settings.options.precompile = false) (hok : state.hasFailed = false)
    {tag : String} (htag : state.cssAlias = some tag) (start : Option Site)
    (chunks : List String) (holes : List Tree) :
    visit job (.tagged start (.identifier tag) chunks holes) state =
      (.call start (.identifier tag) [
          joined (elements (visitAll job holes state).1 (Template.tokens chunks)),
          .text (job.sourceMap start)],
        (visitAll job holes state).2) := by
  have hafter : (visitAll job holes state).2.cssAlias = some tag :=
    (visitAll_reaches holes state).cssAlias.trans htag
  rw [visit_tagged hok, visit_identifier]
  simp [expandTemplate, isTracked, hafter, piecesOf, hraw, callFor, joined]

/-- Without compilation beforehand, the array that a template becomes has every expression, as the
visit leaves it, behind the literal text in front of it. A literal text stays a text, unless it
reads as the marker of an expression: then that expression stands in its place. If no text does,
the array is joined to the text that the page makes of the template. -/
theorem raw_array {World : Type} (evaluation : Evaluation World) (world : World) (job : Job)
    (state : Expansion) (start : Option Site) (tag : String) (chunks : List String)
    (holes : List Tree) (cssTag : CssTag) (hraw : job.settings.options.precompile = false)
    (hok : state.hasFailed = false) (htag : state.cssAlias = some tag)
    (hgaps : chunks.length = holes.length + 1) (hbound : holes.length ≤ UInt64.size) :
    let seen := visitAll job holes state
    ∃ elements,
      visit job (.tagged start (.identifier tag) chunks holes) state =
        (.call start (.identifier tag) [joined elements, .text (job.sourceMap start)], seen.2) ∧
      elements.length = 2 * holes.length + 1 ∧
      (∀ index < holes.length, elements[2 * index + 1]? = seen.1[index]?) ∧
      (∀ index chunk, chunks[index]? = some chunk →
        (∀ number < holes.length, ¬ Marker.Reads chunk number) →
        elements[2 * index]? = some (.text chunk)) ∧
      (∀ index chunk, chunks[index]? = some chunk →
        ∀ number < holes.length, Marker.Reads chunk number →
        elements[2 * index]? = seen.1[number]?) ∧
      ((∀ chunk ∈ chunks, ∀ number < holes.length, ¬ Marker.Reads chunk number) →
        evaluation.joined? (joined elements) world =
          some ((cssTag.template chunks (evaluation.values seen.1 world).1).text,
            (evaluation.values seen.1 world).2)) := by
  intro seen
  have hlength : seen.1.length = holes.length := length_visitAll holes state
  refine ⟨_, visit_raw hraw hok htag start chunks holes, ?_, ?_, ?_, ?_, ?_⟩
  · rw [elements, List.length_map, Template.tokens, Template.interleave,
      Template.length_fill _ _ hgaps]
  · intro index hindex
    have hmarker : (Template.tokens chunks)[2 * index + 1]? = some (Marker.token (0 + index)) :=
      Template.getElem?_fill_gap Marker.token 0 (by omega)
    rw [Nat.zero_add] at hmarker
    exact element_reads hmarker (reads_token (hindex.trans_le hbound)) (hlength.symm ▸ hindex)
  · intro index chunk hchunk hliteral
    rw [← Template.getElem?_fill_chunk Marker.token 0] at hchunk
    exact element_literal hchunk (isLiteral_iff.mpr (hlength.symm ▸ hliteral))
  · intro index chunk hchunk number hnumber hreads
    rw [← Template.getElem?_fill_chunk Marker.token 0] at hchunk
    exact element_reads hchunk hreads (hlength.symm ▸ hnumber)
  · intro hliteral
    have hliteral : ∀ chunk ∈ chunks, IsLiteral seen.1 chunk := fun chunk hmem =>
      isLiteral_iff.mpr (hlength.symm ▸ hliteral chunk hmem)
    have hgaps : chunks.length = (seen.1.drop 0).length + 1 := by
      rw [List.drop_zero, hlength, hgaps]
    obtain ⟨htexts, hworld⟩ :=
      evaluation.values_literal_elements (hlength.symm ▸ hbound) hgaps hliteral world
    rw [List.drop_zero] at htexts hworld
    simp only [joined, Evaluation.joined?, evaluation.value_text, Text.intercalate_empty]
    exact congrArg some (Prod.ext htexts hworld)

theorem raw_array_like_markers :
    let job : Job :=
      ⟨{ options := { precompile := false }, compiler := Compiler.wrap }, some "card.js", none⟩
    let state : Expansion := { session := {}, cssAlias := some "css" }
    let chunks := ["__BEMED_VAR_2__", " + ", "__BEMED_VAR_x__"]
    let holes : List Tree := [.identifier "tone", .call none (.identifier "gap") []]
    (job.settings.options.precompile = false ∧ state.hasFailed = false ∧
      chunks.length = holes.length + 1 ∧ holes.length ≤ UInt64.size ∧
      ∀ chunk ∈ chunks, ∀ number < holes.length, ¬ Marker.Reads chunk number) ∧
    ∃ elements, (visit job (.tagged none (.identifier "css") chunks holes) state).1 =
        .call none (.identifier "css") [joined elements, .text ""] ∧
      elements[4]? = some (.text "__BEMED_VAR_x__") ∧
      Evaluation.takingTurns.joined? (joined elements) ["red", "1px"] =
        some ("__BEMED_VAR_2__red + 1px__BEMED_VAR_x__", []) := by
  intro job state chunks holes
  have hliteral : ∀ chunk ∈ chunks, ∀ number < holes.length, ¬ Marker.Reads chunk number := by
    simp only [← Marker.index?_eq_some_iff]
    decide
  obtain ⟨elements, hvisit, -, -, htext, -, hjoined⟩ := raw_array Evaluation.takingTurns
    ["red", "1px"] job state none "css" chunks holes (CssTag.precompiled .production) rfl rfl rfl rfl
    (by decide)
  refine ⟨⟨rfl, rfl, rfl, by decide, hliteral⟩, elements, congrArg Prod.fst hvisit, ?_, ?_⟩
  · exact htext 2 "__BEMED_VAR_x__" rfl (hliteral _ (by decide))
  · exact (hjoined hliteral).trans (by decide)

theorem literal_marker_lost :
    ¬ ∀ (job : Job) (state : Expansion) (start : Option Site) (tag : String)
        (chunks : List String) (holes : List Tree),
      job.settings.options.precompile = false → state.hasFailed = false →
      state.cssAlias = some tag → chunks.length = holes.length + 1 →
      ∃ elements map, (visit job (.tagged start (.identifier tag) chunks holes) state).1 =
          .call start (.identifier tag) [joined elements, map] ∧
        ∀ index chunk, chunks[index]? = some chunk → elements[2 * index]? = some (.text chunk) := by
  intro hkept
  obtain ⟨elements, map, hvisit, htexts⟩ := hkept
    ⟨{ options := { precompile := false }, compiler := Compiler.wrap }, some "a.js", none⟩
    { session := {}, cssAlias := some "css" } none "css" ["__BEMED_VAR_0__", ""]
    [.identifier "size"] rfl rfl rfl rfl
  rw [visit_raw rfl rfl rfl] at hvisit
  have hfirst := htexts 0 "__BEMED_VAR_0__" rfl
  simp only [joined, Tree.call.injEq, Tree.node.injEq, List.cons.injEq, true_and, and_true] at hvisit
  rw [← hvisit.1] at hfirst
  cases hfirst

end RawTemplates

end ScopedStyles
