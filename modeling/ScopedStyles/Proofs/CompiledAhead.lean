import ScopedStyles.Build.Expansion
import ScopedStyles.Page.Description
import ScopedStyles.Proofs.Markers

namespace ScopedStyles

open JavaScript

structure Evaluation (World : Type) where
  value : Tree → World → String × World
  value_text : ∀ text world, value (.text text) world = (text, world)

namespace Evaluation

variable {World : Type}

def values (evaluation : Evaluation World) : List Tree → World → List String × World
  | [], world => ([], world)
  | tree :: rest, world =>
    let (text, world) := evaluation.value tree world
    let (texts, world) := evaluation.values rest world
    (text :: texts, world)

def joined? (evaluation : Evaluation World) : Tree → World → Option (String × World)
  | .call _ (.node .member [.node (.array _) elements, .word "join"]) [separator], world =>
    let (texts, world) := evaluation.values elements world
    let (separator, world) := evaluation.value separator world
    some (separator.intercalate texts, world)
  | _, _ => none

end Evaluation

namespace Template

def enclose (front back : String) : List String → List String
  | [] => []
  | [last] => [front ++ last ++ back]
  | chunk :: next :: rest => (front ++ chunk) :: enclose "" back (next :: rest)

variable {front back : String}

theorem length_enclose (chunks : List String) :
    (enclose front back chunks).length = chunks.length := by
  induction chunks generalizing front with
  | nil => rfl
  | cons chunk rest ih =>
    cases rest with
    | nil => rfl
    | cons next rest => simp [enclose, ih]

theorem enclose_ne_nil {chunks : List String} (h : chunks ≠ []) :
    enclose front back chunks ≠ [] := by
  rw [← List.length_pos_iff, length_enclose]
  exact List.length_pos_iff.mpr h

theorem fill_enclose {chunks : List String} (h : chunks ≠ []) (gap : Nat → String)
    (index : Nat) :
    String.join (interleave.fill gap (enclose front back chunks) index) =
      front ++ String.join (interleave.fill gap chunks index) ++ back := by
  induction chunks generalizing front index with
  | nil => exact absurd rfl h
  | cons chunk rest ih =>
    cases rest with
    | nil => simp [enclose, interleave.fill]
    | cons next rest =>
      have hne := List.cons_ne_nil next rest
      rw [enclose, fill_cons (enclose_ne_nil hne), fill_cons hne]
      simp only [String.join_cons, ih hne, String.empty_append, String.append_assoc]

theorem join_enclose {chunks values : List String} (h : chunks.length = values.length + 1) :
    join (enclose front back chunks) values = front ++ join chunks values ++ back := by
  induction chunks generalizing front values with
  | nil => cases h
  | cons chunk rest ih =>
    cases rest with
    | nil =>
      obtain rfl := List.eq_nil_of_length_eq_zero (Nat.succ.inj h).symm
      rfl
    | cons next rest =>
      cases values with
      | nil => cases h
      | cons value values =>
        simp only [enclose, join, ih (Nat.succ.inj h), String.empty_append, String.append_assoc]

end Template

namespace Marker

def stem : List Char := "__BEMED".toList

theorem stem_of_opening {text tail : List Char} (htail : tail.length ≤ 5)
    (h : opening <:+: text ++ tail) : stem <:+: text := by
  have h : stem ++ "_VAR_".toList <:+: text ++ tail := h
  exact Text.infix_of_infix_append htail h

theorem opening_absent {front text tail : List Char}
    (hfront : front = [] ∨ front = Compiler.stand.toList ++ ['\x7b'])
    (htext : ¬ stem <:+: text) (htail : tail.length ≤ 5) :
    ¬ opening <:+: front ++ (text ++ tail) := by
  rintro hpart
  rcases hfront with rfl | rfl
  · exact htext (stem_of_opening htail hpart)
  · rw [List.append_assoc] at hpart
    rcases Text.infix_append_cons (by decide) hpart with hstand | hbody
    · exact absurd hstand (by decide)
    · exact htext (stem_of_opening htail hbody)

theorem occursInChars_eq_false {text : List Char} (h : ¬ opening <:+: text) :
    occursInChars text = false := by
  refine Bool.eq_false_iff.mpr fun hoccurs => ?_
  obtain ⟨marker, ⟨digits, -, -, rfl⟩, hpart⟩ := occursInChars_iff.mp hoccurs
  have hopening : opening <:+: opening ++ digits ++ closing := by
    rw [List.append_assoc]
    exact List.infix_append_left
  exact h (hopening.trans hpart)

end Marker

namespace Template

open Marker

theorem separable_of_opening_absent {chunks : List String}
    (h : ∀ chunk ∈ chunks, ¬ opening <:+: chunk.toList ++ closing) : Separable chunks := by
  induction chunks with
  | nil => trivial
  | cons chunk rest ih =>
    obtain ⟨hchunk, hrest⟩ := List.forall_mem_cons.mp h
    cases rest with
    | nil =>
      exact occursInChars_eq_false fun hpart => hchunk (hpart.trans List.infix_append_left)
    | cons next rest => exact ⟨occursInChars_eq_false hchunk, ih hrest⟩

theorem opening_absent_enclose {front back : String} {chunks : List String}
    (hfront : front.toList = [] ∨ front.toList = Compiler.stand.toList ++ ['\x7b'])
    (hback : back.toList.length ≤ 3) (h : ∀ chunk ∈ chunks, ¬ stem <:+: chunk.toList) :
    ∀ chunk ∈ enclose front back chunks, ¬ opening <:+: chunk.toList ++ closing := by
  induction chunks generalizing front with
  | nil => simp [enclose]
  | cons chunk rest ih =>
    obtain ⟨hchunk, hrest⟩ := List.forall_mem_cons.mp h
    cases rest with
    | nil =>
      refine List.forall_mem_singleton.mpr ?_
      rw [String.toList_append, String.toList_append, List.append_assoc, List.append_assoc]
      refine opening_absent hfront hchunk ?_
      have hclosing : closing.length = 2 := rfl
      rw [List.length_append]
      omega
    | cons next rest =>
      refine List.forall_mem_cons.mpr ⟨?_, ih (.inl rfl) hrest⟩
      rw [String.toList_append, List.append_assoc]
      exact opening_absent hfront hchunk (by decide)

end Template

namespace Expansion

variable {holes : List Tree}

def IsLiteral (holes : List Tree) (text : String) : Prop :=
  (Marker.index? text).bind (holes[·]?) = none

theorem elements_literal {text : String} (h : IsLiteral holes text) (rest : List String) :
    elements holes (text :: rest) = .text text :: elements holes rest := by
  rw [IsLiteral] at h
  simp [elements, h]

theorem elements_token {index : Nat} (hindex : index < UInt64.size) {hole : Tree}
    (h : holes[index]? = some hole) (rest : List String) :
    elements holes (Marker.token index :: rest) = hole :: elements holes rest := by
  simp [elements, Marker.index?_token hindex, h]

end Expansion

namespace Evaluation

variable {World : Type} (evaluation : Evaluation World)

theorem values_cons (tree : Tree) (rest : List Tree) (world : World) :
    evaluation.values (tree :: rest) world =
      let first := evaluation.value tree world
      (first.1 :: (evaluation.values rest first.2).1, (evaluation.values rest first.2).2) := by
  rw [values]

theorem length_values (trees : List Tree) (world : World) :
    (evaluation.values trees world).1.length = trees.length := by
  induction trees generalizing world with
  | nil => rfl
  | cons tree rest ih => simp [values_cons, ih]

theorem values_literal_elements {holes : List Tree} (hbound : holes.length ≤ UInt64.size)
    {chunks : List String} {index : Nat} (hlength : chunks.length = (holes.drop index).length + 1)
    (hchunks : ∀ chunk ∈ chunks, Expansion.IsLiteral holes chunk) (world : World) :
    let made := evaluation.values
      (Expansion.elements holes (Template.interleave.fill Marker.token chunks index)) world
    let given := evaluation.values (holes.drop index) world
    String.join made.1 = Template.join chunks given.1 ∧ made.2 = given.2 := by
  induction chunks generalizing index world with
  | nil => simp at hlength
  | cons chunk rest ih =>
    obtain ⟨hchunk, hrest⟩ := List.forall_mem_cons.mp hchunks
    cases hdrop : holes.drop index with
    | nil =>
      rw [hdrop] at hlength
      obtain rfl := List.eq_nil_of_length_eq_zero (Nat.succ.inj hlength)
      rw [Template.interleave.fill, Expansion.elements_literal hchunk, values_cons,
        evaluation.value_text]
      simp [Expansion.elements, values, Template.join]
    | cons hole later =>
      have hhole : holes[index]? = some hole := by
        rw [← List.head?_drop, hdrop, List.head?_cons]
      have hlater : holes.drop (index + 1) = later := by
        rw [← List.tail_drop, hdrop, List.tail_cons]
      have hindex : index < holes.length := (List.getElem?_eq_some_iff.mp hhole).1
      have hlength : rest.length = later.length + 1 := by
        rw [hdrop] at hlength
        exact Nat.succ.inj hlength
      have hne : rest ≠ [] := List.ne_nil_of_length_eq_add_one hlength
      obtain ⟨htexts, hworld⟩ :=
        ih (hlater ▸ hlength) hrest (evaluation.value hole world).2
      rw [hlater] at htexts hworld
      rw [Template.fill_cons hne, Expansion.elements_literal hchunk,
        Expansion.elements_token (hindex.trans_le hbound) hhole]
      simp only [values_cons, evaluation.value_text, String.join_cons, htexts, hworld,
        Template.join, String.append_assoc, and_self]

theorem values_elements {holes : List Tree} (hbound : holes.length < UInt64.size)
    {chunks : List String} {index : Nat} (hlength : chunks.length = (holes.drop index).length + 1)
    (hchunks : ∀ chunk ∈ chunks, ¬ Marker.opening <+: chunk.toList) (world : World) :
    let made := evaluation.values
      (Expansion.elements holes (Template.interleave.fill Marker.token chunks index)) world
    let given := evaluation.values (holes.drop index) world
    String.join made.1 = Template.join chunks given.1 ∧ made.2 = given.2 :=
  evaluation.values_literal_elements hbound.le hlength
    (fun chunk hmem => by rw [Expansion.IsLiteral, Marker.index?_eq_none (hchunks chunk hmem)]; rfl)
    world

end Evaluation

section Wrapped

variable {chunks : List String} (hchunks : ∀ chunk ∈ chunks, ¬ Marker.stem <:+: chunk.toList)

include hchunks

theorem Template.opening_absent_wrapped :
    ∀ chunk ∈ enclose (Compiler.stand ++ "\x7b") "\x7d" chunks,
      ¬ Marker.opening <:+: chunk.toList ++ Marker.closing :=
  opening_absent_enclose (.inr String.toList_append) (by decide) hchunks

theorem Marker.split_wrapped (hne : chunks ≠ []) :
    split (Compiler.wrap Compiler.stand (String.join (Template.tokens chunks))) =
      Template.tokens (Template.enclose (Compiler.stand ++ "\x7b") "\x7d" chunks) := by
  have hjoin : Compiler.wrap Compiler.stand (String.join (Template.tokens chunks)) =
      String.join (Template.tokens (Template.enclose (Compiler.stand ++ "\x7b") "\x7d" chunks)) :=
    (Template.fill_enclose hne token 0).symm
  rw [hjoin]
  exact Template.split_tokens (Template.enclose_ne_nil hne)
    (Template.separable_of_opening_absent (Template.opening_absent_wrapped hchunks))

end Wrapped

theorem Compiler.precompiled_wrap {body : String}
    (h : ¬ stand.toList <:+: body.toList) (selector : String) :
    precompiled selector (wrap stand body) = wrap selector body := by
  have hrest : ¬ stand.toList <:+: ("\x7b" ++ body ++ "\x7d").toList := by
    intro hpart
    have hpart : stand.toList <:+: [] ++ '\x7b' :: (body.toList ++ '\x7d' :: []) := by
      simpa using hpart
    rcases Text.infix_append_cons (by decide) hpart with hnil | hpart
    · exact absurd (List.infix_nil.mp hnil) (by decide)
    · rcases Text.infix_append_cons (by decide) hpart with hbody | hnil
      · exact h hbody
      · exact absurd (List.infix_nil.mp hnil) (by decide)
  unfold precompiled wrap
  rw [String.append_assoc, String.append_assoc, Text.replaceAll_append (by decide),
    ← String.append_assoc, Text.replaceAll_of_absent selector hrest]
  simp only [String.append_assoc]

theorem Expansion.expandTemplate_compiled {job : Job} {state : Expansion} {tag : String}
    {chunks : List String} (hcompiler : job.settings.compiler = Compiler.wrap)
    (hprecompile : job.settings.options.precompile = true) (htag : state.cssAlias = some tag)
    (hfresh : state.session.cached? (String.join (Template.tokens chunks)) = none)
    (start : Option Site) (holes : List Tree) :
    (state.expandTemplate job start (.identifier tag) chunks holes).1 =
      callFor job start (.identifier tag) holes
        (Marker.split (Compiler.wrap Compiler.stand (String.join (Template.tokens chunks)))) := by
  simp [expandTemplate, isTracked, htag, piecesOf, hprecompile, Session.compile, hfresh, hcompiler]

theorem Expansion.compiled_ahead {World : Type} (evaluation : Evaluation World) (world : World)
    (job : Job) (state : Expansion) (start : Option Site) (tag : String)
    (chunks : List String) (holes : List Tree) (cssTag : CssTag) (selector : String)
    (hcompiler : job.settings.compiler = Compiler.wrap)
    (hprecompile : job.settings.options.precompile = true) (htag : state.cssAlias = some tag)
    (hgaps : chunks.length = holes.length + 1) (hbound : holes.length < UInt64.size)
    (hfresh : state.session.cached? (String.join (Template.tokens chunks)) = none)
    (hchunks : ∀ chunk ∈ chunks, ¬ "__BEMED".toList <:+: chunk.toList)
    (hvalues : ¬ "__BEMED__".toList <:+:
      (Template.join chunks (evaluation.values holes world).1).toList) :
    ∃ expression text, (state.expandTemplate job start (.identifier tag) chunks holes).1 =
        .call start (.identifier tag) [expression, .text (job.sourceMap start)] ∧
      evaluation.joined? expression world = some (text, (evaluation.values holes world).2) ∧
      Compiler.precompiled selector text =
        Compiler.wrap selector (cssTag.template chunks (evaluation.values holes world).1).text := by
  have hne : chunks ≠ [] := List.ne_nil_of_length_eq_add_one hgaps
  have hfree : ∀ chunk ∈ Template.enclose (Compiler.stand ++ "\x7b") "\x7d" chunks,
      ¬ Marker.opening <+: chunk.toList := fun chunk hmem hstarts =>
    Template.opening_absent_wrapped hchunks chunk hmem
      (hstarts.isInfix.trans List.infix_append_left)
  have hlength : (Template.enclose (Compiler.stand ++ "\x7b") "\x7d" chunks).length =
      (holes.drop 0).length + 1 := by
    rw [Template.length_enclose, hgaps, List.drop_zero]
  obtain ⟨htexts, hworld⟩ := evaluation.values_elements hbound hlength hfree world
  rw [List.drop_zero] at htexts hworld
  rw [Template.join_enclose (by rw [evaluation.length_values, hgaps])] at htexts
  rw [expandTemplate_compiled hcompiler hprecompile htag hfresh, Marker.split_wrapped hchunks hne]
  refine ⟨_, _, rfl, ?_, Compiler.precompiled_wrap hvalues selector⟩
  simp only [Evaluation.joined?, evaluation.value_text, Text.intercalate_empty]
  exact congrArg some (Prod.ext htexts hworld)

def Evaluation.takingTurns : Evaluation (List String) where
  value
    | .string literal, world => (literal.value, world)
    | _, world => (world.headD "", world.tail)
  value_text _ _ := rfl

theorem Expansion.compiled_ahead_card :
    let job : Job := ⟨{ compiler := Compiler.wrap }, some "card.js", none⟩
    let state : Expansion := { session := {}, cssAlias := some "css" }
    let chunks := ["color: ", "; margin: ", ";"]
    let holes : List Tree := [.identifier "tone", .call none (.identifier "gap") []]
    (job.settings.options.precompile = true ∧ chunks.length = holes.length + 1 ∧
      state.session.cached? (String.join (Template.tokens chunks)) = none ∧
      (∀ chunk ∈ chunks, ¬ "__BEMED".toList <:+: chunk.toList) ∧
      ¬ "__BEMED__".toList <:+:
        (Template.join chunks (Evaluation.takingTurns.values holes ["red", "1px"]).1).toList) ∧
    ∃ expression text, (state.expandTemplate job none (.identifier "css") chunks holes).1 =
        .call none (.identifier "css") [expression, .text ""] ∧
      Evaluation.takingTurns.joined? expression ["red", "1px"] = some (text, []) ∧
      Compiler.precompiled ".Card" text = ".Card\x7bcolor: red; margin: 1px;\x7d" := by
  refine ⟨⟨rfl, rfl, by decide, by decide, by decide⟩, ?_⟩
  obtain ⟨expression, text, hcall, hjoined, hcss⟩ := compiled_ahead Evaluation.takingTurns
    ["red", "1px"] ⟨{ compiler := Compiler.wrap }, some "card.js", none⟩
    { session := {}, cssAlias := some "css" } none "css" ["color: ", "; margin: ", ";"]
    [.identifier "tone", .call none (.identifier "gap") []] (CssTag.precompiled .production) ".Card"
    rfl rfl rfl rfl (by decide) (by decide) (by decide) (by decide)
  exact ⟨expression, text, hcall, hjoined, hcss.trans (by decide)⟩

end ScopedStyles
