import ScopedStyles.Proofs.NamedComponents

namespace ScopedStyles

open JavaScript Expansion

namespace LiteralNames

def NameKey : Tree → Prop
  | .word text => text = "name"
  | .string literal => literal.value = "name"
  | _ => False

def IsOther (property : Tree) : Prop :=
  ∃ key value, property = .property key value ∧ ¬ NameKey key

def NamedOnce (properties : List Tree) (key : Tree) (text : String) : Prop :=
  ∃ before spelling after, properties = before ++ .property key (.string ⟨text, spelling⟩) :: after ∧
    NameKey key ∧ text ≠ "" ∧ ∀ property ∈ before ++ after, IsOther property

def heardName? (key : Tree) (text : String) : Option String :=
  match key with
  | .word _ => some text
  | _ => none

theorem literalName?_other {property : Tree} (h : IsOther property) :
    literalName? [property] = none := by
  obtain ⟨key, value, rfl, hkey⟩ := h
  simp only [literalName?, List.findSome?_cons, List.findSome?_nil]
  split
  · rename_i hfound
    split at hfound
    · rename_i heq
      cases heq
      exact absurd rfl hkey
    · cases hfound
  · rfl

theorem literalName?_others {properties : List Tree} (h : ∀ property ∈ properties, IsOther property)
    (rest : List Tree) : literalName? (properties ++ rest) = literalName? rest := by
  induction properties with
  | nil => rfl
  | cons property others ih =>
    obtain ⟨hfirst, hothers⟩ := List.forall_mem_cons.mp h
    rw [List.cons_append, SecondPass.literalName?_cons, literalName?_other hfirst, Option.none_or]
    exact ih hothers

theorem literalName?_namedOnce {properties : List Tree} {key : Tree} {text : String}
    (h : NamedOnce properties key text) : literalName? properties = heardName? key text := by
  obtain ⟨before, spelling, after, rfl, hkey, -, hothers⟩ := h
  obtain ⟨hbefore, hafter⟩ := List.forall_mem_append.mp hothers
  have hrest : literalName? after = none := by
    simpa [literalName?] using literalName?_others hafter []
  rw [literalName?_others hbefore, SecondPass.literalName?_cons, hrest, Option.or_none]
  cases key with
  | word word =>
    obtain rfl : word = "name" := hkey
    rfl
  | _ => rfl

variable {job : Job} {file : String} {session : Session} {program : Program} {making : Making}
  {moment : Expansion} {key : Tree} {text : String}

theorem ownName?_namedOnce (h : NamedOnce making.properties key text) :
    making.ownName? = heardName? key text := by
  have hliteral := literalName?_namedOnce h
  obtain ⟨before, spelling, after, -, -, htext, -⟩ := h
  rw [Making.ownName?, hliteral]
  cases key with
  | word word => simp [heardName?, htext]
  | _ => rfl

/-- A text under the key `name`, the only one of an object, is the name of the component if the key
is written as a word: nothing is put in front of it, and another component of this name is refused,
in whatever file. If the key is quoted, the name is that of a component without any. -/
theorem literal_name_heard (h : job.Makes file session program making moment)
    (hnamed : NamedOnce making.properties key text) :
    let heard := heardName? key text
    let name := (heard.or (making.generatedName? job file)).getD making.binding
    let added := if heard.isSome then [] else [nameProperty name]
    ((job.run session program).failure = none → ∃ properties others,
      (visit job making.source moment).1 =
        making.declarator (.object (added ++ properties) making.hasComma :: others) ∧
      List.Forall₂ (Transformed job moment) making.properties properties ∧
      List.Forall₂ (Transformed job moment) making.others others) ∧
    (job.settings.checksUniqueNames = true → session.hasSeen file = false →
      ((job.run session program).failure = none →
        (job.run session program).session.name? name = some ⟨file, job.lineOf making.start⟩) ∧
      ∀ record, session.name? name = some record →
        (job.run session program).failure.isSome = true ∧
        (moment.hasFailed = false → (job.run session program).failure =
          some (.duplicateName name record.file record.line))) := by
  intro heard name added
  have hown : making.ownName? = heard := ownName?_namedOnce hnamed
  have hname : making.name job file = name := by rw [Making.name, hown]
  have hlacking : making.lacking job file = added := by rw [Making.lacking, hown, hname]
  constructor
  · intro hok
    obtain ⟨hproperties, hothers⟩ := h.transformed hok
    refine ⟨_, _, ?_, hproperties, hothers⟩
    rw [h.visit_eq hok, hlacking]
  · intro hchecks hunseen
    rw [← hname]
    constructor
    · intro hok
      exact h.registered hok hchecks hunseen
    · intro record hrecord
      exact h.refused hchecks hunseen hrecord

def fancy (binding : String) (key : Tree) : Making where
  binding := binding
  maker := "make"
  start := none
  arguments := [.object [.property (.word "as") (.text "a"), .property key (.text "Fancy"),
    .property (.string ⟨"css", none⟩) (.identifier "style")] false]

theorem makes_fancy (file binding : String) (key : Tree) (session : Session) :
    (Job.inProduction file).Makes file session (fancy binding key).program (fancy binding key)
      (visitItems (Job.inProduction file) Item.imports { session }).2 :=
  Making.makes_program rfl session rfl (.inr ⟨_, _, _, rfl⟩)

theorem namedOnce_fancy (binding : String) {key : Tree} (hkey : NameKey key) :
    NamedOnce (fancy binding key).properties key "Fancy" := by
  refine ⟨[_], none, [_], rfl, hkey, by decide, ?_⟩
  intro property hmem
  simp only [List.singleton_append, List.mem_cons, List.not_mem_nil, or_false] at hmem
  rcases hmem with rfl | rfl <;> exact ⟨_, _, rfl, by simp [NameKey]⟩

theorem literal_name_heard_twice :
    let card := fancy "Card" (.word "name")
    let tile := fancy "Tile" (.word "name")
    let first := (Job.inProduction "card.js").run {} card.program
    let moment :=
      (visitItems (Job.inProduction "tile.js") Item.imports { session := first.session }).2
    ((Job.inProduction "card.js").Makes "card.js" {} card.program card
        (visitItems (Job.inProduction "card.js") Item.imports { session := {} }).2 ∧
      (Job.inProduction "tile.js").Makes "tile.js" first.session tile.program tile moment ∧
      NamedOnce card.properties (.word "name") "Fancy" ∧
      NamedOnce tile.properties (.word "name") "Fancy") ∧
    first.session.name? "Fancy" = some ⟨"card.js", 0⟩ ∧
    ((Job.inProduction "tile.js").run first.session tile.program).failure =
      some (.duplicateName "Fancy" "card.js" 0) := by
  intro card tile first moment
  have hcard := makes_fancy "card.js" "Card" (.word "name") {}
  have htile := makes_fancy "tile.js" "Tile" (.word "name") first.session
  have honce : NamedOnce card.properties (.word "name") "Fancy" := namedOnce_fancy "Card" rfl
  have honce' : NamedOnce tile.properties (.word "name") "Fancy" := namedOnce_fancy "Tile" rfl
  have hok : first.failure = none := by decide +kernel
  have hfirst : first.session.name? "Fancy" = some ⟨"card.js", 0⟩ :=
    ((literal_name_heard hcard honce).2 rfl rfl).1 hok
  have hunseen : first.session.hasSeen "tile.js" = false := by decide +kernel
  obtain ⟨-, hrefused⟩ := (literal_name_heard htile honce').2 rfl hunseen
  exact ⟨⟨hcard, htile, honce, honce'⟩, hfirst, (hrefused _ hfirst).2 (by decide +kernel)⟩

theorem quoted_name_hidden :
    ¬ ∀ (job : Job) (file : String) (session : Session) (program : Program) (making : Making)
        (moment : Expansion) (key : Tree) (text : String),
      job.Makes file session program making moment → NamedOnce making.properties key text →
      (job.run session program).failure = none →
      (∃ properties others,
        (visit job making.source moment).1 =
          making.declarator (.object properties making.hasComma :: others) ∧
        properties.length = making.properties.length) ∧
      (job.settings.checksUniqueNames = true → session.hasSeen file = false →
        (job.run session program).session.name? text = some ⟨file, job.lineOf making.start⟩) := by
  intro heard
  have hquoted := heard _ "card.js" {} _ _ _ _ _
    (makes_fancy "card.js" "Card" (.string ⟨"name", none⟩) {})
    (namedOnce_fancy "Card" rfl) (by decide +kernel)
  have hentered := hquoted.2 rfl rfl
  have hnone : ((Job.inProduction "card.js").run {}
      (fancy "Card" (.string ⟨"name", none⟩)).program).session.name? "Fancy" = none := by
    decide +kernel
  cases hnone.symm.trans hentered

end LiteralNames

end ScopedStyles
