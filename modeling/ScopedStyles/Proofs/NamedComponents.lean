import ScopedStyles.Proofs.Encounters
import ScopedStyles.Proofs.SecondPass

namespace ScopedStyles

open JavaScript Expansion

structure Making where
  binding : String
  maker : String
  start : Option Site
  arguments : List Tree

namespace Making

def call (making : Making) (arguments : List Tree) : Tree :=
  .call making.start (.identifier making.maker) arguments

def declarator (making : Making) (arguments : List Tree) : Tree :=
  .declarator (.identifier making.binding) (making.call arguments)

def source (making : Making) : Tree :=
  making.declarator making.arguments

def properties (making : Making) : List Tree :=
  match making.arguments with
  | .object properties _ :: _ => properties
  | _ => []

def hasComma (making : Making) : Bool :=
  match making.arguments with
  | .object _ hasComma :: _ => hasComma
  | _ => false

def others (making : Making) : List Tree :=
  making.arguments.tail

def ownName? (making : Making) : Option String :=
  (literalName? making.properties).filter (· ≠ "")

def generatedName? (making : Making) (job : Job) (file : String) : Option String :=
  (job.settings.generateName.bind fun generate => generate ⟨file, making.binding⟩).filter (· ≠ "")

def name (making : Making) (job : Job) (file : String) : String :=
  (making.ownName?.or (making.generatedName? job file)).getD making.binding

def lacking (making : Making) (job : Job) (file : String) : List Tree :=
  if making.ownName?.isSome then [] else [nameProperty (making.name job file)]

variable {making : Making} {job : Job} {file : String} {state : Expansion}

theorem componentOf?_eq (h : Nameable making.arguments) :
    componentOf? making.binding making.arguments =
      some ((making.ownName?.map Component.named).getD (.bare making.binding)) := by
  obtain ⟨binding, maker, start, arguments⟩ := making
  rcases h with rfl | ⟨properties, hasComma, rest, rfl⟩
  · rfl
  · simp only [componentOf?, ownName?, Making.properties]
    cases literalName? properties with
    | none => rfl
    | some name => by_cases h : name = "" <;> simp [h, Option.filter]

theorem nameFor_eq (making : Making) (job : Job) (file : String) :
    job.settings.nameFor (some file) making.binding =
      (making.generatedName? job file).getD making.binding := by
  unfold Settings.nameFor generatedName?
  cases job.settings.generateName with
  | none => rfl
  | some generate =>
    simp only [Option.bind_some]
    cases generate ⟨file, making.binding⟩ with
    | none => rfl
    | some name => by_cases h : name = "" <;> simp [h, Option.filter]

theorem nameDeclarator_eq (hfile : job.file = some file)
    (hmaker : state.factoryAlias = some making.maker) (h : Nameable making.arguments) :
    state.nameDeclarator job (.identifier making.binding) (making.call making.arguments) =
      let claimed := state.claim job (making.name job file) making.start
      (if making.ownName?.isSome || claimed.hasFailed then none else some (making.name job file),
        claimed) := by
  have hcomponent : component? job state (.identifier making.binding)
      (making.call making.arguments) =
        some ((making.ownName?.map Component.named).getD (.bare making.binding), making.start) := by
    simp [component?, call, hfile, hmaker, componentOf?_eq h]
  unfold nameDeclarator
  cases hown : making.ownName? with
  | some own => simp [hcomponent, name, hown]
  | none => simp [hcomponent, name, hown, hfile, nameFor_eq]

theorem visit_source (hfile : job.file = some file)
    (hmaker : state.factoryAlias = some making.maker) (h : Nameable making.arguments)
    (hok : state.hasFailed = false) :
    let claimed := state.claim job (making.name job file) making.start
    let seen := visitAll job making.arguments claimed
    let name := if making.ownName?.isSome || claimed.hasFailed then none
      else some (making.name job file)
    visit job making.source state =
      (.declarator (.identifier making.binding) (withName name (making.call seen.1)), seen.2) := by
  rw [source, declarator, visit_declarator hok, nameDeclarator_eq hfile hmaker h]
  simp only [call, visit_call, visit_identifier]

theorem withName_seen (h : Nameable making.arguments) (job : Job) (file : String)
    (state : Expansion) :
    let name := if making.ownName?.isSome then none else some (making.name job file)
    let properties := visitAll job making.properties state
    let others := visitAll job making.others properties.2
    withName name (making.call (visitAll job making.arguments state).1) =
        making.call (.object (making.lacking job file ++ properties.1) making.hasComma :: others.1) ∧
      (visitAll job making.arguments state).2 = others.2 := by
  unfold lacking
  obtain ⟨binding, maker, start, arguments⟩ := making
  rcases h with rfl | ⟨properties, hasComma, rest, rfl⟩
  · exact ⟨rfl, rfl⟩
  · simp only [Making.properties, others, List.tail_cons, visitAll_cons, visit_object, and_true]
    split <;> rfl

theorem literalName?_visitAll (properties : List Tree) (state : Expansion) :
    literalName? (visitAll job properties state).1 = literalName? properties :=
  SecondPass.literalName?_kept (Untouched.walk_kept.visitedAll rfl
    (⟨fun _ => trivial, fun _ _ => trivial⟩ :
      Untouched.Backed job (fun _ => True) (fun _ => True) state))

theorem literalName?_lacking (making : Making) (job : Job) (file : String) (state : Expansion) :
    literalName? (making.lacking job file ++ (visitAll job making.properties state).1) =
      some (making.name job file) := by
  unfold lacking
  cases hown : making.ownName? with
  | none => rfl
  | some own =>
    have hliteral := (Option.filter_eq_some_iff.mp hown).1
    simp [literalName?_visitAll, hliteral, name, hown]

end Making

namespace Expansion

variable {job : Job} {state state' : Expansion} {file name : String}

def Transformed (job : Job) (state : Expansion) (tree tree' : Tree) : Prop :=
  ∃ later, Reaches job state later ∧ later.hasFailed = false ∧ tree' = (visit job tree later).1

theorem Transformed.before {tree tree' : Tree} (hr : Reaches job state state')
    (h : Transformed job state' tree tree') : Transformed job state tree tree' := by
  obtain ⟨later, hlater, hok, heq⟩ := h
  exact ⟨later, hr.trans hlater, hok, heq⟩

theorem visitAll_transformed {trees : List Tree}
    (hok : (visitAll job trees state).2.hasFailed = false) :
    List.Forall₂ (Transformed job state) trees (visitAll job trees state).1 := by
  induction trees generalizing state with
  | nil => exact .nil
  | cons tree rest ih =>
    rw [visitAll_cons] at hok ⊢
    have hvisit : Reaches job state (visit job tree state).2 := visit_reaches tree state
    have hfirst := hvisit.not_failed ((visitAll_reaches rest _).not_failed hok)
    exact .cons ⟨state, .refl, hfirst, rfl⟩ ((ih hok).imp fun _ _ h => h.before hvisit)

theorem claim_unseen (hfile : job.file = some file)
    (hchecks : job.settings.checksUniqueNames = true)
    (hunseen : state.session.hasSeen file = false) (name : String) (start : Option Site) :
    state.claim job name start =
      match state.session.name? name with
      | some record =>
        { state with failure := some (.duplicateName name record.file record.line) }
      | none =>
        { state with session := { state.session with
            names := state.session.names ++ [(name, ⟨file, job.lineOf start⟩)] } } := by
  simp only [claim, hfile, hchecks, hunseen, Session.register]
  cases state.session.name? name <;> rfl

theorem claim_registers (hfile : job.file = some file)
    (hchecks : job.settings.checksUniqueNames = true)
    (hunseen : state.session.hasSeen file = false) {start : Option Site}
    (hok : (state.claim job name start).hasFailed = false) :
    (state.claim job name start).session.name? name = some ⟨file, job.lineOf start⟩ := by
  rw [claim_unseen hfile hchecks hunseen] at hok ⊢
  cases hname : state.session.name? name with
  | some record => simp [hname, hasFailed] at hok
  | none =>
    rw [Session.name?] at hname
    simp [Session.name?, List.lookup_append, hname]

end Expansion

structure Job.Makes (job : Job) (file : String) (session : Session) (program : Program)
    (making : Making) (moment : Expansion) : Prop where
  file : job.file = some file
  comes : job.ComesTo session program making.source moment
  maker : moment.factoryAlias = some making.maker
  nameable : Nameable making.arguments

namespace Making

def program (making : Making) : Program :=
  .withImports [.node (.declaration "const") [making.source]]

theorem makes_program {job : Job} {file : String} (hfile : job.file = some file) (session : Session)
    {making : Making} (hmaker : making.maker = "make") (h : Nameable making.arguments) :
    job.Makes file session making.program making (visitItems job Item.imports { session }).2 where
  file := hfile
  comes := ⟨Item.imports, _, [], rfl, .node (.head .here)⟩
  maker := by rw [hmaker, visitItems_imports]
  nameable := h

end Making

namespace Job.Makes

variable {job : Job} {file : String} {session : Session} {program : Program} {making : Making}
  {moment : Expansion}

theorem reaches (h : job.Makes file session program making moment)
    (hok : moment.hasFailed = false) :
    Reaches job (moment.claim job (making.name job file) making.start)
      (visit job making.source moment).2 := by
  rw [Making.visit_source h.file h.maker h.nameable hok]
  exact visitAll_reaches ..

theorem moment_ok (h : job.Makes file session program making moment)
    (hok : (job.run session program).failure = none) : moment.hasFailed = false :=
  (visit_reaches making.source moment).not_failed (h.comes.not_failed hok)

theorem claimed_ok (h : job.Makes file session program making moment)
    (hok : (job.run session program).failure = none) :
    (moment.claim job (making.name job file) making.start).hasFailed = false :=
  (h.reaches (h.moment_ok hok)).not_failed (h.comes.not_failed hok)

theorem visit_eq (h : job.Makes file session program making moment)
    (hok : (job.run session program).failure = none) :
    let claimed := moment.claim job (making.name job file) making.start
    let properties := visitAll job making.properties claimed
    let others := visitAll job making.others properties.2
    visit job making.source moment =
      (making.declarator
          (.object (making.lacking job file ++ properties.1) making.hasComma :: others.1),
        others.2) := by
  intro claimed properties others
  have hclaimed : claimed.hasFailed = false := h.claimed_ok hok
  obtain ⟨hvalue, hstate⟩ := Making.withName_seen h.nameable job file claimed
  rw [Making.visit_source h.file h.maker h.nameable (h.moment_ok hok)]
  simp only [claimed, hclaimed, Bool.or_false] at hvalue hstate ⊢
  rw [hvalue, hstate]
  rfl

theorem transformed (h : job.Makes file session program making moment)
    (hok : (job.run session program).failure = none) :
    let claimed := moment.claim job (making.name job file) making.start
    let properties := visitAll job making.properties claimed
    List.Forall₂ (Transformed job moment) making.properties properties.1 ∧
      List.Forall₂ (Transformed job moment) making.others
        (visitAll job making.others properties.2).1 := by
  intro claimed properties
  have hothers : (visitAll job making.others properties.2).2.hasFailed = false := by
    have hseen := h.comes.not_failed hok
    rwa [h.visit_eq hok] at hseen
  have hproperties : properties.2.hasFailed = false :=
    (visitAll_reaches making.others properties.2).not_failed hothers
  have hclaim : Reaches job moment claimed := .single (.claim _ _ (h.moment_ok hok))
  have hlater : Reaches job moment properties.2 := hclaim.trans (visitAll_reaches ..)
  constructor
  · exact (visitAll_transformed hproperties).imp fun _ _ h => h.before hclaim
  · exact (visitAll_transformed hothers).imp fun _ _ h => h.before hlater

theorem registered (h : job.Makes file session program making moment)
    (hok : (job.run session program).failure = none)
    (hchecks : job.settings.checksUniqueNames = true) (hunseen : session.hasSeen file = false) :
    (job.run session program).session.name? (making.name job file) =
      some ⟨file, job.lineOf making.start⟩ := by
  have hunseen : moment.session.hasSeen file = false := (h.comes.hasSeen file).trans hunseen
  have hclaimed := claim_registers h.file hchecks hunseen (h.claimed_ok hok)
  exact h.comes.name? ((h.reaches (h.moment_ok hok)).remembers.name? hclaimed)

theorem refused (h : job.Makes file session program making moment)
    (hchecks : job.settings.checksUniqueNames = true) (hunseen : session.hasSeen file = false)
    {record : NameRecord} (hname : session.name? (making.name job file) = some record) :
    (job.run session program).failure.isSome = true ∧
      (moment.hasFailed = false → (job.run session program).failure =
        some (.duplicateName (making.name job file) record.file record.line)) := by
  cases hok : moment.hasFailed with
  | true =>
    have hseen : (visit job making.source moment).2 = moment := by rw [visit_failed hok]
    have hfailure := h.comes.failure (by rwa [hseen])
    rw [hseen] at hfailure
    exact ⟨by rwa [hfailure], nofun⟩
  | false =>
    have hunseen : moment.session.hasSeen file = false := (h.comes.hasSeen file).trans hunseen
    have hclaimed := claim_unseen h.file hchecks hunseen (making.name job file) making.start
    rw [h.comes.remembers.name? hname] at hclaimed
    have hfailed := (h.reaches hok).failure (by rw [hclaimed]; rfl)
    rw [hclaimed] at hfailed
    have hfailure := h.comes.failure (by rw [hasFailed, hfailed]; rfl)
    rw [hfailed] at hfailure
    exact ⟨by rw [hfailure]; rfl, fun _ => hfailure⟩

end Job.Makes

namespace Making

/-- In a run that ends well, a recognised call keeps all that it is given, each part visited in its
place, behind a name if it has none of its own. The object then has the name under which the
component is entered: the text it was given first, else what the generator makes of the variable,
else the variable. -/
theorem source_named {job : Job} {file : String} {session : Session} {program : Program}
    {making : Making} {moment : Expansion} (h : job.Makes file session program making moment)
    (hok : (job.run session program).failure = none) :
    let name := making.name job file
    let added := if making.ownName?.isSome then [] else [nameProperty name]
    ∃ properties others,
      (visit job making.source moment).1 =
        making.declarator (.object (added ++ properties) making.hasComma :: others) ∧
      literalName? (added ++ properties) = some name ∧
      List.Forall₂ (Transformed job moment) making.properties properties ∧
      List.Forall₂ (Transformed job moment) making.others others ∧
      (job.settings.checksUniqueNames = true → session.hasSeen file = false →
        (job.run session program).session.name? name = some ⟨file, job.lineOf making.start⟩) := by
  intro name added
  obtain ⟨hproperties, hothers⟩ := h.transformed hok
  refine ⟨_, _, ?_, making.literalName?_lacking job file _, hproperties, hothers, h.registered hok⟩
  rw [h.visit_eq hok]
  rfl

def card : Making where
  binding := "Card"
  maker := "make"
  start := none
  arguments := [
    .object [
      .property (.word "name") (.text ""),
      .node .spread [.identifier "rest"],
      .property (.word "css") (.styled none ["color: ", ";"] [.identifier "tone"]),
      .property (.word "name") (.text "Late")] true,
    .node (.arrow false) [.node .parameters [], .node .block [.making "Part" none []]]]

theorem source_named_card :
    let job : Job :=
      ⟨{ Settings.inProduction with
         generateName := some fun context => some ("ui-" ++ context.binding) },
        some "card.js", none⟩
    let moment := (visitItems job Item.imports { session := {} }).2
    (job.Makes "card.js" {} card.program card moment ∧
      (job.run {} card.program).failure = none) ∧
    ∃ properties others,
      (visit job card.source moment).1 =
        card.declarator (.object (nameProperty "ui-Card" :: properties) true :: others) ∧
      literalName? (nameProperty "ui-Card" :: properties) = some "ui-Card" ∧
      properties.length = 4 ∧ others.length = 1 ∧
      (job.run {} card.program).session.name? "ui-Card" = some ⟨"card.js", 0⟩ := by
  intro job moment
  have hmakes : job.Makes "card.js" {} card.program card moment :=
    makes_program rfl {} rfl (.inr ⟨_, _, _, rfl⟩)
  have hok : (job.run {} card.program).failure = none := by decide +kernel
  obtain ⟨properties, others, hvisit, hliteral, hproperties, hothers, hregistered⟩ :=
    source_named hmakes hok
  refine ⟨⟨hmakes, hok⟩, properties, others, hvisit, hliteral, ?_, ?_, hregistered rfl rfl⟩
  · exact hproperties.length_eq.symm
  · exact hothers.length_eq.symm

end Making

end ScopedStyles
