import Mathlib.Data.List.Forall2
import ScopedStyles.Proofs.Walk

namespace ScopedStyles

open JavaScript Expansion

def JavaScript.Program.Imports (program : Program) (source exported binding : String) : Prop :=
  ∃ declaration imported, Item.importing declaration ∈ program.items ∧
    declaration.source.value = source ∧
    ImportSpecifier.named imported binding ∈ declaration.specifiers ∧
    importedName imported binding = exported

namespace Untouched

def joined (elements : List Tree) : Tree :=
  .call none (.node .member [.node (.array false) elements, .word "join"]) [.text ""]

def nameGiven (name : String) : Tree :=
  .property (.word "name") (.text name)

mutual

inductive Kept (tags makers : String → Prop) : Tree → Tree → Prop
  | absent : Kept tags makers .absent .absent
  | identifier (name) : Kept tags makers (.identifier name) (.identifier name)
  | word (text) : Kept tags makers (.word text) (.word text)
  | token (text) : Kept tags makers (.token text) (.token text)
  | string (literal) : Kept tags makers (.string literal) (.string literal)
  | template (chunks) {holes holes'} : KeptAll tags makers holes holes' →
      Kept tags makers (.template chunks holes) (.template chunks holes')
  | tagged (start chunks) {tag tag' holes holes'} : Kept tags makers tag tag' →
      KeptAll tags makers holes holes' →
      Kept tags makers (.tagged start tag chunks holes) (.tagged start tag' chunks holes')
  | call (start) {callee callee' arguments arguments'} : Kept tags makers callee callee' →
      KeptAll tags makers arguments arguments' →
      Kept tags makers (.call start callee arguments) (.call start callee' arguments')
  | object (hasComma) {properties properties'} : KeptAll tags makers properties properties' →
      Kept tags makers (.object properties hasComma) (.object properties' hasComma)
  | property {key key' value value'} : Kept tags makers key key' → Kept tags makers value value' →
      Kept tags makers (.property key value) (.property key' value')
  | declarator {target target' value value'} : Kept tags makers target target' →
      Kept tags makers value value' →
      Kept tags makers (.declarator target value) (.declarator target' value')
  | node (form) {children children'} : KeptAll tags makers children children' →
      Kept tags makers (.node form children) (.node form children')
  | namedFromNothing (binding start name) {maker} : makers maker →
      Kept tags makers
        (.declarator (.identifier binding) (.call start (.identifier maker) []))
        (.declarator (.identifier binding)
          (.call start (.identifier maker) [.object [nameGiven name] false]))
  | namedInFront (binding start name hasComma) {maker properties properties' rest rest'} :
      makers maker → KeptAll tags makers properties properties' → KeptAll tags makers rest rest' →
      Kept tags makers
        (.declarator (.identifier binding)
          (.call start (.identifier maker) (.object properties hasComma :: rest)))
        (.declarator (.identifier binding)
          (.call start (.identifier maker)
            (.object (nameGiven name :: properties') hasComma :: rest')))
  | expanded (start chunks map) {tag holes holes' elements} : tags tag →
      KeptAll tags makers holes holes' →
      (∀ element ∈ elements, (∃ text, element = .text text) ∨ element ∈ holes') →
      Kept tags makers (.tagged start (.identifier tag) chunks holes)
        (.call start (.identifier tag) [joined elements, .text map])

inductive KeptAll (tags makers : String → Prop) : List Tree → List Tree → Prop
  | nil : KeptAll tags makers [] []
  | cons {tree tree' rest rest'} : Kept tags makers tree tree' → KeptAll tags makers rest rest' →
      KeptAll tags makers (tree :: rest) (tree' :: rest')

end

structure Backed (job : Job) (tags makers : String → Prop) (state : Expansion) : Prop where
  css : ∀ {name}, state.cssAlias = some name → tags name
  factory : ∀ {name}, job.file.isSome = true → state.factoryAlias = some name → makers name

variable {job : Job} {tags makers : String → Prop} {state : Expansion}

theorem Backed.reaches {state' : Expansion} (h : Backed job tags makers state)
    (hr : Reaches job state state') : Backed job tags makers state' where
  css hname := h.css (hr.cssAlias ▸ hname)
  factory hfile hname := h.factory hfile (hr.factoryAlias ▸ hname)

mutual

theorem kept_refl : ∀ tree : Tree, Kept tags makers tree tree
  | .absent => .absent
  | .identifier name => .identifier name
  | .word text => .word text
  | .token text => .token text
  | .string literal => .string literal
  | .template chunks holes => .template chunks (keptAll_refl holes)
  | .tagged start tag chunks holes => .tagged start chunks (kept_refl tag) (keptAll_refl holes)
  | .call start callee arguments => .call start (kept_refl callee) (keptAll_refl arguments)
  | .object properties hasComma => .object hasComma (keptAll_refl properties)
  | .property key value => .property (kept_refl key) (kept_refl value)
  | .declarator target value => .declarator (kept_refl target) (kept_refl value)
  | .node form children => .node form (keptAll_refl children)

theorem keptAll_refl : ∀ trees : List Tree, KeptAll tags makers trees trees
  | [] => .nil
  | tree :: rest => .cons (kept_refl tree) (keptAll_refl rest)

end

theorem kept_to_identifier {tree : Tree} {name : String}
    (h : Kept tags makers tree (.identifier name)) : tree = .identifier name := by
  cases h
  rfl

theorem mem_elements {holes : List Tree} {pieces : List String} {element : Tree}
    (h : element ∈ elements holes pieces) :
    (∃ text, element = .text text) ∨ element ∈ holes := by
  obtain ⟨piece, -, rfl⟩ := List.mem_map.mp h
  split
  · rename_i hole hhole
    obtain ⟨index, -, hget⟩ := Option.bind_eq_some_iff.mp hhole
    exact .inr (List.mem_of_getElem? hget)
  · exact .inl ⟨piece, rfl⟩

theorem kept_expandTemplate (hback : Backed job tags makers state) (start : Option Site)
    (chunks : List String) {tag tag' : Tree} {holes holes' : List Tree}
    (htag : Kept tags makers tag tag') (hholes : KeptAll tags makers holes holes') :
    Kept tags makers (.tagged start tag chunks holes)
      (state.expandTemplate job start tag' chunks holes').1 := by
  unfold expandTemplate
  split
  · rename_i htracked
    cases tag' with
    | identifier name =>
      obtain rfl := kept_to_identifier htag
      exact .expanded start chunks _ (hback.css (by simpa [isTracked] using htracked)) hholes
        fun element hmem => mem_elements hmem
    | _ => cases htracked
  · exact .tagged start chunks htag hholes

theorem kept_declarator (hback : Backed job tags makers state) {target target' value value' : Tree}
    (htarget : Kept tags makers target target') (hvalue : Kept tags makers value value') :
    Kept tags makers (.declarator target value)
      (.declarator target' (withName (state.nameDeclarator job target value).1 value')) := by
  cases hname : (state.nameDeclarator job target value).1 with
  | none => exact .declarator htarget hvalue
  | some name =>
    obtain ⟨binding', start, hc, -⟩ := nameDeclarator_eq_some hname
    obtain ⟨binding, callee, arguments, rfl, rfl, hfile, hfactory, hbare⟩ := component?_eq_some hc
    have hmaker := hback.factory hfile hfactory
    cases htarget
    cases hvalue with
    | call _ hcallee harguments =>
      cases hcallee
      rcases (componentOf?_bare hbare).2 with rfl | ⟨properties, hasComma, rest, rfl⟩
      · cases harguments
        exact .namedFromNothing binding start name hmaker
      · cases harguments with
        | cons hfirst hrest =>
          cases hfirst with
          | object _ hproperties =>
            exact .namedInFront binding start name hasComma hmaker hproperties hrest

theorem walk_kept :
    Walk job (fun tree state tree' _ => Backed job tags makers state → Kept tags makers tree tree')
      (fun trees state trees' _ =>
        Backed job tags makers state → KeptAll tags makers trees trees') where
  failed tree _ _ _ := kept_refl tree
  leaf tree _ _ _ := kept_refl tree
  template chunks _ _ _ _ _ ih hback := .template chunks (ih hback)
  tagged start chunks _ _ _ _ _ _ _ _ hv₁ hv₂ ih₁ ih₂ hback :=
    have hback₁ := hback.reaches hv₁.reaches
    kept_expandTemplate (hback₁.reaches hv₂.reaches) start chunks (ih₁ hback) (ih₂ hback₁)
  call start _ _ _ _ _ _ _ hv₁ _ ih₁ ih₂ hback :=
    .call start (ih₁ hback) (ih₂ (hback.reaches hv₁.reaches))
  object hasComma _ _ _ _ _ ih hback := .object hasComma (ih hback)
  property hv₁ _ ih₁ ih₂ hback := .property (ih₁ hback) (ih₂ (hback.reaches hv₁.reaches))
  declarator {target value _ _ _ _ _} hok hv₁ _ ih₁ ih₂ hback :=
    have hback₁ := hback.reaches (nameDeclarator_reaches hok target value)
    kept_declarator hback (ih₁ hback₁) (ih₂ (hback₁.reaches hv₁.reaches))
  node form _ _ _ _ _ ih hback := .node form (ih hback)
  nil _ _ := .nil
  cons hv₁ _ ih₁ ih₂ hback := .cons (ih₁ hback) (ih₂ (hback.reaches hv₁.reaches))

inductive KeptItem (job : Job) (program : Program) : Item → Item → Prop
  | code {tree tree'} :
      Kept (program.Imports job.settings.options.target Job.cssExport)
        (fun maker => job.file.isSome = true ∧
          program.Imports Job.factoryModule Job.factory maker) tree tree' →
      KeptItem job program (.code tree) (.code tree')
  | importing (declaration) :
      KeptItem job program (.importing declaration) (.importing declaration)
  | redirected (declaration) : declaration.source.value = job.settings.options.target →
      job.settings.options.precompile = true →
      KeptItem job program (.importing declaration)
        (.importing { declaration with
          source := { value := job.settings.options.target ++ "-precompiled" } })

variable {program : Program}

theorem kept_redirect (declaration : ImportDeclaration) :
    KeptItem job program (.importing declaration) (.importing (redirect job declaration)) := by
  unfold redirect
  split
  · rename_i h
    exact .redirected declaration h.1 h.2
  · exact .importing declaration

abbrev BackedBy (job : Job) (program : Program) : Expansion → Prop :=
  Backed job (program.Imports job.settings.options.target Job.cssExport)
    fun maker => job.file.isSome = true ∧ program.Imports Job.factoryModule Job.factory maker

theorem backedBy_visitImport {declaration : ImportDeclaration}
    (hmem : Item.importing declaration ∈ program.items) (hback : BackedBy job program state) :
    BackedBy job program (state.visitImport job declaration).2 := by
  rw [visitImport_eq]
  constructor
  · intro name hname
    rcases aliasAfter_eq_some hname with h | ⟨hsource, imported, hspecifier, hnamed⟩
    · exact hback.css h
    · exact ⟨declaration, imported, hmem, hsource, hspecifier, hnamed⟩
  · intro name hfile hname
    rcases aliasAfter_eq_some hname with h | ⟨hsource, imported, hspecifier, hnamed⟩
    · exact hback.factory hfile h
    · exact ⟨hfile, declaration, imported, hmem, hsource, hspecifier, hnamed⟩

theorem visitItems_kept {items : List Item} (hitems : ∀ item ∈ items, item ∈ program.items)
    (hback : BackedBy job program state) :
    List.Forall₂ (KeptItem job program) items (visitItems job items state).1 := by
  induction items generalizing state with
  | nil => exact .nil
  | cons item rest ih =>
    obtain ⟨hitem, hrest⟩ := List.forall_mem_cons.mp hitems
    cases item with
    | importing declaration =>
      rw [visitItems_importing]
      refine .cons ?_ (ih hrest (backedBy_visitImport hitem hback))
      rw [visitImport_eq]
      exact kept_redirect declaration
    | code tree =>
      rw [visitItems_code]
      exact .cons (.code (walk_kept.one tree state hback))
        (ih hrest (hback.reaches (visit_reaches tree state)))

theorem run_keeps (job : Job) (session : Session) (program : Program) :
    let after := (job.run session program).program
    after.isModule = program.isModule ∧ after.shebang = program.shebang ∧
      List.Forall₂ (KeptItem job program) program.items after.items := by
  have hback : BackedBy job program { session } := ⟨by simp, by simp⟩
  exact ⟨rfl, rfl, visitItems_kept (fun _ h => h) hback⟩

end Untouched

end ScopedStyles
