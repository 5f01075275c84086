import ScopedStyles.Proofs.SecondPass

namespace ScopedStyles

open JavaScript Expansion

namespace JavaScript.Tree

def name? : Tree → Option String
  | identifier name => some name
  | _ => none

mutual

def tags : Tree → List String
  | absent | identifier _ | word _ | token _ | string _ => []
  | template _ holes => tagsAll holes
  | tagged _ tag _ holes => tag.name?.toList ++ (tag.tags ++ tagsAll holes)
  | call _ callee arguments => callee.tags ++ tagsAll arguments
  | object properties _ => tagsAll properties
  | property key value => key.tags ++ value.tags
  | declarator target value => target.tags ++ value.tags
  | node _ children => tagsAll children

def tagsAll : List Tree → List String
  | [] => []
  | tree :: rest => tree.tags ++ tagsAll rest

end

theorem tags_leaf {tree : Tree} (h : tree.isLeaf = true) : tree.tags = [] := by
  cases tree <;> simp_all [tags, isLeaf]

theorem mem_tagsAll {name : String} {trees : List Tree} :
    name ∈ tagsAll trees ↔ ∃ tree ∈ trees, name ∈ tree.tags := by
  induction trees with
  | nil => simp [tagsAll]
  | cons tree rest ih => simp [tagsAll, ih]

end JavaScript.Tree

def JavaScript.Item.tags : Item → List String
  | .importing _ => []
  | .code tree => tree.tags

def JavaScript.Program.tags (program : Program) : List String :=
  program.items.flatMap Item.tags

namespace TrackedTags

open Untouched SecondPass

variable {job : Job} {state : Expansion}

theorem tags_insertName (name : String) (tree : Tree) : (insertName name tree).tags = tree.tags := by
  unfold insertName
  split <;> simp [Tree.tags, Tree.tagsAll, nameProperty, Tree.text]

theorem tags_withName (name : Option String) (tree : Tree) :
    (withName name tree).tags = tree.tags := by
  cases name with
  | none => rfl
  | some name => exact tags_insertName name tree

theorem tags_callFor (start : Option Site) (tag : Tree) (holes : List Tree)
    (pieces : List String) :
    (callFor job start tag holes pieces).tags = tag.tags ++ Tree.tagsAll (elements holes pieces) := by
  simp [callFor, Tree.tags, Tree.tagsAll, Tree.text]

def Rid (tags : List String) (state : Expansion) (tags' : List String) (state' : Expansion) : Prop :=
  state'.hasFailed = false → ∀ name ∈ tags', name ∈ tags ∧ state.cssAlias ≠ some name

namespace Rid

variable {tags tags' tags₁ tags₁' tags₂ tags₂' : List String} {state₁ state₂ : Expansion}

theorem append (h₁ : Rid tags₁ state tags₁' state₁) (hr₁ : Reaches job state state₁)
    (h₂ : Rid tags₂ state₁ tags₂' state₂) (hr₂ : Reaches job state₁ state₂) :
    Rid (tags₁ ++ tags₂) state (tags₁' ++ tags₂') state₂ := by
  intro hok name hmem
  rcases List.mem_append.mp hmem with hmem | hmem
  · obtain ⟨hbefore, hother⟩ := h₁ (hr₂.not_failed hok) name hmem
    exact ⟨List.mem_append_left _ hbefore, hother⟩
  · obtain ⟨hbefore, hother⟩ := h₂ hok name hmem
    exact ⟨List.mem_append_right _ hbefore, hr₁.cssAlias ▸ hother⟩

end Rid

theorem rid_tagged (start : Option Site) (chunks : List String) {tag tag' : Tree}
    {holes holes' : List Tree} {state₁ state₂ : Expansion}
    (hv₁ : Visited job tag state tag' state₁) (hv₂ : VisitedAll job holes state₁ holes' state₂)
    (ih₁ : Rid tag.tags state tag'.tags state₁)
    (ih₂ : Rid (Tree.tagsAll holes) state₁ (Tree.tagsAll holes') state₂) :
    Rid (Tree.tagged start tag chunks holes).tags state
      (state₂.expandTemplate job start tag' chunks holes').1.tags
      (state₂.expandTemplate job start tag' chunks holes').2 := by
  intro hok name hmem
  have hok₂ := (expandTemplate_reaches start tag' chunks holes').not_failed hok
  have hinside : name ∈ tag'.tags ++ Tree.tagsAll holes' →
      name ∈ (Tree.tagged start tag chunks holes).tags ∧ state.cssAlias ≠ some name := by
    intro hmem
    obtain ⟨hbefore, hother⟩ := ih₁.append hv₁.reaches ih₂ hv₂.reaches hok₂ name hmem
    exact ⟨List.mem_append_right _ hbefore, hother⟩
  unfold expandTemplate at hmem
  split at hmem
  · dsimp only at hmem
    rw [tags_callFor, List.mem_append] at hmem
    rcases hmem with hmem | hmem
    · exact hinside (List.mem_append_left _ hmem)
    · obtain ⟨element, helement, hmem⟩ := Tree.mem_tagsAll.mp hmem
      rcases mem_elements helement with ⟨text, rfl⟩ | hhole
      · simp [Tree.text, Tree.tags] at hmem
      · exact hinside (List.mem_append_right _ (Tree.mem_tagsAll.mpr ⟨element, hhole, hmem⟩))
  · rename_i huntracked
    rcases List.mem_append.mp hmem with hmem | hmem
    · cases tag' with
      | identifier own =>
        obtain rfl := List.mem_singleton.mp hmem
        obtain rfl := kept_to_identifier (visited_kept hv₁)
        refine ⟨List.mem_append_left _ hmem, ?_⟩
        rw [← hv₁.reaches.cssAlias, ← hv₂.reaches.cssAlias]
        simpa [isTracked] using huntracked
      | _ => cases hmem
    · exact hinside hmem

theorem walk_rid :
    Walk job (fun tree state tree' state' => Rid tree.tags state tree'.tags state')
      (fun trees state trees' state' => Rid (Tree.tagsAll trees) state (Tree.tagsAll trees') state')
    where
  failed _ _ hfailed hok := by cases hfailed.symm.trans hok
  leaf _ _ hleaf _ := by simp [Tree.tags_leaf hleaf]
  template _ _ _ _ _ _ ih := ih
  tagged start chunks _ _ _ _ _ _ _ _ hv₁ hv₂ ih₁ ih₂ := rid_tagged start chunks hv₁ hv₂ ih₁ ih₂
  call _ _ _ _ _ _ _ _ hv₁ hv₂ ih₁ ih₂ := ih₁.append hv₁.reaches ih₂ hv₂.reaches
  object _ _ _ _ _ _ ih := ih
  property hv₁ hv₂ ih₁ ih₂ := ih₁.append hv₁.reaches ih₂ hv₂.reaches
  declarator {target value _ _ _ _ _} hok hv₁ hv₂ ih₁ ih₂ hok₂ name hmem := by
    have hnamed : Reaches job _ _ := nameDeclarator_reaches hok target value
    rw [Tree.tags, tags_withName] at hmem
    obtain ⟨hbefore, hother⟩ := ih₁.append hv₁.reaches ih₂ hv₂.reaches hok₂ name hmem
    exact ⟨hbefore, hnamed.cssAlias ▸ hother⟩
  node _ _ _ _ _ _ ih := ih
  nil _ _ _ hmem := by cases hmem
  cons hv₁ hv₂ ih₁ ih₂ := ih₁.append hv₁.reaches ih₂ hv₂.reaches

theorem name?_kept {tags makers : String → Prop} {tree tree' : Tree}
    (h : Kept tags makers tree tree') : tree'.name? = tree.name? := by
  cases h <;> rfl

theorem expandTemplate_other (start : Option Site) (chunks : List String) {tag : Tree}
    (holes : List Tree) (h : ∀ name ∈ tag.name?, state.cssAlias ≠ some name) :
    state.expandTemplate job start tag chunks holes = (.tagged start tag chunks holes, state) := by
  refine expandTemplate_settled start ?_ chunks holes
  rintro name hname rfl
  exact h name rfl hname

def Stays (tags : List String) (state : Expansion) (tags' : List String) : Prop :=
  (∀ name ∈ tags, state.cssAlias ≠ some name) → tags' = tags

namespace Stays

variable {tags₁ tags₁' tags₂ tags₂' : List String} {state₁ : Expansion}

theorem append (h₁ : Stays tags₁ state tags₁') (hr : Reaches job state state₁)
    (h₂ : Stays tags₂ state₁ tags₂') : Stays (tags₁ ++ tags₂) state (tags₁' ++ tags₂') := by
  intro hother
  rw [h₁ fun name hmem => hother name (List.mem_append_left _ hmem),
    h₂ fun name hmem => hr.cssAlias ▸ hother name (List.mem_append_right _ hmem)]

end Stays

theorem walk_stays :
    Walk job (fun tree state tree' _ => Stays tree.tags state tree'.tags)
      (fun trees state trees' _ => Stays (Tree.tagsAll trees) state (Tree.tagsAll trees')) where
  failed _ _ _ _ := rfl
  leaf _ _ _ _ := rfl
  template _ _ _ _ _ _ ih := ih
  tagged start chunks {tag holes state tag' state₁ holes' state₂} _ hv₁ hv₂ ih₁ ih₂ := by
    intro hother
    have hname : tag'.name? = tag.name? := name?_kept (visited_kept hv₁)
    have hinside := ih₁.append hv₁.reaches ih₂ fun name hmem =>
      hother name (List.mem_append_right _ hmem)
    rw [expandTemplate_other start chunks holes']
    · rw [Tree.tags, hname, hinside]
      rfl
    · intro name hmem
      rw [hv₂.reaches.cssAlias, hv₁.reaches.cssAlias]
      exact hother name (List.mem_append_left _ (by simpa [hname] using hmem))
  call _ _ _ _ _ _ _ _ hv₁ _ ih₁ ih₂ := ih₁.append hv₁.reaches ih₂
  object _ _ _ _ _ _ ih := ih
  property hv₁ _ ih₁ ih₂ := ih₁.append hv₁.reaches ih₂
  declarator {target value _ _ _ _ _} hok hv₁ _ ih₁ ih₂ hother := by
    have hnamed : Reaches job _ _ := nameDeclarator_reaches hok target value
    rw [Tree.tags, tags_withName]
    exact ih₁.append hv₁.reaches ih₂ fun name hmem => hnamed.cssAlias ▸ hother name hmem
  node _ _ _ _ _ _ ih := ih
  nil _ _ := rfl
  cons hv₁ _ ih₁ ih₂ := ih₁.append hv₁.reaches ih₂

def trackedFrom (job : Job) (current : Option String) (items : List Item) : Option String :=
  items.foldl (fun current item =>
    match item with
    | .importing declaration =>
      aliasAfter job.settings.options.target Job.cssExport declaration current
    | .code _ => current) current

theorem visitItems_cssAlias (items : List Item) (state : Expansion) :
    (visitItems job items state).2.cssAlias = trackedFrom job state.cssAlias items := by
  induction items generalizing state with
  | nil => rfl
  | cons item rest ih =>
    cases item with
    | importing declaration =>
      rw [visitItems_importing, ih, visitImport_eq]
      rfl
    | code tree =>
      rw [visitItems_code, ih, (visit_reaches tree state).cssAlias]
      rfl

/-- A run that went well leaves no template in an item under the tag that is tracked there, and
makes none. If templates of the item are under other tags only, it leaves them all. An import from
the target is led elsewhere in either case. -/
theorem templates_left_behind (job : Job) (session : Session) (program : Program)
    (hok : (job.run session program).failure = none) (before : List Item) (item : Item)
    (rest : List Item) (hitems : program.items = before ++ item :: rest) :
    let tracked := trackedFrom job none before
    ∃ before' item' rest',
      (job.run session program).program.items = before' ++ item' :: rest' ∧
      before'.length = before.length ∧
      (∀ name ∈ item'.tags, name ∈ item.tags ∧ tracked ≠ some name) ∧
      ((∀ name ∈ item.tags, tracked ≠ some name) → item'.tags = item.tags) ∧
      (∀ declaration, item = .importing declaration →
        declaration.source.value = job.settings.options.target →
        job.settings.options.precompile = true →
        item' = .importing { declaration with
          source := { value := job.settings.options.target ++ "-precompiled" } }) := by
  have hok : (visitItems job program.items { session }).2.hasFailed = false := by
    simpa [Job.run, visitProgram, hasFailed] using hok
  have hrun : (job.run session program).program.items =
      (visitItems job program.items { session }).1 := rfl
  have htracked : (visitItems job before { session }).2.cssAlias = trackedFrom job none before :=
    visitItems_cssAlias before { session }
  have hlength : (visitItems job before { session }).1.length = before.length :=
    length_visitItems before { session }
  rw [hitems, visitItems_append] at hok
  rw [hrun, hitems, visitItems_append]
  dsimp only at hok ⊢
  cases item with
  | importing declaration =>
    rw [visitItems_importing, visitImport_eq]
    refine ⟨_, _, _, rfl, hlength, (fun _ hmem => by cases hmem), fun _ => rfl, ?_⟩
    rintro _ ⟨⟩ hsource hprecompile
    rw [redirect, if_pos ⟨hsource, hprecompile⟩]
    rfl
  | code tree =>
    rw [visitItems_code] at hok ⊢
    have hrid := walk_rid.one tree (visitItems job before { session }).2 (visitItems_hasFailed hok)
    have hstays : Stays tree.tags (visitItems job before { session }).2
        (visit job tree (visitItems job before { session }).2).1.tags := walk_stays.one tree _
    rw [htracked] at hrid
    rw [Stays, htracked] at hstays
    exact ⟨_, _, _, rfl, hlength, hrid, hstays, fun _ hitem => by cases hitem⟩

def lateImport : Program where
  isModule := true
  shebang := none
  items := [
    .code (.constant "style" (.styled none ["color: red;"] [])),
    .importing (.ofName "css" "react-bemed/css" "css")]

theorem templates_left_behind_late_import :
    let job : Job := .inProduction "card.js"
    let outcome := job.run {} lateImport
    (outcome.failure = none ∧ lateImport.items = [] ++ lateImport.items[0] :: lateImport.items.tail) ∧
      ∃ before' item' rest', outcome.program.items = before' ++ item' :: rest' ∧
        before'.length = 0 ∧ item'.tags = ["css"] := by
  refine ⟨⟨by decide, rfl⟩, ?_⟩
  obtain ⟨before', item', rest', hitems, hlength, -, hstays, -⟩ :=
    templates_left_behind (.inProduction "card.js") {} lateImport
      (by decide) [] _ _ rfl
  exact ⟨before', item', rest', hitems, hlength, hstays (by decide)⟩

theorem redirected_tag_left_behind :
    ¬ ∀ (job : Job) (session : Session) (program : Program),
      job.settings.options.precompile = true → (job.run session program).failure = none →
      ∀ name, program.Imports job.settings.options.target Job.cssExport name →
        name ∉ (job.run session program).program.tags := by
  intro hnone
  have himports : lateImport.Imports "react-bemed/css" "css" "css" :=
    ⟨_, none, List.mem_cons_of_mem _ List.mem_cons_self, rfl, List.mem_cons_self, rfl⟩
  exact hnone (.inProduction "card.js") {} lateImport rfl (by decide)
    "css" himports (by decide)

end TrackedTags

end ScopedStyles
