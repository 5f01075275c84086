import ScopedStyles.Proofs.Declarations
import ScopedStyles.Proofs.TrackedTags

namespace ScopedStyles

open JavaScript

namespace Session

variable {session : Session} {compiler : Compiler}

def answer (session : Session) (compiler : Compiler) (source : String) : List String :=
  (session.cached? source).getD (Marker.split (compiler Compiler.stand source))

theorem compile_fst (session : Session) (compiler : Compiler) (source : String) :
    (session.compile compiler source).1 = session.answer compiler source := by
  unfold compile answer
  cases session.cached? source <;> rfl

def Compiled (compiler : Compiler) (sources : List String) (session session' : Session) : Prop :=
  ∀ source, session'.cached? source =
    if source ∈ sources then some (session.answer compiler source) else session.cached? source

theorem compiled_compile (session : Session) (compiler : Compiler) (source : String) :
    Compiled compiler [source] session (session.compile compiler source).2.1 := by
  intro other
  simp only [List.mem_singleton]
  cases hcached : session.cached? source with
  | some pieces =>
    simp only [compile, answer, hcached]
    split
    · rename_i heq
      rw [heq, hcached, Option.getD_some]
    · rfl
  | none =>
    have hlookup : session.cache.lookup source = none := hcached
    simp only [compile, answer, hcached]
    simp only [cached?, List.lookup_append]
    split
    · rename_i heq
      simp [heq, hlookup]
    · rename_i hne
      simp [List.lookup_cons, beq_eq_false_iff_ne.mpr hne]

namespace Compiled

variable {session₁ session₂ : Session} {before after : List String}

theorem of_cached?_eq (h : ∀ source, session₁.cached? source = session.cached? source) :
    Compiled compiler [] session session₁ := by
  intro source
  rw [if_neg List.not_mem_nil, h]

theorem answer (h : Compiled compiler before session session₁) :
    session₁.answer compiler = session.answer compiler := by
  funext source
  rw [Session.answer, h]
  split <;> rfl

theorem trans (h₁ : Compiled compiler before session session₁)
    (h₂ : Compiled compiler after session₁ session₂) :
    Compiled compiler (before ++ after) session session₂ := by
  intro source
  rw [h₂, h₁, h₁.answer]
  by_cases hafter : source ∈ after <;> by_cases hbefore : source ∈ before <;>
    simp [hafter, hbefore]

end Compiled

end Session

namespace Expansion

variable {job : Job} {state state' other other' : Expansion}

theorem claim_cached? (name : String) (start : Option Site) (source : String) :
    (state.claim job name start).session.cached? source = state.session.cached? source := by
  rcases claim_cases job name start state with h | ⟨_, _, _, h⟩ | ⟨_, _, h⟩
  · rw [h]
  · rw [h]
    rfl
  · rw [h]

def sources (job : Job) (chunks : List String) : List String :=
  if job.settings.options.precompile then [String.join (Template.tokens chunks)] else []

theorem piecesOf_fst (chunks : List String) (state : Expansion) :
    (state.piecesOf job chunks).1 =
      if job.settings.options.precompile then
        state.session.answer job.settings.compiler (String.join (Template.tokens chunks))
      else Template.tokens chunks := by
  rw [← Session.compile_fst]
  unfold piecesOf
  dsimp only
  split <;> rfl

theorem piecesOf_compiled (chunks : List String) (state : Expansion) :
    Session.Compiled job.settings.compiler (sources job chunks) state.session
      (state.piecesOf job chunks).2.session := by
  unfold piecesOf sources
  dsimp only
  split
  · exact Session.compiled_compile _ _ _
  · exact .of_cached?_eq fun _ => rfl

theorem Reaches.answer (h : Reaches job state state') :
    state'.session.answer job.settings.compiler = state.session.answer job.settings.compiler := by
  refine h.keeps (·.session.answer job.settings.compiler) ?_ ?_
  · intro name start state
    funext source
    rw [Session.answer, claim_cached?, Session.answer]
  · intro chunks state
    exact (piecesOf_compiled chunks state).answer

structure Alike (job : Job) (state other : Expansion) : Prop where
  css : other.cssAlias = state.cssAlias
  factory : other.factoryAlias = state.factoryAlias
  answer : other.session.answer job.settings.compiler =
    state.session.answer job.settings.compiler

theorem Alike.reaches (h : Alike job state other) (hr : Reaches job state state')
    (hr' : Reaches job other other') : Alike job state' other' where
  css := by rw [hr'.cssAlias, h.css, hr.cssAlias]
  factory := by rw [hr'.factoryAlias, h.factory, hr.factoryAlias]
  answer := by rw [hr'.answer, h.answer, hr.answer]

theorem expandTemplate_alike (h : Alike job state other) (start : Option Site) (tag : Tree)
    (chunks : List String) (holes : List Tree) :
    (other.expandTemplate job start tag chunks holes).1 =
      (state.expandTemplate job start tag chunks holes).1 := by
  have htracked : other.isTracked tag = state.isTracked tag := by
    cases tag <;> simp [isTracked, h.css]
  have hpieces : (other.piecesOf job chunks).1 = (state.piecesOf job chunks).1 := by
    rw [piecesOf_fst, piecesOf_fst, h.answer]
  unfold expandTemplate
  rw [htracked]
  split
  · exact congrArg (callFor job start tag holes) hpieces
  · rfl

theorem nameDeclarator_alike (h : Alike job state other) (target value : Tree)
    (hok : (state.nameDeclarator job target value).2.hasFailed = false)
    (hother : (other.nameDeclarator job target value).2.hasFailed = false) :
    (other.nameDeclarator job target value).1 = (state.nameDeclarator job target value).1 := by
  have hcomponent : component? job other target value = component? job state target value := by
    unfold component?
    rw [h.factory]
  unfold nameDeclarator at hok hother ⊢
  rw [hcomponent] at hother ⊢
  split
  · rfl
  · rfl
  · rename_i binding start hbare
    simp only [hbare] at hok hother
    simp [hok, hother]

def Repeats {α : Type} (job : Job) (make : Expansion → α × Expansion) (state : Expansion) (made : α)
    (state' : Expansion) : Prop :=
  state'.hasFailed = false → ∀ other, Alike job state other → (make other).2.hasFailed = false →
    (make other).1 = made

theorem Repeats.both {α β : Type} {first : Expansion → α × Expansion}
    {second : Expansion → β × Expansion} {made₁ : α} {made₂ : β} {state₁ state₂ : Expansion}
    (h₁ : Repeats job first state made₁ state₁) (h₂ : Repeats job second state₁ made₂ state₂)
    (hr₁ : Reaches job state state₁) (hr₂ : Reaches job state₁ state₂)
    (hfirst : ∀ other, Reaches job other (first other).2)
    (hsecond : ∀ other, Reaches job other (second other).2)
    (hok : state₂.hasFailed = false) (halike : Alike job state other)
    (hother : (second (first other).2).2.hasFailed = false) :
    (first other).1 = made₁ ∧ (second (first other).2).1 = made₂ := by
  have hok₁ := hr₂.not_failed hok
  have hother₁ := (hsecond (first other).2).not_failed hother
  exact ⟨h₁ hok₁ other halike hother₁, h₂ hok _ (halike.reaches hr₁ (hfirst other)) hother⟩

theorem repeats_tagged (start : Option Site) (chunks : List String) {tag tag' : Tree}
    {holes holes' : List Tree} {state₁ state₂ : Expansion}
    (hv₁ : Visited job tag state tag' state₁) (hv₂ : VisitedAll job holes state₁ holes' state₂)
    (ih₁ : Repeats job (visit job tag) state tag' state₁)
    (ih₂ : Repeats job (visitAll job holes) state₁ holes' state₂) :
    Repeats job (visit job (.tagged start tag chunks holes)) state
      (state₂.expandTemplate job start tag' chunks holes').1
      (state₂.expandTemplate job start tag' chunks holes').2 := by
  intro hok other halike hother
  have hstart := (visit_reaches _ other).not_failed hother
  rw [visit_tagged hstart] at hother ⊢
  have hok₂ := (expandTemplate_reaches start tag' chunks holes').not_failed hok
  have hother₂ := (expandTemplate_reaches start _ chunks _).not_failed hother
  obtain ⟨htag, hholes⟩ := ih₁.both ih₂ hv₁.reaches hv₂.reaches (visit_reaches tag)
    (visitAll_reaches holes) hok₂ halike hother₂
  have halike₂ := (halike.reaches hv₁.reaches (visit_reaches tag other)).reaches hv₂.reaches
    (visitAll_reaches holes (visit job tag other).2)
  rw [htag, hholes, expandTemplate_alike halike₂]

theorem repeats_declarator (hok : state.hasFailed = false) {target target' value value' : Tree}
    {state₁ state₂ : Expansion}
    (hv₁ : Visited job target (state.nameDeclarator job target value).2 target' state₁)
    (hv₂ : Visited job value state₁ value' state₂)
    (ih₁ : Repeats job (visit job target) (state.nameDeclarator job target value).2 target' state₁)
    (ih₂ : Repeats job (visit job value) state₁ value' state₂) :
    Repeats job (visit job (.declarator target value)) state
      (.declarator target' (withName (state.nameDeclarator job target value).1 value')) state₂ := by
  intro hok₂ other halike hother
  have hstart := (visit_reaches _ other).not_failed hother
  rw [visit_declarator hstart] at hother ⊢
  dsimp only at hother ⊢
  have hnamed : Reaches job state _ := nameDeclarator_reaches hok target value
  have hnamed' : Reaches job other _ := nameDeclarator_reaches hstart target value
  obtain ⟨htarget, hvalue⟩ := ih₁.both ih₂ hv₁.reaches hv₂.reaches (visit_reaches target)
    (visit_reaches value) hok₂ (halike.reaches hnamed hnamed') hother
  -- Neither failed at the name, or the visits after it would not have gone well.
  have hname := nameDeclarator_alike halike target value
    (hv₁.reaches.not_failed (hv₂.reaches.not_failed hok₂))
    ((visit_reaches target _).not_failed ((visit_reaches value _).not_failed hother))
  rw [htarget, hvalue, hname]

theorem walk_repeats :
    Walk job (fun tree state tree' state' => Repeats job (visit job tree) state tree' state')
      (fun trees state trees' state' => Repeats job (visitAll job trees) state trees' state') where
  failed _ _ hfailed hok := by cases hfailed.symm.trans hok
  leaf _ _ hleaf _ _ _ _ := by rw [visit_leaf hleaf]
  template chunks _ _ _ _ _ ih hok other halike hother := by
    rw [visit_template] at hother ⊢
    rw [ih hok other halike hother]
  tagged start chunks _ _ _ _ _ _ _ _ hv₁ hv₂ ih₁ ih₂ :=
    repeats_tagged start chunks hv₁ hv₂ ih₁ ih₂
  call start callee arguments _ _ _ _ _ hv₁ hv₂ ih₁ ih₂ hok other halike hother := by
    rw [visit_call] at hother ⊢
    obtain ⟨hcallee, harguments⟩ := ih₁.both ih₂ hv₁.reaches hv₂.reaches (visit_reaches callee)
      (visitAll_reaches arguments) hok halike hother
    rw [hcallee, harguments]
  object hasComma _ _ _ _ _ ih hok other halike hother := by
    rw [visit_object] at hother ⊢
    rw [ih hok other halike hother]
  property {key value _ _ _ _ _} hv₁ hv₂ ih₁ ih₂ hok other halike hother := by
    rw [visit_property] at hother ⊢
    obtain ⟨hkey, hvalue⟩ := ih₁.both ih₂ hv₁.reaches hv₂.reaches (visit_reaches key)
      (visit_reaches value) hok halike hother
    rw [hkey, hvalue]
  declarator hok hv₁ hv₂ ih₁ ih₂ := repeats_declarator hok hv₁ hv₂ ih₁ ih₂
  node form _ _ _ _ _ ih hok other halike hother := by
    rw [visit_node] at hother ⊢
    rw [ih hok other halike hother]
  nil _ _ _ _ _ := rfl
  cons {tree rest _ _ _ _ _} hv₁ hv₂ ih₁ ih₂ hok other halike hother := by
    rw [visitAll_cons] at hother ⊢
    obtain ⟨htree, hrest⟩ := ih₁.both ih₂ hv₁.reaches hv₂.reaches (visit_reaches tree)
      (visitAll_reaches rest) hok halike hother
    rw [htree, hrest]

theorem Alike.importing (h : Alike job state other) (declaration : ImportDeclaration) :
    Alike job (state.visitImport job declaration).2 (other.visitImport job declaration).2 := by
  rw [visitImport_eq, visitImport_eq]
  exact ⟨by rw [h.css], by rw [h.factory], h.answer⟩

theorem visitItems_repeats (items : List Item) (state : Expansion) :
    Repeats job (visitItems job items) state (visitItems job items state).1
      (visitItems job items state).2 := by
  induction items generalizing state with
  | nil => exact fun _ _ _ _ => rfl
  | cons item rest ih =>
    intro hok other halike hother
    cases item with
    | importing declaration =>
      rw [visitItems_importing] at hok hother ⊢
      have hrest := ih _ hok _ (halike.importing declaration) hother
      rw [visitItems_importing]
      dsimp only
      rw [hrest, visitImport_eq, visitImport_eq]
    | code tree =>
      rw [visitItems_code] at hok hother ⊢
      have hone := walk_repeats.one tree state (visitItems_hasFailed hok) other halike
        (visitItems_hasFailed hother)
      have halike₁ := halike.reaches (visit_reaches tree state) (visit_reaches tree other)
      have hrest := ih _ hok _ halike₁ hother
      rw [visitItems_code]
      dsimp only
      rw [hone, hrest]

mutual

def sourcesIn (job : Job) (tracked : Option String) : Tree → List String
  | .absent | .identifier _ | .word _ | .token _ | .string _ => []
  | .template _ holes => sourcesInAll job tracked holes
  | .tagged _ tag chunks holes =>
    sourcesIn job tracked tag ++ sourcesInAll job tracked holes ++
      if tag.name?.any (tracked == some ·) then sources job chunks else []
  | .call _ callee arguments => sourcesIn job tracked callee ++ sourcesInAll job tracked arguments
  | .object properties _ => sourcesInAll job tracked properties
  | .property key value => sourcesIn job tracked key ++ sourcesIn job tracked value
  | .declarator target value => sourcesIn job tracked target ++ sourcesIn job tracked value
  | .node _ children => sourcesInAll job tracked children

def sourcesInAll (job : Job) (tracked : Option String) : List Tree → List String
  | [] => []
  | tree :: rest => sourcesIn job tracked tree ++ sourcesInAll job tracked rest

end

def sourcesInItems (job : Job) : Option String → List Item → List String
  | _, [] => []
  | tracked, .importing declaration :: rest =>
    sourcesInItems job
      (aliasAfter job.settings.options.target Job.cssExport declaration tracked) rest
  | tracked, .code tree :: rest => sourcesIn job tracked tree ++ sourcesInItems job tracked rest

theorem sourcesIn_leaf (tracked : Option String) {tree : Tree} (h : tree.isLeaf = true) :
    sourcesIn job tracked tree = [] := by
  cases tree <;> simp_all [sourcesIn, Tree.isLeaf]

theorem isTracked_eq (state : Expansion) (tree : Tree) :
    state.isTracked tree = tree.name?.any (state.cssAlias == some ·) := by
  cases tree <;> rfl

def Compiles (job : Job) (sources : List String) (state state' : Expansion) : Prop :=
  state'.hasFailed = false →
    Session.Compiled job.settings.compiler sources state.session state'.session

theorem Compiles.trans {state₁ state₂ : Expansion} {before after : List String}
    (h₁ : Compiles job before state state₁) (h₂ : Compiles job after state₁ state₂)
    (hok₁ : state₂.hasFailed = false → state₁.hasFailed = false) :
    Compiles job (before ++ after) state state₂ :=
  fun hok => (h₁ (hok₁ hok)).trans (h₂ hok)

theorem Compiles.refl : Compiles job [] state state :=
  fun _ => .of_cached?_eq fun _ => rfl

theorem expandTemplate_compiles (start : Option Site) (tag : Tree) (chunks : List String)
    (holes : List Tree) :
    Compiles job (if tag.name?.any (state.cssAlias == some ·) then sources job chunks else []) state
      (state.expandTemplate job start tag chunks holes).2 := by
  unfold expandTemplate
  rw [← isTracked_eq]
  split
  · exact fun _ => piecesOf_compiled chunks state
  · exact .refl

theorem nameDeclarator_compiles (target value : Tree) :
    Compiles job [] state (state.nameDeclarator job target value).2 := by
  intro _
  refine .of_cached?_eq fun source => ?_
  rw [nameDeclarator_state]
  split
  · rfl
  · exact claim_cached? ..

theorem compiles_tagged (start : Option Site) (chunks : List String) {tag tag' : Tree}
    {holes holes' : List Tree} {state₁ state₂ : Expansion}
    (hv₁ : Visited job tag state tag' state₁) (hv₂ : VisitedAll job holes state₁ holes' state₂)
    (ih₁ : Compiles job (sourcesIn job state.cssAlias tag) state state₁)
    (ih₂ : Compiles job (sourcesInAll job state₁.cssAlias holes) state₁ state₂) :
    Compiles job (sourcesIn job state.cssAlias (.tagged start tag chunks holes)) state
      (state₂.expandTemplate job start tag' chunks holes').2 := by
  have hname : tag'.name? = tag.name? := TrackedTags.name?_kept (SecondPass.visited_kept hv₁)
  have hown : Compiles job _ state₂ _ := expandTemplate_compiles start tag' chunks holes'
  rw [hname, hv₂.reaches.cssAlias, hv₁.reaches.cssAlias] at hown
  rw [hv₁.reaches.cssAlias] at ih₂
  exact (ih₁.trans ih₂ hv₂.reaches.not_failed).trans hown
    (expandTemplate_reaches start tag' chunks holes').not_failed

theorem walk_compiles :
    Walk job
      (fun tree state _ state' => Compiles job (sourcesIn job state.cssAlias tree) state state')
      (fun trees state _ state' =>
        Compiles job (sourcesInAll job state.cssAlias trees) state state') where
  failed _ _ hfailed hok := by cases hfailed.symm.trans hok
  leaf tree state hleaf := by
    rw [sourcesIn_leaf _ hleaf]
    exact .refl
  template _ _ _ _ _ _ ih := ih
  tagged start chunks _ _ _ _ _ _ _ _ hv₁ hv₂ ih₁ ih₂ :=
    compiles_tagged start chunks hv₁ hv₂ ih₁ ih₂
  call _ _ _ _ _ _ _ _ hv₁ hv₂ ih₁ ih₂ := by
    rw [hv₁.reaches.cssAlias] at ih₂
    exact ih₁.trans ih₂ hv₂.reaches.not_failed
  object _ _ _ _ _ _ ih := ih
  property hv₁ hv₂ ih₁ ih₂ := by
    rw [hv₁.reaches.cssAlias] at ih₂
    exact ih₁.trans ih₂ hv₂.reaches.not_failed
  declarator {target value _ _ _ _ _} hok hv₁ hv₂ ih₁ ih₂ := by
    have hr : Reaches job _ _ := nameDeclarator_reaches hok target value
    rw [hv₁.reaches.cssAlias, hr.cssAlias] at ih₂
    rw [hr.cssAlias] at ih₁
    exact (nameDeclarator_compiles target value).trans
      (ih₁.trans ih₂ hv₂.reaches.not_failed)
      fun hok₂ => hv₁.reaches.not_failed (hv₂.reaches.not_failed hok₂)
  node _ _ _ _ _ _ ih := ih
  nil _ := .refl
  cons hv₁ hv₂ ih₁ ih₂ := by
    rw [hv₁.reaches.cssAlias] at ih₂
    exact ih₁.trans ih₂ hv₂.reaches.not_failed

theorem visitItems_compiles (items : List Item) (state : Expansion) :
    Compiles job (sourcesInItems job state.cssAlias items) state
      (visitItems job items state).2 := by
  induction items generalizing state with
  | nil => exact .refl
  | cons item rest ih =>
    cases item with
    | importing declaration =>
      have hrest := ih (state.visitImport job declaration).2
      rw [visitItems_importing]
      rw [visitImport_eq] at hrest ⊢
      exact hrest
    | code tree =>
      have hr : Reaches job state _ := visit_reaches tree state
      have hrest := ih (visit job tree state).2
      rw [hr.cssAlias] at hrest
      rw [visitItems_code]
      exact (walk_compiles.one tree state).trans hrest visitItems_hasFailed

end Expansion

namespace Job

open Expansion

variable {job : Job} {session other : Session} {program : Program}

theorem visitItems_ok (hok : (job.run session program).failure = none) :
    (visitItems job program.items { session }).2.hasFailed = false := by
  simpa [run, visitProgram, hasFailed] using hok

theorem run_repeats
    (hanswer : other.answer job.settings.compiler = session.answer job.settings.compiler)
    (hok : (job.run session program).failure = none)
    (hother : (job.run other program).failure = none) :
    (job.run other program).program = (job.run session program).program := by
  have halike : Alike job { session } { session := other } := ⟨rfl, rfl, hanswer⟩
  have hitems := visitItems_repeats program.items { session } (visitItems_ok hok) _ halike
    (visitItems_ok hother)
  exact congrArg (fun items => { program with items }) hitems

theorem run_compiled (hok : (job.run session program).failure = none) :
    Session.Compiled job.settings.compiler (sourcesInItems job none program.items) session
      (job.run session program).session := by
  have hcache : (job.run session program).session.cache =
      (visitItems job program.items { session }).2.session.cache :=
    finish_keeps (·.cache) Session.markSeen_cache
  intro source
  rw [Session.cached?, hcache]
  exact visitItems_compiles program.items { session } (visitItems_ok hok) source

end Job

end ScopedStyles
