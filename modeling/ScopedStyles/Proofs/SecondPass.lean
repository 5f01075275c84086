import ScopedStyles.Proofs.UntouchedCode

namespace ScopedStyles

open JavaScript Expansion

namespace JavaScript.Tree

mutual

def hasNames : Tree → Bool
  | absent | word _ | token _ | string _ => true
  | identifier name => name != ""
  | template _ holes => hasNamesAll holes
  | tagged _ tag _ holes => tag.hasNames && hasNamesAll holes
  | call _ callee arguments => callee.hasNames && hasNamesAll arguments
  | object properties _ => hasNamesAll properties
  | property key value => key.hasNames && value.hasNames
  | declarator target value => target.hasNames && value.hasNames
  | node _ children => hasNamesAll children

def hasNamesAll : List Tree → Bool
  | [] => true
  | tree :: rest => tree.hasNames && hasNamesAll rest

end

end JavaScript.Tree

def JavaScript.Item.hasNames : Item → Bool
  | .importing _ => true
  | .code tree => tree.hasNames

namespace SecondPass

open Untouched

def Nameless (job : Job) (factory : Option String) (target value : Tree) : Prop :=
  ∃ binding start,
    component? job { session := {}, factoryAlias := factory } target value =
      some (.bare binding, start)

mutual

def Settled (job : Job) (css factory : Option String) : Tree → Prop
  | .absent | .identifier _ | .word _ | .token _ | .string _ => True
  | .template _ holes => SettledAll job css factory holes
  | .tagged _ tag _ holes => (∀ name, css = some name → tag ≠ .identifier name) ∧
      Settled job css factory tag ∧ SettledAll job css factory holes
  | .call _ callee arguments =>
    Settled job css factory callee ∧ SettledAll job css factory arguments
  | .object properties _ => SettledAll job css factory properties
  | .property key value => Settled job css factory key ∧ Settled job css factory value
  | .declarator target value => ¬ Nameless job factory target value ∧
      Settled job css factory target ∧ Settled job css factory value
  | .node _ children => SettledAll job css factory children

def SettledAll (job : Job) (css factory : Option String) : List Tree → Prop
  | [] => True
  | tree :: rest => Settled job css factory tree ∧ SettledAll job css factory rest

end

variable {job : Job} {css factory css' factory' : Option String} {state : Expansion}

theorem settled_leaf {tree : Tree} (h : tree.isLeaf = true) : Settled job css factory tree := by
  cases tree <;> simp_all [Settled, Tree.isLeaf]

theorem settledAll_iff {trees : List Tree} :
    SettledAll job css factory trees ↔ ∀ tree ∈ trees, Settled job css factory tree := by
  induction trees with
  | nil => simp [SettledAll]
  | cons tree rest ih => simp [SettledAll, ih]

structure Narrows (job : Job) (css factory : Option String) (job' : Job)
    (css' factory' : Option String) : Prop where
  file : job'.file = job.file
  css : ∀ name, css' = some name → css = some name
  factory : ∀ name, factory' = some name → factory = some name

variable {job' : Job}

theorem Narrows.nameless (narrows : Narrows job css factory job' css' factory')
    {target value : Tree} (h : Nameless job' factory' target value) :
    Nameless job factory target value := by
  obtain ⟨binding', start, hc⟩ := h
  obtain ⟨binding, callee, arguments, rfl, rfl, hfile, halias, hbare⟩ := component?_eq_some hc
  rw [narrows.file] at hfile
  exact ⟨binding', start, by simp [component?, hfile, narrows.factory _ halias, hbare]⟩

mutual

theorem Narrows.settled (narrows : Narrows job css factory job' css' factory') :
    ∀ {tree : Tree}, Settled job css factory tree → Settled job' css' factory' tree
  | .absent, _ | .identifier _, _ | .word _, _ | .token _, _ | .string _, _ => trivial
  | .template _ _, h => narrows.settledAll h
  | .tagged _ _ _ _, ⟨htag, h₁, h₂⟩ =>
    ⟨fun name hname => htag name (narrows.css name hname), narrows.settled h₁,
      narrows.settledAll h₂⟩
  | .call _ _ _, h => ⟨narrows.settled h.1, narrows.settledAll h.2⟩
  | .object _ _, h => narrows.settledAll h
  | .property _ _, h => ⟨narrows.settled h.1, narrows.settled h.2⟩
  | .declarator _ _, ⟨hnamed, h₁, h₂⟩ =>
    ⟨fun h => hnamed (narrows.nameless h), narrows.settled h₁, narrows.settled h₂⟩
  | .node _ _, h => narrows.settledAll h

theorem Narrows.settledAll (narrows : Narrows job css factory job' css' factory') :
    ∀ {trees : List Tree}, SettledAll job css factory trees → SettledAll job' css' factory' trees
  | [], _ => trivial
  | _ :: _, h => ⟨narrows.settled h.1, narrows.settledAll h.2⟩

end

section Names

variable {tags makers : String → Prop}

theorem literalName?_cons (property : Tree) (rest : List Tree) :
    literalName? (property :: rest) = (literalName? [property]).or (literalName? rest) := by
  simp only [literalName?, List.findSome?_cons, List.findSome?_nil]
  split <;> simp_all

theorem literalName?_singleton_kept {property property' : Tree}
    (h : Kept tags makers property property') :
    literalName? [property'] = literalName? [property] := by
  cases h with
  | property hkey hvalue =>
    cases hkey with
    | word => cases hvalue <;> simp [literalName?]
    | _ => rfl
  | _ => rfl

theorem literalName?_kept {properties properties' : List Tree}
    (h : KeptAll tags makers properties properties') :
    literalName? properties' = literalName? properties := by
  induction properties generalizing properties' with
  | nil =>
    cases h
    rfl
  | cons property rest ih =>
    cases h with
    | cons hproperty hrest =>
      rw [literalName?_cons, literalName?_singleton_kept hproperty, ih hrest, ← literalName?_cons]

theorem componentOf?_kept {binding : String} {arguments arguments' : List Tree}
    (h : KeptAll tags makers arguments arguments') {component : Component}
    (hc : componentOf? binding arguments' = some component) :
    componentOf? binding arguments = some component := by
  cases h with
  | nil => exact hc
  | cons hfirst hrest =>
    cases hfirst with
    | object _ hproperties =>
      simp only [componentOf?, literalName?_kept hproperties] at hc ⊢
      exact hc
    | _ => cases hc

end Names

theorem nameless_kept {tags makers : String → Prop} {target target' value value' : Tree}
    (htarget : Kept tags makers target target') (hvalue : Kept tags makers value value')
    (h : Nameless job factory target' value') : Nameless job factory target value := by
  obtain ⟨binding', start, hc⟩ := h
  obtain ⟨binding, callee, arguments, rfl, rfl, hfile, halias, hbare⟩ := component?_eq_some hc
  obtain rfl := kept_to_identifier htarget
  cases hvalue with
  | call _ hcallee harguments =>
    obtain rfl := kept_to_identifier hcallee
    have halias : factory = some callee := halias
    exact ⟨binding', start, by
      simp [component?, hfile, halias, componentOf?_kept harguments hbare]⟩
  | expanded => cases hbare

theorem visited_kept {tree tree' : Tree} {state' : Expansion}
    (h : Visited job tree state tree' state') :
    Kept (fun _ => True) (fun _ => True) tree tree' :=
  walk_kept.visited h ⟨fun _ => trivial, fun _ _ => trivial⟩

theorem nameDeclarator_of_nameless {target value : Tree}
    (h : Nameless job state.factoryAlias target value)
    (hok : (state.nameDeclarator job target value).2.hasFailed = false) :
    ∃ name, (state.nameDeclarator job target value).1 = some name := by
  obtain ⟨binding, start, hc⟩ := h
  have hc : component? job state target value = some (.bare binding, start) := hc
  unfold nameDeclarator at hok ⊢
  rw [hc] at hok ⊢
  dsimp only at hok ⊢
  rw [hok]
  exact ⟨_, rfl⟩

theorem nameFor_ne_empty {settings : Settings} {file : Option String} {binding : String}
    (h : binding ≠ "") : settings.nameFor file binding ≠ "" := by
  unfold Settings.nameFor
  split
  · split
    · split
      · exact h
      · simp_all
    · exact h
  · exact h

theorem componentOf?_nameProperty {binding name : String} (h : name ≠ "") (properties : List Tree)
    (hasComma : Bool) (rest : List Tree) :
    componentOf? binding (.object (nameProperty name :: properties) hasComma :: rest) =
      some (.named name) := by
  simp [componentOf?, literalName?, nameProperty, Tree.text, h]

theorem not_nameless {target callee : Tree} {name : String} (hname : name ≠ "")
    (start : Option Site) (properties : List Tree) (hasComma : Bool) (rest : List Tree) :
    ¬ Nameless job factory target
      (.call start callee (.object (nameProperty name :: properties) hasComma :: rest)) := by
  rintro ⟨_, _, hc⟩
  obtain ⟨_, _, _, rfl, hvalue, -, -, hbare⟩ := component?_eq_some hc
  cases hvalue
  rw [componentOf?_nameProperty hname] at hbare
  cases hbare

theorem settled_withName {binding callee name : String} {start : Option Site}
    {arguments : List Tree} (hname : name ≠ "") (harguments : Nameable arguments)
    (hsettled : SettledAll job css factory arguments) :
    Settled job css factory (.declarator (.identifier binding)
      (withName (some name) (.call start (.identifier callee) arguments))) := by
  rcases harguments with rfl | ⟨properties, hasComma, rest, rfl⟩
  · exact ⟨not_nameless hname start [] false [], trivial, trivial, ⟨⟨trivial, trivial⟩, trivial⟩,
      trivial⟩
  · exact ⟨not_nameless hname start properties hasComma rest, trivial, trivial,
      ⟨⟨trivial, trivial⟩, hsettled.1⟩, hsettled.2⟩

theorem settled_expandTemplate (start : Option Site) (chunks : List String) {tag : Tree}
    {holes : List Tree} (htag : Settled job state.cssAlias state.factoryAlias tag)
    (hholes : SettledAll job state.cssAlias state.factoryAlias holes) :
    Settled job state.cssAlias state.factoryAlias
      (state.expandTemplate job start tag chunks holes).1 := by
  unfold expandTemplate
  split
  · refine ⟨htag, ⟨⟨settledAll_iff.mpr ?_, trivial, trivial⟩, trivial, trivial⟩, trivial, trivial⟩
    intro element hmem
    rcases mem_elements hmem with ⟨text, rfl⟩ | hhole
    · trivial
    · exact settledAll_iff.mp hholes element hhole
  · rename_i huntracked
    refine ⟨?_, htag, hholes⟩
    rintro name hname rfl
    simp [isTracked, hname] at huntracked

def Settles (job : Job) (tree : Tree) (state : Expansion) (tree' : Tree) (state' : Expansion) :
    Prop :=
  state'.hasFailed = false → tree.hasNames = true →
    Settled job state.cssAlias state.factoryAlias tree'

def SettlesAll (job : Job) (trees : List Tree) (state : Expansion) (trees' : List Tree)
    (state' : Expansion) : Prop :=
  state'.hasFailed = false → Tree.hasNamesAll trees = true →
    SettledAll job state.cssAlias state.factoryAlias trees'

theorem settled_before {state' : Expansion} (h : Reaches job state state') {tree : Tree}
    (hsettled : Settled job state'.cssAlias state'.factoryAlias tree) :
    Settled job state.cssAlias state.factoryAlias tree := by
  rwa [h.cssAlias, h.factoryAlias] at hsettled

theorem settledAll_before {state' : Expansion} (h : Reaches job state state') {trees : List Tree}
    (hsettled : SettledAll job state'.cssAlias state'.factoryAlias trees) :
    SettledAll job state.cssAlias state.factoryAlias trees := by
  rwa [h.cssAlias, h.factoryAlias] at hsettled

theorem settles_tagged (start : Option Site) (chunks : List String)
    {tag tag' : Tree} {holes holes' : List Tree} {state₁ state₂ : Expansion}
    (hv₁ : Visited job tag state tag' state₁) (hv₂ : VisitedAll job holes state₁ holes' state₂)
    (ih₁ : Settles job tag state tag' state₁) (ih₂ : SettlesAll job holes state₁ holes' state₂) :
    Settles job (.tagged start tag chunks holes) state
      (state₂.expandTemplate job start tag' chunks holes').1
      (state₂.expandTemplate job start tag' chunks holes').2 := by
  intro hok hnames
  simp only [Tree.hasNames, Bool.and_eq_true] at hnames
  have hok₂ := (expandTemplate_reaches start tag' chunks holes').not_failed hok
  have hholes := ih₂ hok₂ hnames.2
  have htag := ih₁ (hv₂.reaches.not_failed hok₂) hnames.1
  rw [← hv₁.reaches.cssAlias, ← hv₁.reaches.factoryAlias] at htag ⊢
  rw [← hv₂.reaches.cssAlias, ← hv₂.reaches.factoryAlias] at htag hholes ⊢
  exact settled_expandTemplate start chunks htag hholes

theorem visitAll_nameable {arguments arguments' : List Tree} {state' : Expansion}
    (hv : VisitedAll job arguments state arguments' state') (h : Nameable arguments) :
    Nameable arguments' := by
  rcases h with rfl | ⟨properties, hasComma, rest, rfl⟩
  · cases hv
    exact .inl rfl
  · rw [VisitedAll, visitAll_cons, visit_object] at hv
    cases hv
    exact .inr ⟨_, _, _, rfl⟩

theorem settles_declarator {target target' value value' : Tree} {state₁ state₂ : Expansion}
    (hok : state.hasFailed = false)
    (hv₁ : Visited job target (state.nameDeclarator job target value).2 target' state₁)
    (hv₂ : Visited job value state₁ value' state₂)
    (ih₁ : Settles job target (state.nameDeclarator job target value).2 target' state₁)
    (ih₂ : Settles job value state₁ value' state₂) :
    Settles job (.declarator target value) state
      (.declarator target' (withName (state.nameDeclarator job target value).1 value')) state₂ := by
  intro hok₂ hnames
  simp only [Tree.hasNames, Bool.and_eq_true] at hnames
  have hok₁ := hv₂.reaches.not_failed hok₂
  have hreach : Reaches job state (state.nameDeclarator job target value).2 :=
    nameDeclarator_reaches hok target value
  have htarget := settled_before hreach (ih₁ hok₁ hnames.1)
  have hvalue := settled_before (hreach.trans hv₁.reaches) (ih₂ hok₂ hnames.2)
  cases hname : (state.nameDeclarator job target value).1 with
  | none =>
    -- what has no name now had none before, and would have been given one
    refine ⟨fun hnameless => ?_, htarget, hvalue⟩
    obtain ⟨name, hsome⟩ := nameDeclarator_of_nameless
      (nameless_kept (visited_kept hv₁) (visited_kept hv₂) hnameless) (hv₁.reaches.not_failed hok₁)
    cases hname.symm.trans hsome
  | some name =>
    obtain ⟨binding, start, hc, rfl⟩ := nameDeclarator_eq_some hname
    obtain ⟨binding', callee, arguments, rfl, rfl, -, -, hbare⟩ := component?_eq_some hc
    obtain ⟨rfl, harguments⟩ := componentOf?_bare hbare
    rw [Visited, visit_leaf rfl] at hv₁
    rw [Visited, visit_call, visit_leaf rfl] at hv₂
    cases hv₁
    cases hv₂
    refine settled_withName (nameFor_ne_empty ?_) (visitAll_nameable rfl harguments) hvalue.2
    simpa [Tree.hasNames] using hnames.1

theorem walk_settles : Walk job (Settles job) (SettlesAll job) where
  failed _ _ hfailed hok _ := by cases hfailed.symm.trans hok
  leaf _ _ hleaf _ _ := settled_leaf hleaf
  template _ _ _ _ _ _ ih := ih
  tagged start chunks _ _ _ _ _ _ _ _ hv₁ hv₂ ih₁ ih₂ :=
    settles_tagged start chunks hv₁ hv₂ ih₁ ih₂
  call _ _ _ _ _ _ _ _ hv₁ hv₂ ih₁ ih₂ hok hnames := by
    simp only [Tree.hasNames, Bool.and_eq_true] at hnames
    have harguments := settledAll_before hv₁.reaches (ih₂ hok hnames.2)
    exact ⟨ih₁ (hv₂.reaches.not_failed hok) hnames.1, harguments⟩
  object _ _ _ _ _ _ ih := ih
  property hv₁ hv₂ ih₁ ih₂ hok hnames := by
    simp only [Tree.hasNames, Bool.and_eq_true] at hnames
    have hvalue := settled_before hv₁.reaches (ih₂ hok hnames.2)
    exact ⟨ih₁ (hv₂.reaches.not_failed hok) hnames.1, hvalue⟩
  declarator := settles_declarator
  node _ _ _ _ _ _ ih := ih
  nil _ _ _ := trivial
  cons hv₁ hv₂ ih₁ ih₂ hok hnames := by
    simp only [Tree.hasNamesAll, Bool.and_eq_true] at hnames
    have hrest := settledAll_before hv₁.reaches (ih₂ hok hnames.2)
    exact ⟨ih₁ (hv₂.reaches.not_failed hok) hnames.1, hrest⟩

def Reclaims (job : Job) (session : Session) : Prop :=
  ∀ file, job.file = some file → session.hasSeen file = true

theorem claim_reclaimed (h : Reclaims job state.session) (name : String)
    (start : Option Site) : state.claim job name start = state := by
  unfold claim
  cases hfile : job.file with
  | none => rfl
  | some file => simp [h file hfile]

theorem nameDeclarator_settled (h : Reclaims job state.session) {target value : Tree}
    (hnamed : ¬ Nameless job state.factoryAlias target value) :
    state.nameDeclarator job target value = (none, state) := by
  unfold nameDeclarator
  split
  · rfl
  · rw [claim_reclaimed h]
  · rename_i hbare
    exact absurd ⟨_, _, hbare⟩ hnamed

theorem expandTemplate_settled (start : Option Site) {tag : Tree}
    (h : ∀ name, state.cssAlias = some name → tag ≠ .identifier name) (chunks : List String)
    (holes : List Tree) :
    state.expandTemplate job start tag chunks holes = (.tagged start tag chunks holes, state) := by
  have huntracked : state.isTracked tag = false := by
    cases tag with
    | identifier name => simpa [isTracked] using fun hname => h name hname rfl
    | _ => rfl
  simp [expandTemplate, huntracked]

mutual

theorem visit_settled (hok : state.hasFailed = false) (hr : Reclaims job state.session) :
    ∀ {tree : Tree}, Settled job state.cssAlias state.factoryAlias tree →
      visit job tree state = (tree, state)
  | .absent, _ | .identifier _, _ | .word _, _ | .token _, _ | .string _, _ => visit_leaf rfl
  | .template _ _, h => by rw [visit_template, visitAll_settled hok hr h]
  | .tagged _ _ _ _, h => by
    rw [visit_tagged hok, visit_settled hok hr h.2.1, visitAll_settled hok hr h.2.2]
    exact expandTemplate_settled _ h.1 _ _
  | .call _ _ _, h => by rw [visit_call, visit_settled hok hr h.1, visitAll_settled hok hr h.2]
  | .object _ _, h => by rw [visit_object, visitAll_settled hok hr h]
  | .property _ _, h => by rw [visit_property, visit_settled hok hr h.1, visit_settled hok hr h.2]
  | .declarator _ _, h => by
    rw [visit_declarator hok, nameDeclarator_settled hr h.1]
    dsimp only
    rw [visit_settled hok hr h.2.1, visit_settled hok hr h.2.2]
    rfl
  | .node _ _, h => by rw [visit_node, visitAll_settled hok hr h]

theorem visitAll_settled (hok : state.hasFailed = false) (hr : Reclaims job state.session) :
    ∀ {trees : List Tree}, SettledAll job state.cssAlias state.factoryAlias trees →
      visitAll job trees state = (trees, state)
  | [], _ => rfl
  | _ :: _, h => by rw [visitAll_cons, visit_settled hok hr h.1, visitAll_settled hok hr h.2]

end

variable {source : Option Source}

structure Follows (job : Job) (first second : Expansion) : Prop where
  css : second.cssAlias = if job.settings.options.precompile then none else first.cssAlias
  factory : second.factoryAlias =
    if job.settings.options.precompile ∧ job.settings.options.target = Job.factoryModule then none
    else first.factoryAlias

theorem Follows.narrows {first second : Expansion} (h : Follows job first second) :
    Narrows job first.cssAlias first.factoryAlias { job with source } second.cssAlias
      second.factoryAlias := by
  refine ⟨rfl, ?_, ?_⟩
  · intro name hname
    rw [h.css] at hname
    split at hname
    · cases hname
    · exact hname
  · intro name hname
    rw [h.factory] at hname
    split at hname
    · cases hname
    · exact hname

theorem precompiledTarget_ne (options : Options) : options.precompiledTarget ≠ options.target := by
  intro h
  have hlength := congrArg String.length h
  simp [Options.precompiledTarget, String.length_append] at hlength

theorem precompiledTarget_ne_factoryModule (options : Options) :
    options.precompiledTarget ≠ Job.factoryModule := by
  intro h
  have hlength := congrArg String.length h
  simp only [Options.precompiledTarget, String.length_append] at hlength
  have hsuffix : "-precompiled".length = 12 := rfl
  have hmodule : Job.factoryModule.length = 11 := rfl
  omega

theorem redirect_redirect (declaration : ImportDeclaration) :
    redirect { job with source } (redirect job declaration) = redirect job declaration := by
  by_cases h : declaration.source.value = job.settings.options.target ∧
      job.settings.options.precompile
  · simp [redirect, h, precompiledTarget_ne]
  · simp only [redirect, h, ↓reduceIte]

theorem follows_visitImport {first second : Expansion} (h : Follows job first second)
    (declaration : ImportDeclaration) :
    Follows job (first.visitImport job declaration).2
      (second.visitImport { job with source } (redirect job declaration)).2 := by
  simp only [visitImport_eq]
  constructor
  · simp only [aliasAfter, redirect, h.css]
    split_ifs <;> simp_all [precompiledTarget_ne]
  · simp only [aliasAfter, redirect, h.factory]
    split_ifs <;> simp_all [precompiledTarget_ne_factoryModule]

theorem visitItems_again {items : List Item} {first second : Expansion}
    (hfollows : Follows job first second) (hnames : ∀ item ∈ items, item.hasNames = true)
    (hok : (visitItems job items first).2.hasFailed = false) (hok' : second.hasFailed = false)
    (hr : Reclaims { job with source } second.session) :
    let again := visitItems { job with source } (visitItems job items first).1 second
    again.1 = (visitItems job items first).1 ∧ again.2.session = second.session ∧
      again.2.calls = second.calls ∧ again.2.failure = second.failure := by
  induction items generalizing first second with
  | nil => exact ⟨rfl, rfl, rfl, rfl⟩
  | cons item rest ih =>
    obtain ⟨hitem, hrest⟩ := List.forall_mem_cons.mp hnames
    cases item with
    | importing declaration =>
      have hfollows : Follows job _ (visitImport { job with source } _ second).2 :=
        follows_visitImport hfollows declaration
      have hnext := ih hfollows hrest hok
      simp only [visitItems_importing, visitImport_eq, redirect_redirect] at hnext ⊢
      obtain ⟨hprogram, hstate⟩ := hnext hok' hr
      exact ⟨by rw [hprogram], hstate⟩
    | code tree =>
      have hreach : Reaches job first (visit job tree first).2 := visit_reaches tree first
      have hsettled := walk_settles.one tree first (visitItems_hasFailed hok) hitem
      have hagain : visit { job with source } _ second = (_, second) :=
        visit_settled hok' hr (hfollows.narrows.settled hsettled)
      obtain ⟨hprogram, hstate⟩ := ih
        ⟨hreach.cssAlias ▸ hfollows.css, hreach.factoryAlias ▸ hfollows.factory⟩ hrest hok hok' hr
      simp only [visitItems_code, hagain]
      exact ⟨by rw [hprogram], hstate⟩

theorem hasSeen_markSeen (session : Session) (file : String) :
    (session.markSeen file).hasSeen file = true := by
  unfold Session.markSeen
  split
  · assumption
  · simp [Session.hasSeen]

theorem reclaims_finish (hok : state.hasFailed = false) :
    Reclaims { job with source } (state.finish job).session := by
  intro file hfile
  have hfile : job.file = some file := hfile
  simp [finish, hfile, hok, hasSeen_markSeen]

theorem finish_reclaimed (hok : state.hasFailed = false) (hr : Reclaims job state.session) :
    (state.finish job).session = state.session := by
  unfold finish
  split
  · rename_i file hfile
    simp [hok, Session.markSeen, hr file hfile]
  · rfl

theorem run_again (job : Job) (session : Session) (program : Program) (source : Option Source)
    (hnames : ∀ item ∈ program.items, item.hasNames = true)
    (hok : (job.run session program).failure = none) :
    let first := job.run session program
    let again := Job.run { job with source } first.session first.program
    again.failure = none ∧ again.program = first.program ∧ again.session = first.session ∧
      again.calls = [] := by
  have hok : (visitItems job program.items { session }).2.hasFailed = false := by
    simpa [Job.run, visitProgram, hasFailed] using hok
  have hreclaims : Reclaims { job with source }
      ((visitItems job program.items { session }).2.finish job).session := reclaims_finish hok
  have hfollows : Follows job { session }
      { session := ((visitItems job program.items { session }).2.finish job).session } :=
    ⟨by simp, by simp⟩
  obtain ⟨hitems, hsession, hcalls, hfailure⟩ :=
    visitItems_again hfollows hnames hok rfl hreclaims
  refine ⟨?_, ?_, ?_, ?_⟩
  · simpa [Job.run, visitProgram] using hfailure
  · simp [Job.run, visitProgram, hitems]
  · simp only [Job.run, visitProgram]
    rw [finish_reclaimed, hsession]
    · simp [hasFailed, hfailure]
    · rwa [hsession]
  · simpa [Job.run, visitProgram] using hcalls

def card : Program :=
  .withImports [.making "Card" none [.object [
    .property (.word "css") (.styled none ["color: ", ";"] [.identifier "tone"])] false]]

theorem run_again_card :
    let job : Job := .inProduction "card.js"
    let first := job.run {} card
    let again := job.run first.session first.program
    ((∀ item ∈ card.items, item.hasNames = true) ∧ first.failure = none) ∧
      (job.settings.checksUniqueNames = true ∧ first.session.name? "Card" = some ⟨"card.js", 0⟩) ∧
      again.failure = none ∧ again.program = first.program ∧ again.session = first.session ∧
      again.calls = [] :=
  ⟨⟨by decide, by decide⟩, ⟨rfl, by decide⟩, run_again _ {} card none (by decide) (by decide)⟩

end SecondPass

end ScopedStyles
