import ScopedStyles.Proofs.Declarations

namespace ScopedStyles

open JavaScript Expansion

namespace Interruption

mutual

/-- A visit of the tree stops at a declarator whose name is taken, in the state `stop`. What stands
before the declarator was visited and what follows it is as it was. Only the templates around it
are still expanded: `late` are their texts, the innermost first. -/
inductive Stopped (job : Job) (stop : Expansion) :
    List (List String) → Tree → Expansion → Tree → Expansion → Prop
  | here {target value state} : state.hasFailed = false →
      (state.nameDeclarator job target value).2 = stop → stop.hasFailed = true →
      Stopped job stop [] (.declarator target value) state (.declarator target value) stop
  | template (chunks) {late holes state holes' state'} :
      StoppedAll job stop late holes state holes' state' →
      Stopped job stop late (.template chunks holes) state (.template chunks holes') state'
  | tag (start chunks holes) {late tag state tag' state'} :
      Stopped job stop late tag state tag' state' →
      Stopped job stop late (.tagged start tag chunks holes) state
        (.tagged start tag' chunks holes) state'
  | hole (start chunks) {late tag state tag' state₁ holes holes' state₂} :
      Visited job tag state tag' state₁ → StoppedAll job stop late holes state₁ holes' state₂ →
      state₂.isTracked tag' = false →
      Stopped job stop late (.tagged start tag chunks holes) state
        (.tagged start tag' chunks holes') state₂
  | expanded (start chunks) {late tag state tag' state₁ holes holes' state₂} :
      Visited job tag state tag' state₁ → StoppedAll job stop late holes state₁ holes' state₂ →
      state₂.isTracked tag' = true →
      Stopped job stop (late ++ [chunks]) (.tagged start tag chunks holes) state
        (callFor job start tag' holes' (state₂.piecesOf job chunks).1) (state₂.piecesOf job chunks).2
  | callee (start arguments) {late callee state callee' state'} :
      Stopped job stop late callee state callee' state' →
      Stopped job stop late (.call start callee arguments) state (.call start callee' arguments)
        state'
  | argument (start) {late callee state callee' state₁ arguments arguments' state₂} :
      Visited job callee state callee' state₁ →
      StoppedAll job stop late arguments state₁ arguments' state₂ →
      Stopped job stop late (.call start callee arguments) state (.call start callee' arguments')
        state₂
  | object (hasComma) {late properties state properties' state'} :
      StoppedAll job stop late properties state properties' state' →
      Stopped job stop late (.object properties hasComma) state (.object properties' hasComma)
        state'
  | key (value) {late key state key' state'} : Stopped job stop late key state key' state' →
      Stopped job stop late (.property key value) state (.property key' value) state'
  | value {late key state key' state₁ value value' state₂} : Visited job key state key' state₁ →
      Stopped job stop late value state₁ value' state₂ →
      Stopped job stop late (.property key value) state (.property key' value') state₂
  | target {late target value state target' state'} :
      Stopped job stop late target (state.nameDeclarator job target value).2 target' state' →
      Stopped job stop late (.declarator target value) state
        (.declarator target' (withName (state.nameDeclarator job target value).1 value)) state'
  | initial {late target value state target' state₁ value' state₂} :
      Visited job target (state.nameDeclarator job target value).2 target' state₁ →
      Stopped job stop late value state₁ value' state₂ →
      Stopped job stop late (.declarator target value) state
        (.declarator target' (withName (state.nameDeclarator job target value).1 value')) state₂
  | node (form) {late children state children' state'} :
      StoppedAll job stop late children state children' state' →
      Stopped job stop late (.node form children) state (.node form children') state'

inductive StoppedAll (job : Job) (stop : Expansion) :
    List (List String) → List Tree → Expansion → List Tree → Expansion → Prop
  | head (rest) {late tree state tree' state'} : Stopped job stop late tree state tree' state' →
      StoppedAll job stop late (tree :: rest) state (tree' :: rest) state'
  | tail {late tree state tree' state₁ rest rest' state₂} : Visited job tree state tree' state₁ →
      StoppedAll job stop late rest state₁ rest' state₂ →
      StoppedAll job stop late (tree :: rest) state (tree' :: rest') state₂

end

variable {job : Job} {state stop : Expansion} {late : List (List String)}

theorem not_tracked {tree tree' : Tree} {state' : Expansion}
    (h : Stopped job stop late tree state tree' state') : state'.isTracked tree' = false := by
  cases h <;> rfl

theorem nameDeclarator_failed {target value : Tree}
    (h : (state.nameDeclarator job target value).2.hasFailed = true) :
    (state.nameDeclarator job target value).1 = none := by
  unfold nameDeclarator at h ⊢
  split
  · rfl
  · rfl
  · rename_i hbare
    simp only [hbare] at h
    simp [h]

theorem expandTemplate_failure (start : Option Site) (tag : Tree) (chunks : List String)
    (holes : List Tree) :
    (state.expandTemplate job start tag chunks holes).2.failure = state.failure :=
  congrArg Prod.snd (memory_expandTemplate start tag chunks holes)

theorem visited_failed {tree tree' : Tree} {state' : Expansion}
    (h : Visited job tree state tree' state') (hfailed : state.hasFailed = true) :
    tree' = tree ∧ state' = state := by
  rw [Visited, visit_failed hfailed] at h
  cases h
  exact ⟨rfl, rfl⟩

theorem visitedAll_failed {trees trees' : List Tree} {state' : Expansion}
    (h : VisitedAll job trees state trees' state') (hfailed : state.hasFailed = true) :
    trees' = trees ∧ state' = state := by
  rw [VisitedAll, visitAll_failed hfailed] at h
  cases h
  exact ⟨rfl, rfl⟩

def Stops (job : Job) (tree : Tree) (state : Expansion) (tree' : Tree) (state' : Expansion) :
    Prop :=
  state.hasFailed = false → state'.hasFailed = true →
    ∃ stop late, Stopped job stop late tree state tree' state'

def StopsAll (job : Job) (trees : List Tree) (state : Expansion) (trees' : List Tree)
    (state' : Expansion) : Prop :=
  state.hasFailed = false → state'.hasFailed = true →
    ∃ stop late, StoppedAll job stop late trees state trees' state'

theorem first_or_second {First Second : Prop} {state₁ state₂ : Expansion}
    (first : state.hasFailed = false → state₁.hasFailed = true → First)
    (second : state₁.hasFailed = false → state₂.hasFailed = true → Second)
    (hok : state.hasFailed = false) (hfailed : state₂.hasFailed = true) :
    (state₁.hasFailed = true ∧ First) ∨ Second := by
  cases hfailed₁ : state₁.hasFailed with
  | true => exact .inl ⟨rfl, first hok hfailed₁⟩
  | false => exact .inr (second hfailed₁ hfailed)

theorem stops_tagged (start : Option Site) (chunks : List String) {tag tag' : Tree}
    {holes holes' : List Tree} {state₁ state₂ : Expansion}
    (hv₁ : Visited job tag state tag' state₁) (hv₂ : VisitedAll job holes state₁ holes' state₂)
    (ih₁ : Stops job tag state tag' state₁) (ih₂ : StopsAll job holes state₁ holes' state₂) :
    Stops job (.tagged start tag chunks holes) state
      (state₂.expandTemplate job start tag' chunks holes').1
      (state₂.expandTemplate job start tag' chunks holes').2 := by
  intro hok hfailed
  rw [hasFailed, expandTemplate_failure] at hfailed
  unfold expandTemplate
  rcases first_or_second ih₁ ih₂ hok hfailed with
    ⟨hfailed₁, stop, late, hstopped⟩ | ⟨stop, late, hstopped⟩
  · obtain ⟨rfl, rfl⟩ := visitedAll_failed hv₂ hfailed₁
    -- A tag with a declarator in it is no variable, so the template is not expanded.
    rw [if_neg (by simp [not_tracked hstopped])]
    exact ⟨stop, late, .tag start chunks holes' hstopped⟩
  · split
    · rename_i htracked
      exact ⟨stop, late ++ [chunks], .expanded start chunks hv₁ hstopped htracked⟩
    · rename_i huntracked
      exact ⟨stop, late, .hole start chunks hv₁ hstopped (by simpa using huntracked)⟩

theorem stops_declarator {target target' value value' : Tree} {state₁ state₂ : Expansion}
    (hv₁ : Visited job target (state.nameDeclarator job target value).2 target' state₁)
    (hv₂ : Visited job value state₁ value' state₂)
    (ih₁ : Stops job target (state.nameDeclarator job target value).2 target' state₁)
    (ih₂ : Stops job value state₁ value' state₂) :
    Stops job (.declarator target value) state
      (.declarator target' (withName (state.nameDeclarator job target value).1 value')) state₂ := by
  intro hok hfailed
  cases hnamed : (state.nameDeclarator job target value).2.hasFailed with
  | true =>
    obtain ⟨rfl, rfl⟩ := visited_failed hv₁ hnamed
    obtain ⟨rfl, rfl⟩ := visited_failed hv₂ hnamed
    rw [nameDeclarator_failed hnamed]
    exact ⟨_, [], .here hok rfl hnamed⟩
  | false =>
    rcases first_or_second ih₁ ih₂ hnamed hfailed with
      ⟨hfailed₁, stop, late, hstopped⟩ | ⟨stop, late, hstopped⟩
    · obtain ⟨rfl, rfl⟩ := visited_failed hv₂ hfailed₁
      exact ⟨stop, late, .target hstopped⟩
    · exact ⟨stop, late, .initial hv₁ hstopped⟩

theorem walk_stops : Walk job (Stops job) (StopsAll job) where
  failed _ _ hfailed hok _ := by cases hfailed.symm.trans hok
  leaf _ _ _ hok hfailed := by cases hfailed.symm.trans hok
  template chunks _ _ _ _ _ ih hok hfailed := by
    obtain ⟨stop, late, hstopped⟩ := ih hok hfailed
    exact ⟨stop, late, .template chunks hstopped⟩
  tagged start chunks _ _ _ _ _ _ _ _ hv₁ hv₂ ih₁ ih₂ := stops_tagged start chunks hv₁ hv₂ ih₁ ih₂
  call start _ _ _ _ _ _ _ hv₁ hv₂ ih₁ ih₂ hok hfailed := by
    rcases first_or_second ih₁ ih₂ hok hfailed with
      ⟨hfailed₁, stop, late, hstopped⟩ | ⟨stop, late, hstopped⟩
    · obtain ⟨rfl, rfl⟩ := visitedAll_failed hv₂ hfailed₁
      exact ⟨stop, late, .callee start _ hstopped⟩
    · exact ⟨stop, late, .argument start hv₁ hstopped⟩
  object hasComma _ _ _ _ _ ih hok hfailed := by
    obtain ⟨stop, late, hstopped⟩ := ih hok hfailed
    exact ⟨stop, late, .object hasComma hstopped⟩
  property hv₁ hv₂ ih₁ ih₂ hok hfailed := by
    rcases first_or_second ih₁ ih₂ hok hfailed with
      ⟨hfailed₁, stop, late, hstopped⟩ | ⟨stop, late, hstopped⟩
    · obtain ⟨rfl, rfl⟩ := visited_failed hv₂ hfailed₁
      exact ⟨stop, late, .key _ hstopped⟩
    · exact ⟨stop, late, .value hv₁ hstopped⟩
  declarator _ hv₁ hv₂ ih₁ ih₂ := stops_declarator hv₁ hv₂ ih₁ ih₂
  node form _ _ _ _ _ ih hok hfailed := by
    obtain ⟨stop, late, hstopped⟩ := ih hok hfailed
    exact ⟨stop, late, .node form hstopped⟩
  nil _ hok hfailed := by cases hfailed.symm.trans hok
  cons hv₁ hv₂ ih₁ ih₂ hok hfailed := by
    rcases first_or_second ih₁ ih₂ hok hfailed with
      ⟨hfailed₁, stop, late, hstopped⟩ | ⟨stop, late, hstopped⟩
    · obtain ⟨rfl, rfl⟩ := visitedAll_failed hv₂ hfailed₁
      exact ⟨stop, late, .head _ hstopped⟩
    · exact ⟨stop, late, .tail hv₁ hstopped⟩

def compileLate (job : Job) (late : List (List String)) (stop : Expansion) : Expansion :=
  late.foldl (fun state chunks => (state.piecesOf job chunks).2) stop

theorem compileLate_keeps {α : Type} (view : Expansion → α)
    (hcompile : ∀ chunks state, view (state.piecesOf job chunks).2 = view state)
    (late : List (List String)) (stop : Expansion) :
    view (compileLate job late stop) = view stop := by
  induction late generalizing stop with
  | nil => rfl
  | cons chunks rest ih => exact (ih _).trans (hcompile chunks stop)

mutual

theorem Stopped.last {tree tree' : Tree} {state' : Expansion} :
    ∀ {late state}, Stopped job stop late tree state tree' state' →
      stop.hasFailed = true ∧ state' = compileLate job late stop
  | _, _, .here _ _ hfailed => ⟨hfailed, rfl⟩
  | _, _, .template _ h => h.last
  | _, _, .tag _ _ _ h => h.last
  | _, _, .hole _ _ _ h _ => h.last
  | _, _, .expanded _ chunks _ h _ => by
    obtain ⟨hfailed, rfl⟩ := h.last
    exact ⟨hfailed, by simp [compileLate]⟩
  | _, _, .callee _ _ h => h.last
  | _, _, .argument _ _ h => h.last
  | _, _, .object _ h => h.last
  | _, _, .key _ h => h.last
  | _, _, .value _ h => h.last
  | _, _, .target h => h.last
  | _, _, .initial _ h => h.last
  | _, _, .node _ h => h.last

theorem StoppedAll.last {trees trees' : List Tree} {state' : Expansion} :
    ∀ {late state}, StoppedAll job stop late trees state trees' state' →
      stop.hasFailed = true ∧ state' = compileLate job late stop
  | _, _, .head _ h => h.last
  | _, _, .tail _ h => h.last

end

def redirectItem (job : Job) : Item → Item
  | .importing declaration => .importing (redirect job declaration)
  | .code tree => .code tree

def redirectProgram (job : Job) (program : Program) : Program :=
  { program with items := program.items.map (redirectItem job) }

def tracking (state : Expansion) (cssAlias factoryAlias : Option String) : Expansion :=
  { state with cssAlias, factoryAlias }

@[simp] theorem tracking_tracking (css css' factory factory' : Option String) :
    tracking (tracking state css factory) css' factory' = tracking state css' factory' := rfl

@[simp] theorem tracking_hasFailed (css factory : Option String) :
    (tracking state css factory).hasFailed = state.hasFailed := rfl

theorem visitImport_tracking (declaration : ImportDeclaration) (state : Expansion) :
    ∃ css factory, state.visitImport job declaration =
      (redirect job declaration, tracking state css factory) :=
  ⟨_, _, visitImport_eq declaration state⟩

theorem visitItems_failed (hfailed : state.hasFailed = true) (items : List Item) :
    ∃ css factory,
      visitItems job items state = (items.map (redirectItem job), tracking state css factory) := by
  induction items generalizing state with
  | nil => exact ⟨_, _, rfl⟩
  | cons item rest ih =>
    cases item with
    | importing declaration =>
      obtain ⟨css, factory, himport⟩ := @visitImport_tracking job declaration state
      obtain ⟨css', factory', hrest⟩ := @ih (tracking state css factory) hfailed
      rw [visitItems_importing, himport]
      exact ⟨css', factory', by simp [hrest, redirectItem]⟩
    | code tree =>
      obtain ⟨css, factory, hrest⟩ := ih hfailed
      rw [visitItems_code, visit_failed hfailed]
      exact ⟨css, factory, by simp [hrest, redirectItem]⟩

theorem visitItems_stops {items : List Item} (hok : state.hasFailed = false)
    (hfailed : (visitItems job items state).2.hasFailed = true) :
    ∃ before tree after tree' stop late, items = before ++ .code tree :: after ∧
      (visitItems job before state).2.hasFailed = false ∧
      Stopped job stop late tree (visitItems job before state).2 tree' (compileLate job late stop) ∧
      ∃ css factory, visitItems job items state =
        ((visitItems job before state).1 ++ .code tree' :: after.map (redirectItem job),
          tracking (compileLate job late stop) css factory) := by
  induction items generalizing state with
  | nil => cases hok.symm.trans hfailed
  | cons item rest ih =>
    cases item with
    | importing declaration =>
      rw [visitItems_importing] at hfailed
      have hnext : (state.visitImport job declaration).2.hasFailed = false := by
        rwa [visitImport_eq]
      obtain ⟨before, tree, after, tree', stop, late, rfl, hbefore, hstopped, css, factory,
        hrest⟩ := ih hnext hfailed
      refine ⟨.importing declaration :: before, tree, after, tree', stop, late, rfl, ?_⟩
      simp only [visitItems_importing]
      exact ⟨hbefore, hstopped, css, factory, by rw [hrest]; rfl⟩
    | code first =>
      rw [visitItems_code] at hfailed
      cases hfirst : (visit job first state).2.hasFailed with
      | true =>
        obtain ⟨stop, late, hstopped⟩ := walk_stops.one first state hok hfirst
        have hlast := hstopped.last.2
        rw [hlast] at hfirst hstopped
        obtain ⟨css, factory, hrest⟩ := visitItems_failed hfirst rest
        refine ⟨[], first, rest, _, stop, late, rfl, hok, hstopped, css, factory, ?_⟩
        rw [visitItems_code]
        dsimp only
        rw [hlast, hrest]
        rfl
      | false =>
        obtain ⟨before, tree, after, tree', stop, late, rfl, hbefore, hstopped, css, factory,
          hrest⟩ := ih hfirst hfailed
        refine ⟨.code first :: before, tree, after, tree', stop, late, rfl, ?_⟩
        simp only [visitItems_code]
        exact ⟨hbefore, hstopped, css, factory, by rw [hrest]; rfl⟩

def visitPrograms (job : Job) : List Program → Expansion → List Program × Expansion
  | [], state => ([], state)
  | program :: rest, state =>
    let seen := visitProgram job program state
    (seen.1 :: (visitPrograms job rest seen.2).1, (visitPrograms job rest seen.2).2)

theorem visitProgram_eq (program : Program) (state : Expansion) :
    visitProgram job program state =
      let seen := visitItems job program.items (tracking state none none)
      ({ program with items := seen.1 }, seen.2.finish job) := rfl

theorem visitProgram_failed (hfailed : state.hasFailed = true) (program : Program) :
    ∃ css factory,
      visitProgram job program state = (redirectProgram job program, tracking state css factory) := by
  obtain ⟨css, factory, hitems⟩ :=
    @visitItems_failed job (tracking state none none) hfailed program.items
  refine ⟨css, factory, ?_⟩
  rw [visitProgram_eq, hitems, tracking_tracking]
  dsimp only
  rw [@finish_failed job (tracking state css factory) hfailed, redirectProgram]

theorem visitPrograms_failed (hfailed : state.hasFailed = true) (programs : List Program) :
    ∃ css factory, visitPrograms job programs state =
      (programs.map (redirectProgram job), tracking state css factory) := by
  induction programs generalizing state with
  | nil => exact ⟨_, _, rfl⟩
  | cons program rest ih =>
    obtain ⟨css, factory, hfirst⟩ := @visitProgram_failed job state hfailed program
    obtain ⟨css', factory', hrest⟩ := @ih (tracking state css factory) hfailed
    refine ⟨css', factory', ?_⟩
    rw [visitPrograms, hfirst]
    dsimp only
    rw [hrest, tracking_tracking, List.map_cons]

/-- When a program of several fails, the walk of it stopped at a declarator. What was visited before
the declarator stays visited, and from there on code stays as written. Imports are redirected to the
end of the last program, and the templates around the declarator are compiled, which neither the
names nor the finished files tell. The failure is the one of the declarator. -/
theorem after_failure (job : Job) (start : Expansion) (hok : start.hasFailed = false)
    (program : Program) (later : List Program) (failure : Failure)
    (hfail : (visitProgram job program start).2.failure = some failure) :
    ∃ before tree after tree' stop late,
      let seen := visitItems job before (tracking start none none)
      let last := visitPrograms job (program :: later) start
      program.items = before ++ .code tree :: after ∧ seen.2.hasFailed = false ∧
      Stopped job stop late tree seen.2 tree' (compileLate job late stop) ∧
      last.1 = { program with items := seen.1 ++ .code tree' :: after.map (redirectItem job) } ::
        later.map (redirectProgram job) ∧
      stop.failure = some failure ∧ last.2.failure = some failure ∧
      last.2.session = (compileLate job late stop).session ∧
      last.2.calls = (compileLate job late stop).calls ∧
      last.2.session.names = stop.session.names ∧ last.2.session.files = stop.session.files := by
  rw [visitProgram_eq, finish_failure] at hfail
  have hfailed : (visitItems job program.items (tracking start none none)).2.hasFailed = true := by
    rw [hasFailed, hfail]
    rfl
  obtain ⟨before, tree, after, tree', stop, late, hsplit, hbefore, hstopped, css, factory,
    hitems⟩ := @visitItems_stops job (tracking start none none) program.items hok hfailed
  have hfailure : (compileLate job late stop).failure = stop.failure :=
    compileLate_keeps (·.failure) (by simp) late stop
  have hnames : (compileLate job late stop).session.names = stop.session.names :=
    compileLate_keeps (·.session.names) (by simp) late stop
  have hfiles : (compileLate job late stop).session.files = stop.session.files :=
    compileLate_keeps (·.session.files) (by simp) late stop
  rw [hitems] at hfail hfailed
  have hfirst : visitProgram job program start =
      ({ program with items := (visitItems job program.items (tracking start none none)).1 },
        tracking (compileLate job late stop) css factory) := by
    rw [visitProgram_eq, hitems]
    dsimp only
    rw [finish_failed hfailed]
  obtain ⟨css', factory', hlater⟩ := @visitPrograms_failed job _ hfailed later
  refine ⟨before, tree, after, tree', stop, late, hsplit, hbefore, hstopped, ?_⟩
  rw [visitPrograms, hfirst]
  dsimp only
  rw [hlater, hitems]
  exact ⟨rfl, hfailure.symm.trans hfail, hfail, rfl, rfl, hnames, hfiles⟩

def around : Tree :=
  .styled none ["color: ", ";"]
    [.node (.arrow false) [.node .parameters [], .node .block [.making "Card" none []]]]

def cardTwice : Program where
  isModule := true
  shebang := none
  items := Item.imports ++ [.code (.making "Card" none []), .code around,
    .importing (.ofName "css" "react-bemed/css" "tint")]

def wrapped : Job :=
  .inProduction "a.js"

theorem after_failure_cardTwice :
    let start : Expansion := { session := {} }
    let last := visitPrograms wrapped [cardTwice, cardTwice] start
    (start.hasFailed = false ∧ (visitProgram wrapped cardTwice start).2.failure =
      some (.duplicateName "Card" "a.js" 0)) ∧
      last.2.failure = some (.duplicateName "Card" "a.js" 0) ∧
      ∃ first, last.1 = [first, redirectProgram wrapped cardTwice] := by
  have hfail : (visitProgram wrapped cardTwice { session := {} }).2.failure =
      some (.duplicateName "Card" "a.js" 0) := by decide
  obtain ⟨_, _, _, _, _, _, -, -, -, hprograms, -, hfailure, -⟩ :=
    after_failure wrapped { session := {} } rfl cardTwice [cardTwice] _ hfail
  exact ⟨⟨rfl, hfail⟩, hfailure, _, hprograms⟩

def sources (items : List Item) : List String :=
  items.filterMap fun
    | .importing declaration => some declaration.source.value
    | .code _ => none

theorem rewritten_after_failure :
    let state := (visitItems wrapped (cardTwice.items.take 3) { session := {} }).2
    let seen := visit wrapped around state
    let programs := [cardTwice, cardTwice]
    let last := visitPrograms wrapped programs { session := {} }
    ∃ stop, Stopped wrapped stop [["color: ", ";"]] around state seen.1 seen.2 ∧
      stop.failure = some (.duplicateName "Card" "a.js" 0) ∧
      seen.1 ≠ around ∧ last.2.calls ≠ stop.calls ∧ last.2.session.cache ≠ stop.session.cache ∧
      last.1.map (fun program => sources (program.items.drop 4)) ≠
        programs.map (fun program => sources (program.items.drop 4)) := by
  intro state seen programs last
  have hfailed : (state.nameDeclarator wrapped (.identifier "Card")
      (.call none (.identifier "make") [])).2.hasFailed = true := by decide
  have hcard : Stopped wrapped _ [] (.making "Card" none []) state (.making "Card" none []) _ :=
    .node (.declaration "const") (.head [] (.here (by decide) rfl hfailed))
  have hhole : Stopped wrapped _ [] _ state _ _ :=
    .node (.arrow false) (.tail (visit_node .parameters []) (.head [] (.node .block (.head [] hcard))))
  have htag : Visited wrapped (.identifier "css") state (.identifier "css") state := visit_leaf rfl
  refine ⟨_, .expanded none ["color: ", ";"] htag (.head [] hhole) (by decide), ?_⟩
  refine ⟨by decide, fun h => ?_, by decide, by decide, by decide⟩
  cases h

end Interruption

end ScopedStyles
