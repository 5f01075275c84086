import ScopedStyles.Proofs.Ledger

namespace ScopedStyles

open JavaScript

structure Request where
  compiler : Compiler
  source : String
  pieces : List String

def Request.compiled (request : Request) : List String :=
  Marker.split (request.compiler Compiler.stand request.source)

namespace Session

variable {session session₁ session₂ : Session} {before after : List Request}
  {callsBefore callsAfter : List CompilerCall}

def firstFor (requests : List Request) (source : String) : Option Request :=
  requests.find? (·.source == source)

def piecesAfter (session : Session) (requests : List Request) (source : String) :
    Option (List String) :=
  (session.cached? source).or ((firstFor requests source).map Request.compiled)

structure Served (session : Session) (requests : List Request) (calls : List CompilerCall)
    (session' : Session) : Prop where
  cached : ∀ source, session'.cached? source = session.piecesAfter requests source
  pieces : ∀ request ∈ requests,
    session.piecesAfter requests request.source = some request.pieces
  calls : ∀ source, calls.filter (·.body == source) =
    if session.cached? source = none ∧ (firstFor requests source).isSome = true then
      [⟨Compiler.stand, source⟩]
    else []

theorem firstFor_append (source : String) :
    firstFor (before ++ after) source = (firstFor before source).or (firstFor after source) :=
  List.find?_append

theorem Served.of_cached?_eq (h : ∀ source, session₁.cached? source = session.cached? source) :
    Served session [] [] session₁ where
  cached source := by simp [h, piecesAfter, firstFor]
  pieces _ hmem := by cases hmem
  calls source := by simp [firstFor]

theorem Served.piecesAfter_append (h : Served session before callsBefore session₁)
    (source : String) :
    session.piecesAfter (before ++ after) source = session₁.piecesAfter after source := by
  rw [piecesAfter, piecesAfter, h.cached, piecesAfter, firstFor_append, Option.map_or,
    Option.or_assoc]

theorem Served.trans (h₁ : Served session before callsBefore session₁)
    (h₂ : Served session₁ after callsAfter session₂) :
    Served session (before ++ after) (callsBefore ++ callsAfter) session₂ where
  cached source := by rw [h₂.cached, h₁.piecesAfter_append]
  pieces request hmem := by
    rcases List.mem_append.mp hmem with hmem | hmem
    · rw [h₁.piecesAfter_append, piecesAfter, h₁.cached, h₁.pieces request hmem, Option.some_or]
    · rw [h₁.piecesAfter_append, h₂.pieces request hmem]
  calls source := by
    -- Only the first of the two can have compiled a text that the second was asked for as well.
    rw [List.filter_append, h₁.calls, h₂.calls, h₁.cached, piecesAfter, firstFor_append]
    cases session.cached? source with
    | some pieces => simp
    | none => cases firstFor before source <;> simp

theorem served_compile (session : Session) (compiler : Compiler) (source : String) :
    Served session [⟨compiler, source, (session.compile compiler source).1⟩]
      (session.compile compiler source).2.2 (session.compile compiler source).2.1 where
  cached other := by
    rw [compiled_compile, piecesAfter, firstFor, answer]
    by_cases heq : other = source
    · subst heq
      cases session.cached? other <;> simp [Request.compiled]
    · simp [heq, Ne.symm heq]
  pieces request hmem := by
    obtain rfl := List.mem_singleton.mp hmem
    rw [compile_fst, piecesAfter, firstFor, answer]
    cases session.cached? source <;> simp [Request.compiled]
  calls other := by
    unfold compile
    by_cases heq : source = other
    · subst heq
      cases session.cached? source <;> simp [firstFor]
    · cases session.cached? source <;> simp [firstFor, heq]

end Session

namespace Expansion

variable {job : Job} {state state₁ state₂ : Expansion}

def requestsFor (job : Job) (tag : Tree) (chunks : List String) (state : Expansion) :
    List Request :=
  if state.isTracked tag && job.settings.options.precompile then
    [⟨job.settings.compiler, String.join (Template.tokens chunks), (state.piecesOf job chunks).1⟩]
  else []

theorem expandTemplate_requested {tag : Tree} {chunks : List String} {request : Request}
    (h : request ∈ requestsFor job tag chunks state) (start : Option Site)
    (holes : List Tree) :
    (state.expandTemplate job start tag chunks holes).1 =
      callFor job start tag holes request.pieces := by
  unfold requestsFor at h
  split at h
  · rename_i hasked
    obtain rfl := List.mem_singleton.mp h
    rw [Bool.and_eq_true] at hasked
    rw [expandTemplate, if_pos hasked.1]
  · cases h

mutual

def requestsIn (job : Job) (tree : Tree) (state : Expansion) : List Request :=
  if state.hasFailed then []
  else
    match tree with
    | .absent | .identifier _ | .word _ | .token _ | .string _ => []
    | .template _ holes => requestsInAll job holes state
    | .tagged _ tag chunks holes =>
      let (tag', state₁) := visit job tag state
      requestsIn job tag state ++ requestsInAll job holes state₁ ++
        requestsFor job tag' chunks (visitAll job holes state₁).2
    | .call _ callee arguments =>
      requestsIn job callee state ++ requestsInAll job arguments (visit job callee state).2
    | .object properties _ => requestsInAll job properties state
    | .property key value =>
      requestsIn job key state ++ requestsIn job value (visit job key state).2
    | .declarator target value =>
      let named := (state.nameDeclarator job target value).2
      requestsIn job target named ++ requestsIn job value (visit job target named).2
    | .node _ children => requestsInAll job children state

def requestsInAll (job : Job) : List Tree → Expansion → List Request
  | [], _ => []
  | tree :: rest, state =>
    requestsIn job tree state ++ requestsInAll job rest (visit job tree state).2

end

attribute [local simp] requestsIn in
theorem requestsIn_failed (h : state.hasFailed = true) (tree : Tree) :
    requestsIn job tree state = [] := by
  cases tree <;> simp [h]

theorem requestsInAll_failed (h : state.hasFailed = true) (trees : List Tree) :
    requestsInAll job trees state = [] := by
  induction trees with
  | nil => rfl
  | cons tree rest ih => simp [requestsInAll, requestsIn_failed h, visit_failed h, ih]

theorem requestsIn_leaf {tree : Tree} (h : tree.isLeaf = true) :
    requestsIn job tree state = [] := by
  cases tree <;> simp_all [requestsIn, Tree.isLeaf]

theorem requestsIn_template (chunks : List String) (holes : List Tree) :
    requestsIn job (.template chunks holes) state = requestsInAll job holes state := by
  cases h : state.hasFailed with
  | true => rw [requestsIn_failed h, requestsInAll_failed h]
  | false => simp [requestsIn, h]

theorem requestsIn_tagged (h : state.hasFailed = false) (start : Option Site) (tag : Tree)
    (chunks : List String) (holes : List Tree) :
    requestsIn job (.tagged start tag chunks holes) state =
      let tagged := visit job tag state
      requestsIn job tag state ++ requestsInAll job holes tagged.2 ++
        requestsFor job tagged.1 chunks (visitAll job holes tagged.2).2 := by
  simp [requestsIn, h]

theorem requestsIn_call (start : Option Site) (callee : Tree) (arguments : List Tree) :
    requestsIn job (.call start callee arguments) state =
      requestsIn job callee state ++ requestsInAll job arguments (visit job callee state).2 := by
  cases h : state.hasFailed with
  | true => simp [requestsIn_failed h, visit_failed h, requestsInAll_failed h]
  | false => simp [requestsIn, h]

theorem requestsIn_object (properties : List Tree) (hasComma : Bool) :
    requestsIn job (.object properties hasComma) state = requestsInAll job properties state := by
  cases h : state.hasFailed with
  | true => rw [requestsIn_failed h, requestsInAll_failed h]
  | false => simp [requestsIn, h]

theorem requestsIn_property (key value : Tree) :
    requestsIn job (.property key value) state =
      requestsIn job key state ++ requestsIn job value (visit job key state).2 := by
  cases h : state.hasFailed with
  | true => simp [requestsIn_failed h, visit_failed h]
  | false => simp [requestsIn, h]

theorem requestsIn_declarator (h : state.hasFailed = false) (target value : Tree) :
    requestsIn job (.declarator target value) state =
      let named := (state.nameDeclarator job target value).2
      requestsIn job target named ++ requestsIn job value (visit job target named).2 := by
  simp [requestsIn, h]

theorem requestsIn_node (form : Form) (children : List Tree) :
    requestsIn job (.node form children) state = requestsInAll job children state := by
  cases h : state.hasFailed with
  | true => rw [requestsIn_failed h, requestsInAll_failed h]
  | false => simp [requestsIn, h]

def Asks (requests : List Request) (state state' : Expansion) : Prop :=
  ∃ calls, state'.calls = state.calls ++ calls ∧
    Session.Served state.session requests calls state'.session

namespace Asks

variable {before after : List Request}

theorem of_ledger (h : state₁.ledger = state.ledger) : Asks [] state state₁ := by
  obtain ⟨hcache, hcalls⟩ := Ledger.mk.inj h
  refine ⟨[], by rw [hcalls, List.append_nil], .of_cached?_eq fun source => ?_⟩
  rw [Session.cached?, hcache, Session.cached?]

theorem refl : Asks [] state state :=
  of_ledger rfl

theorem trans (h₁ : Asks before state state₁) (h₂ : Asks after state₁ state₂) :
    Asks (before ++ after) state state₂ := by
  obtain ⟨calls₁, hcalls₁, hserved₁⟩ := h₁
  obtain ⟨calls₂, hcalls₂, hserved₂⟩ := h₂
  exact ⟨calls₁ ++ calls₂, by rw [hcalls₂, hcalls₁, List.append_assoc], hserved₁.trans hserved₂⟩

end Asks

theorem expandTemplate_asks (start : Option Site) (tag : Tree) (chunks : List String)
    (holes : List Tree) :
    Asks (requestsFor job tag chunks state) state
      (state.expandTemplate job start tag chunks holes).2 := by
  unfold expandTemplate requestsFor
  cases state.isTracked tag with
  | false => exact .refl
  | true =>
    unfold piecesOf
    cases job.settings.options.precompile with
    | false => exact .refl
    | true => exact ⟨_, rfl, Session.served_compile ..⟩

theorem walk_asks :
    Walk job (fun tree state _ state' => Asks (requestsIn job tree state) state state')
      (fun trees state _ state' => Asks (requestsInAll job trees state) state state') where
  failed tree _ h := by
    rw [requestsIn_failed h]
    exact .refl
  leaf _ _ h := by
    rw [requestsIn_leaf h]
    exact .refl
  template _ _ _ _ _ _ ih := by
    rw [requestsIn_template]
    exact ih
  tagged start chunks {tag holes state tag' state₁ holes' state₂} hok hv₁ hv₂ ih₁ ih₂ := by
    rw [requestsIn_tagged hok, hv₁]
    dsimp only
    rw [hv₂]
    exact (ih₁.trans ih₂).trans (expandTemplate_asks ..)
  call _ _ _ _ _ _ _ _ hv₁ _ ih₁ ih₂ := by
    rw [requestsIn_call, hv₁]
    exact ih₁.trans ih₂
  object _ _ _ _ _ _ ih := by
    rw [requestsIn_object]
    exact ih
  property hv₁ _ ih₁ ih₂ := by
    rw [requestsIn_property, hv₁]
    exact ih₁.trans ih₂
  declarator {target value _ _ _ _ _} hok hv₁ _ ih₁ ih₂ := by
    rw [requestsIn_declarator hok]
    dsimp only
    rw [hv₁]
    exact (Asks.of_ledger (nameDeclarator_ledger target value)).trans (ih₁.trans ih₂)
  node _ _ _ _ _ _ ih := by
    rw [requestsIn_node]
    exact ih
  nil _ := .refl
  cons hv₁ _ ih₁ ih₂ := by
    rw [requestsInAll, hv₁]
    exact ih₁.trans ih₂

def requestsInItems (job : Job) : List Item → Expansion → List Request
  | [], _ => []
  | .importing declaration :: rest, state =>
    requestsInItems job rest (state.visitImport job declaration).2
  | .code tree :: rest, state =>
    requestsIn job tree state ++ requestsInItems job rest (visit job tree state).2

theorem visitItems_asks (items : List Item) (state : Expansion) :
    Asks (requestsInItems job items state) state (visitItems job items state).2 := by
  induction items generalizing state with
  | nil => exact .refl
  | cons item rest ih =>
    cases item with
    | importing declaration =>
      have himport : Asks [] state (state.visitImport job declaration).2 := by
        rw [visitImport_eq]
        exact .of_ledger rfl
      rw [visitItems_importing]
      exact himport.trans (ih _)
    | code tree =>
      rw [visitItems_code]
      exact (walk_asks.one tree state).trans (ih _)

end Expansion

end ScopedStyles
