import ScopedStyles.Build.File
import ScopedStyles.Proofs.Requests

namespace ScopedStyles

open JavaScript Expansion

namespace Job

variable {job : Job} {session : Session} {program : Program}

def requests (job : Job) (session : Session) (program : Program) : List Request :=
  requestsInItems job program.items { session }

theorem run_ledger (job : Job) (session : Session) (program : Program) :
    (visitItems job program.items { session }).2.ledger =
      ⟨(job.run session program).session.cache, (job.run session program).calls⟩ :=
  (@finish_ledger job _).symm

theorem run_served (job : Job) (session : Session) (program : Program) :
    Session.Served session (job.requests session program) (job.run session program).calls
      (job.run session program).session := by
  obtain ⟨hcache, hcalls⟩ := Ledger.mk.inj (run_ledger job session program)
  obtain ⟨calls, hmade, hserved⟩ := visitItems_asks program.items { session }
  obtain rfl : calls = (job.run session program).calls := by
    rw [← hcalls, hmade]
    rfl
  refine ⟨fun source => ?_, hserved.pieces, hserved.calls⟩
  rw [Session.cached?, ← hcache]
  exact hserved.cached source

theorem run_uncompiled (h : job.settings.options.precompile = false) :
    (job.run session program).calls = [] ∧
      (job.run session program).session.cache = session.cache := by
  have hkept : (visitItems job program.items { session }).2.ledger =
      ledger ({ session } : Expansion) := by
    refine visitItems_keeps ledger (fun _ _ _ => rfl) (fun _ _ _ => claim_ledger ..) ?_ _ _
    intro chunks state
    rw [piecesOf, h]
    rfl
  obtain ⟨hcache, hcalls⟩ := Ledger.mk.inj ((run_ledger job session program).symm.trans hkept)
  exact ⟨hcalls, hcache⟩

end Job

inductive Operation where
  | transform (job : Job) (program : Program)
  | compile (compiler : Compiler) (source : String)
  | register (name file : String) (line : UInt64)
  | markSeen (file : String)
  | clear

structure SessionHistory where
  session : Session := {}
  requests : List Request := []
  calls : List CompilerCall := []

namespace SessionHistory

variable {history : SessionHistory}

def step (history : SessionHistory) : Operation → SessionHistory
  | .transform job program =>
    let outcome := job.run history.session program
    { session := outcome.session
      requests := history.requests ++ job.requests history.session program
      calls := history.calls ++ outcome.calls }
  | .compile compiler source =>
    let (pieces, session, calls) := history.session.compile compiler source
    { session
      requests := history.requests ++ [⟨compiler, source, pieces⟩]
      calls := history.calls ++ calls }
  | .register name file line =>
    match history.session.register name file line with
    | .ok session => { history with session }
    | .error _ => history
  | .markSeen file => { history with session := history.session.markSeen file }
  | .clear => {}

def after (history : SessionHistory) (operations : List Operation) : SessionHistory :=
  operations.foldl step history

theorem step_served {operation : Operation} (h : operation ≠ .clear) (history : SessionHistory) :
    ∃ requests calls,
      (history.step operation).requests = history.requests ++ requests ∧
      (history.step operation).calls = history.calls ++ calls ∧
      Session.Served history.session requests calls (history.step operation).session := by
  have hnone : ∀ next : SessionHistory, next.requests = history.requests →
      next.calls = history.calls → next.session.cache = history.session.cache →
      ∃ requests calls, next.requests = history.requests ++ requests ∧
        next.calls = history.calls ++ calls ∧
        Session.Served history.session requests calls next.session := by
    intro next hrequests hcalls hcache
    refine ⟨[], [], by simp [hrequests], by simp [hcalls], .of_cached?_eq fun source => ?_⟩
    rw [Session.cached?, hcache, Session.cached?]
  cases operation with
  | transform job program => exact ⟨_, _, rfl, rfl, job.run_served history.session program⟩
  | compile compiler source => exact ⟨_, _, rfl, rfl, Session.served_compile ..⟩
  | register name file line =>
    rw [step, Session.register]
    cases history.session.name? name <;> exact hnone _ rfl rfl rfl
  | markSeen file => exact hnone _ rfl rfl (Session.markSeen_cache ..)
  | clear => exact absurd rfl h

theorem after_served {operations : List Operation} (h : .clear ∉ operations)
    (history : SessionHistory) : ∃ requests calls,
      (history.after operations).requests = history.requests ++ requests ∧
      (history.after operations).calls = history.calls ++ calls ∧
      Session.Served history.session requests calls (history.after operations).session := by
  induction operations generalizing history with
  | nil => exact ⟨[], [], by simp [after], by simp [after], .of_cached?_eq fun _ => rfl⟩
  | cons operation rest ih =>
    rw [List.mem_cons, not_or] at h
    obtain ⟨first, callsFirst, hrequests, hcalls, hserved⟩ := step_served (Ne.symm h.1) history
    obtain ⟨more, callsMore, hrequests', hcalls', hserved'⟩ := ih h.2 (history.step operation)
    refine ⟨first ++ more, callsFirst ++ callsMore, ?_, ?_, hserved.trans hserved'⟩
    · rw [← List.append_assoc, ← hrequests]
      exact hrequests'
    · rw [← List.append_assoc, ← hcalls]
      exact hcalls'

def Sound (history : SessionHistory) : Prop :=
  Session.Served {} history.requests history.calls history.session

theorem sound_fresh : Sound {} :=
  .of_cached?_eq fun _ => rfl

theorem sound_step (h : history.Sound) (operation : Operation) :
    (history.step operation).Sound := by
  by_cases hclear : operation = .clear
  · subst hclear
    exact sound_fresh
  · obtain ⟨requests, calls, hrequests, hcalls, hserved⟩ := step_served hclear history
    rw [Sound, hrequests, hcalls]
    exact h.trans hserved

theorem sound_after (h : history.Sound) (operations : List Operation) :
    (history.after operations).Sound := by
  induction operations generalizing history with
  | nil => exact h
  | cons operation rest ih => exact ih (sound_step h operation)

/-- Since it was cleared, a session has a css text compiled once at most: for the first request for
it, with the compiler at hand then. The text is unknown before that; from then on, every request is
given the pieces that were made then, until the session is cleared. Where css is not compiled
beforehand, no compiler is called and nothing is remembered. -/
theorem compiled_once (operations : List Operation) (source : String) :
    let history := after {} operations
    let first := Session.firstFor history.requests source
    history.calls.filter (·.body == source) =
        (if first.isSome = true then [⟨Compiler.stand, source⟩] else []) ∧
      history.session.cached? source = first.map Request.compiled ∧
      (∀ request ∈ history.requests, request.source = source →
        first.map Request.compiled = some request.pieces) ∧
      (∀ later, .clear ∉ later → first.isSome = true →
        (history.after later).session.cached? source = first.map Request.compiled) ∧
      ∀ (job : Job) (session : Session) (program : Program),
        job.settings.options.precompile = false →
        (job.run session program).calls = [] ∧
          (job.run session program).session.cache = session.cache := by
  intro history first
  have hsound : history.Sound := sound_after sound_fresh operations
  refine ⟨by simpa [Session.cached?] using hsound.calls source, hsound.cached source, ?_, ?_, ?_⟩
  · rintro request hmem rfl
    exact hsound.pieces request hmem
  · intro later hlater hfirst
    obtain ⟨requests, calls, -, -, hserved⟩ := after_served hlater history
    have hcached : history.session.cached? source = first.map Request.compiled :=
      hsound.cached source
    rw [hserved.cached, Session.piecesAfter, hcached]
    obtain ⟨request, hrequest⟩ := Option.isSome_iff_exists.mp hfirst
    rw [hrequest]
    rfl
  · exact fun job session program h => Job.run_uncompiled h

theorem compiled_once_two_compilers :
    let job : Job := ⟨{ compiler := fun _ body => body }, some "card.js", none⟩
    let idle : Job := ⟨{ options := { precompile := false }, compiler := fun _ _ => "" },
      some "tile.js", none⟩
    let program := Program.withImports [.styled none ["color: red;"] []]
    let history := after {} [.compile Compiler.wrap "color: red;", .transform job program]
    let later : List Operation := [.compile (fun _ _ => "") "color: red;"]
    (.clear ∉ later ∧ (Session.firstFor history.requests "color: red;").isSome = true ∧
      idle.settings.options.precompile = false) ∧
      history.calls.filter (·.body == "color: red;") = [⟨"__BEMED__", "color: red;"⟩] ∧
      (∀ request ∈ history.requests, request.source = "color: red;" →
        request.pieces = ["__BEMED__\x7bcolor: red;\x7d"]) ∧
      (history.after later).session.cached? "color: red;" =
        some ["__BEMED__\x7bcolor: red;\x7d"] ∧
      (idle.run history.session program).calls = [] := by
  intro job idle program history later
  obtain ⟨hcalls, -, hpieces, hlater, hidle⟩ :=
    compiled_once [.compile Compiler.wrap "color: red;", .transform job program] "color: red;"
  have hclear : .clear ∉ later := by simp [later]
  have hfirst : (Session.firstFor history.requests "color: red;").isSome = true := by decide
  have hcompiled : (Session.firstFor history.requests "color: red;").map Request.compiled =
      some ["__BEMED__\x7bcolor: red;\x7d"] := by decide
  refine ⟨⟨hclear, hfirst, rfl⟩, ?_, ?_, ?_, ?_⟩
  · rw [hcalls, if_pos hfirst]
    rfl
  · intro request hmem hsource
    have hgiven := hpieces request hmem hsource
    rw [hcompiled] at hgiven
    exact (Option.some.inj hgiven).symm
  · exact (hlater later hclear hfirst).trans hcompiled
  · exact (hidle idle history.session program rfl).1

end SessionHistory

end ScopedStyles
