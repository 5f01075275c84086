import ScopedStyles.Proofs.CompiledOnce

namespace ScopedStyles

open JavaScript Expansion

namespace Session

variable {session : Session} {compiler : Compiler}

def Faithful (compiler : Compiler) (session : Session) : Prop :=
  session.answer compiler = ({} : Session).answer compiler

theorem answer_of_cache_eq {session' : Session} (h : session'.cache = session.cache) :
    session'.answer compiler = session.answer compiler := by
  funext source
  rw [answer, cached?, h, answer, cached?]

end Session

theorem Job.run_answer (job : Job) (session : Session) (program : Program) :
    (job.run session program).session.answer job.settings.compiler =
      session.answer job.settings.compiler := by
  have hvisited : (visitItems job program.items { session }).2.session.answer
      job.settings.compiler = session.answer job.settings.compiler := by
    refine visitItems_keeps (·.session.answer job.settings.compiler) (fun _ _ _ => rfl) ?_ ?_ _ _
    · intro name start state
      exact Session.answer_of_cache_eq (congrArg Ledger.cache (claim_ledger name start))
    · intro chunks state
      exact (piecesOf_compiled chunks state).answer
  rw [← hvisited]
  exact Session.answer_of_cache_eq (congrArg Ledger.cache (run_ledger job session program)).symm

def Operation.Uses (compiler : Compiler) : Operation → Prop
  | .transform job _ => job.settings.compiler = compiler
  | .compile own _ => own = compiler
  | .register .. | .markSeen _ | .clear => True

namespace SessionHistory

variable {history : SessionHistory} {compiler : Compiler}

theorem faithful_step (h : history.session.Faithful compiler) {operation : Operation}
    (huses : operation.Uses compiler) : (history.step operation).session.Faithful compiler := by
  cases operation with
  | transform job program =>
    obtain rfl := huses
    exact (job.run_answer history.session program).trans h
  | compile own source =>
    obtain rfl := huses
    exact (Session.compiled_compile history.session own source).answer.trans h
  | register name file line =>
    rw [step, Session.register]
    cases history.session.name? name <;> exact h
  | markSeen file => exact (Session.answer_of_cache_eq (Session.markSeen_cache ..)).trans h
  | clear => rfl

theorem faithful_after (h : history.session.Faithful compiler) {operations : List Operation}
    (huses : ∀ operation ∈ operations, operation.Uses compiler) :
    (history.after operations).session.Faithful compiler := by
  induction operations generalizing history with
  | nil => exact h
  | cons operation rest ih =>
    obtain ⟨hfirst, hrest⟩ := List.forall_mem_cons.mp huses
    exact ih (faithful_step h hfirst) hrest

end SessionHistory

namespace Expansion

def SameAnswers (compiler : Compiler) (one other : Ledger) : Prop :=
  ({ cache := other.cache } : Session).answer compiler =
    ({ cache := one.cache } : Session).answer compiler

theorem respected_sameAnswers (job : Job) : Respected job (SameAnswers job.settings.compiler) := by
  intro chunks state ledger hsame
  have hanswer : (state.withLedger ledger).session.answer job.settings.compiler =
      state.session.answer job.settings.compiler := hsame
  refine ⟨?_, ?_⟩
  · rw [piecesOf_fst, piecesOf_fst, hanswer]
  · exact (piecesOf_compiled chunks _).answer.trans
      (hanswer.trans (piecesOf_compiled chunks state).answer.symm)

end Expansion

namespace HiddenCache

theorem cache_hidden (job : Job) (operations : List Operation)
    (huses : ∀ operation ∈ operations, operation.Uses job.settings.compiler) (program : Program) :
    let session := (SessionHistory.after {} operations).session
    let filled := job.run session program
    let empty := job.run { session with cache := [] } program
    filled.failure = empty.failure ∧ filled.program = empty.program ∧
      filled.session.names = empty.session.names ∧ filled.session.files = empty.session.files := by
  intro session filled empty
  have hfaithful : session.Faithful job.settings.compiler :=
    @SessionHistory.faithful_after {} _ rfl _ huses
  have hagree : Agree (SameAnswers job.settings.compiler) { session }
      { session := { session with cache := [] } } :=
    ⟨⟨[], []⟩, rfl, hfaithful.symm⟩
  obtain ⟨hprogram, ledger, hstate, -⟩ :=
    visitProgram_mirrors (respected_sameAnswers job) program { session } _ hagree
  exact ⟨(congrArg (·.failure) hstate).symm, hprogram.symm,
    (congrArg (·.session.names) hstate).symm, (congrArg (·.session.files) hstate).symm⟩

theorem cache_hidden_marker :
    let job : Job := .inProduction "card.js"
    let operations : List Operation :=
      [.transform job (.withImports [.styled none ["color: ", ";"] [.identifier "tint"]])]
    let session := (SessionHistory.after {} operations).session
    let written := Program.withImports [.styled none ["color: __BEMED_VAR_0__;"] []]
    (∀ operation ∈ operations, operation.Uses job.settings.compiler) ∧
      (session.cached? "color: __BEMED_VAR_0__;").isSome = true ∧
      (job.run session written).program =
        (job.run { session with cache := [] } written).program := by
  intro job operations session written
  have huses : ∀ operation ∈ operations, operation.Uses job.settings.compiler := by
    intro operation hmem
    obtain rfl := List.mem_singleton.mp hmem
    rfl
  exact ⟨huses, by decide, (cache_hidden job operations huses written).2.1⟩

end HiddenCache

end ScopedStyles
