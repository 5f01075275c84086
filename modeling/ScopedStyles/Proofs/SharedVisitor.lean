import ScopedStyles.Proofs.CompiledOnce
import ScopedStyles.Proofs.FailedFile

namespace ScopedStyles

open JavaScript Expansion

namespace SharedVisitor

def takeFailure (state : Expansion) : Option Failure × Expansion :=
  (state.failure, { state with failure := none })

def visitEach (job : Job) :
    List Program → Expansion → List (Program × Option Failure) × Expansion
  | [], state => ([], state)
  | program :: rest, state =>
    let (program, state) := visitProgram job program state
    let (taken, state) := takeFailure state
    let (results, last) := visitEach job rest state
    ((program, taken) :: results, last)

def runEach (job : Job) :
    List Program → Session → List (Program × Option Failure) × Session × List CompilerCall
  | [], session => ([], session, [])
  | program :: rest, session =>
    let outcome := job.run session program
    let (results, last, calls) := runEach job rest outcome.session
    ((outcome.program, outcome.failure) :: results, last, outcome.calls ++ calls)

def Later (calls : List CompilerCall) (one other : Ledger) : Prop :=
  other = ⟨one.cache, calls ++ one.calls⟩

variable {job : Job} {calls : List CompilerCall}

theorem visitEach_cons (program : Program) (rest : List Program) (state : Expansion) :
    visitEach job (program :: rest) state =
      let seen := visitProgram job program state
      let later := visitEach job rest { seen.2 with failure := none }
      ((seen.1, seen.2.failure) :: later.1, later.2) := rfl

theorem runEach_cons (program : Program) (rest : List Program) (session : Session) :
    runEach job (program :: rest) session =
      let outcome := job.run session program
      let later := runEach job rest outcome.session
      ((outcome.program, outcome.failure) :: later.1, later.2.1, outcome.calls ++ later.2.2) := rfl

theorem respected_later (job : Job) (calls : List CompilerCall) : Respected job (Later calls) := by
  rintro chunks state _ rfl
  have hcached : ∀ source, (state.withLedger ⟨state.ledger.cache, calls ++ state.ledger.calls⟩
      ).session.cached? source = state.session.cached? source := fun _ => rfl
  unfold piecesOf Session.compile
  dsimp only
  rw [hcached]
  split
  · cases state.session.cached? (String.join (Template.tokens chunks)) with
    | some pieces => exact ⟨rfl, congrArg (Ledger.mk _) (List.append_assoc ..)⟩
    | none => exact ⟨rfl, congrArg (Ledger.mk _) (List.append_assoc ..)⟩
  · exact ⟨rfl, rfl⟩

theorem visitProgram_run (job : Job) (program : Program) (start : Expansion)
    (hok : start.failure = none) :
    let seen := visitProgram job program start
    let outcome := job.run start.session program
    seen.1 = outcome.program ∧ seen.2.failure = outcome.failure ∧
      seen.2.session = outcome.session ∧ seen.2.calls = start.calls ++ outcome.calls := by
  -- A visit forgets both aliases before it starts, so they are left out on either side.
  have hagree : Agree (Later start.calls) { session := start.session }
      { start with cssAlias := none, factoryAlias := none } := by
    refine ⟨⟨start.session.cache, start.calls⟩, ?_, ?_⟩
    · rw [hok]
      rfl
    · exact congrArg (Ledger.mk _) (List.append_nil _).symm
  obtain ⟨hprogram, ledger, hstate, hlater⟩ :=
    visitProgram_mirrors (respected_later job start.calls) program _ _ hagree
  rw [hlater] at hstate
  refine ⟨hprogram, ?_, ?_, ?_⟩
  · exact congrArg (·.failure) hstate
  · exact congrArg (·.session) hstate
  · exact congrArg (·.calls) hstate

theorem visitEach_eq_runEach (job : Job) (programs : List Program) (start : Expansion)
    (hok : start.failure = none) :
    let seen := visitEach job programs start
    let run := runEach job programs start.session
    seen.1 = run.1 ∧ seen.2.session = run.2.1 ∧ seen.2.failure = none ∧
      seen.2.calls = start.calls ++ run.2.2 := by
  induction programs generalizing start with
  | nil => exact ⟨rfl, rfl, hok, (List.append_nil _).symm⟩
  | cons program rest ih =>
    obtain ⟨hprogram, hfailure, hsession, hcalls⟩ := visitProgram_run job program start hok
    obtain ⟨hresults, hlast, hnone, hlater⟩ :=
      ih { (visitProgram job program start).2 with failure := none } rfl
    rw [visitEach_cons, runEach_cons]
    dsimp only
    rw [← hsession]
    refine ⟨?_, hlast, hnone, ?_⟩
    · rw [hresults, hprogram, hfailure]
    · rw [hlater, ← List.append_assoc, ← hcalls]

theorem visitEach_eq_runEach_after_import :
    let job : Job := .inProduction "card.js"
    let style : Tree := .styled none ["color: red;"] []
    let unimported : Program := { isModule := true, shebang := none, items := [.code style] }
    let programs := [FailedFile.making ["Card", "Card"], .withImports [style], unimported]
    let start : Expansion := { session := {}, cssAlias := some "css" }
    start.failure = none ∧
      (visitEach job programs start).1 = (runEach job programs {}).1 ∧
      (runEach job programs {}).1.map Prod.snd =
        [some (.duplicateName "Card" "card.js" 0), none, none] ∧
      (runEach job programs {}).1[2]?.map (·.1.items) = some [.code style] := by
  intro job style unimported programs start
  exact ⟨rfl, (visitEach_eq_runEach job programs start rfl).1, by decide, by rfl⟩

end SharedVisitor

end ScopedStyles
