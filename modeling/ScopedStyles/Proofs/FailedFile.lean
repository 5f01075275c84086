import ScopedStyles.Proofs.UniqueNames

namespace ScopedStyles

open JavaScript Expansion

namespace FailedFile

variable {known entries : List Entry} {failure : Failure}

theorem foldl_enter_failure (h : (entries.foldl enter (known, none)).2 = some failure) :
    ∃ before entry rest first, entries = before ++ entry :: rest ∧
      (entries.foldl enter (known, none)).1 = known ++ before ∧
      (known ++ before).lookup entry.1 = some first ∧
      failure = .duplicateName entry.1 first.file first.line := by
  induction entries generalizing known with
  | nil => cases h
  | cons entry rest ih =>
    rw [List.foldl_cons, enter] at h ⊢
    cases hentry : known.lookup entry.1 with
    | some first =>
      simp only [hentry] at h ⊢
      rw [foldl_enter_failed rfl] at h ⊢
      exact ⟨[], entry, rest, first, rfl, by simp, by simpa using hentry, (Option.some.inj h).symm⟩
    | none =>
      simp only [hentry] at h ⊢
      obtain ⟨before, second, after, first, hsplit, hnames, hfirst, hfailure⟩ := ih h
      refine ⟨entry :: before, second, after, first, by rw [hsplit]; rfl, ?_, ?_, hfailure⟩
      · simpa using hnames
      · simpa using hfirst

theorem foldl_enter_known {entry : Entry} (hmem : entry ∈ entries)
    (hknown : (known.lookup entry.1).isSome = true) :
    (entries.foldl enter (known, none)).2.isSome = true := by
  cases hfold : (entries.foldl enter (known, none)).2 with
  | some failure => rfl
  | none =>
    have hfree := (Entry.foldl_enter_ok_iff.mp hfold).2 entry hmem
    rw [hfree] at hknown
    cases hknown

variable {job : Job} {session : Session} {program : Program}

theorem claim_unchecked (h : job.file = none ∨ job.settings.checksUniqueNames = false)
    (name : String) (start : Option Site) (state : Expansion) :
    state.claim job name start = state := by
  unfold claim
  split
  · rfl
  · rename_i hfile
    rcases h with h | h
    · simp [hfile] at h
    · simp [h]

theorem visitItems_unchecked (h : job.file = none ∨ job.settings.checksUniqueNames = false)
    (items : List Item) (state : Expansion) :
    memory (visitItems job items state).2 = memory state :=
  visitItems_keeps memory (fun _ _ _ => rfl) (fun name start state => by rw [claim_unchecked h])
    (by simp [memory]) items state

theorem run_failure_checked (hfail : (job.run session program).failure = some failure) :
    ∃ file, job.file = some file ∧ job.settings.checksUniqueNames = true := by
  have hunchecked : ¬ (job.file = none ∨ job.settings.checksUniqueNames = false) := by
    intro h
    have hnone : (visitItems job program.items { session }).2.failure = none :=
      congrArg Prod.snd (visitItems_unchecked h program.items { session })
    have hfail : (visitItems job program.items { session }).2.failure = some failure := by
      simpa [Job.run, visitProgram] using hfail
    cases hnone.symm.trans hfail
  cases hfile : job.file with
  | none => exact absurd (.inl hfile) hunchecked
  | some file =>
    cases hchecks : job.settings.checksUniqueNames with
    | false => exact absurd (.inr hchecks) hunchecked
    | true => exact ⟨file, rfl, rfl⟩

theorem run_failure_files (hfail : (job.run session program).failure = some failure) :
    (job.run session program).session.files = session.files := by
  have hfailed : (visitItems job program.items { session }).2.hasFailed = true := by
    simp only [Job.run, visitProgram, finish_failure] at hfail
    rw [hasFailed, hfail]
    rfl
  simp only [Job.run, visitProgram]
  rw [finish_failed hfailed, visitItems_files]

def declared (job : Job) (file : String) (program : Program) : List Entry :=
  (Declaration.inItems job none program.items).map (·.entry job file)

theorem run_failure_unseen {file : String} (hfile : job.file = some file)
    (hchecks : job.settings.checksUniqueNames = true)
    (hfail : (job.run session program).failure = some failure) :
    session.hasSeen file = false ∧
      ((job.run session program).session.names, (job.run session program).failure) =
        (declared job file program).foldl enter (session.names, none) := by
  have hmemory := Job.run_memory hfile hchecks session program
  cases hseen : session.hasSeen file with
  | true =>
    rw [hseen, if_pos rfl, hfail] at hmemory
    cases congrArg Prod.snd hmemory
  | false =>
    rw [hseen, if_neg Bool.false_ne_true] at hmemory
    exact ⟨rfl, hmemory⟩

theorem run_failure_of_known {file : String} (hfile : job.file = some file)
    (hchecks : job.settings.checksUniqueNames = true) (hunseen : session.hasSeen file = false)
    {entry : Entry} (hmem : entry ∈ declared job file program)
    (hknown : (session.name? entry.1).isSome = true) :
    (job.run session program).failure.isSome = true := by
  have hmemory := Job.run_memory hfile hchecks session program
  rw [hunseen, if_neg Bool.false_ne_true] at hmemory
  have hfailed := foldl_enter_known hmem hknown
  rwa [declared, ← hmemory] at hfailed

theorem run_failure_entries (hfail : (job.run session program).failure = some failure) :
    ∃ file before entry rest first, job.file = some file ∧
      job.settings.checksUniqueNames = true ∧ session.hasSeen file = false ∧
      declared job file program = before ++ entry :: rest ∧
      (job.run session program).session.names = session.names ++ before ∧
      (job.run session program).session.name? entry.1 = some first ∧
      failure = .duplicateName entry.1 first.file first.line := by
  obtain ⟨file, hfile, hchecks⟩ := run_failure_checked hfail
  obtain ⟨hunseen, hmemory⟩ := run_failure_unseen hfile hchecks hfail
  have hstopped := (congrArg Prod.snd hmemory).symm.trans hfail
  obtain ⟨before, entry, rest, first, hsplit, hnames, hfirst, hfailure⟩ :=
    foldl_enter_failure hstopped
  have hnames : (job.run session program).session.names = session.names ++ before :=
    (congrArg Prod.fst hmemory).trans hnames
  refine ⟨file, before, entry, rest, first, hfile, hchecks, hunseen, hsplit, hnames, ?_, hfailure⟩
  rwa [Session.name?, hnames]

theorem program_eq_error {source : Source} {isModule : Bool}
    (h : source.program isModule = .error failure) :
    ∃ detail, failure = .unreadable source.name detail := by
  unfold Source.program at h
  split at h
  · cases h
  · cases h
    exact ⟨_, rfl⟩

theorem buildFile_unreadable {settings : Settings} {file content : String}
    (h : (Source.ofText file content).program true = .error failure) :
    buildFile settings session file content = (.error failure, session, []) := by
  unfold buildFile
  dsimp only
  generalize (Source.ofText file content).program true = read at h
  subst h
  rfl

theorem buildFile_readable {settings : Settings} {file content : String}
    (h : (Source.ofText file content).program true = .ok program) :
    let outcome := Job.run ⟨settings, some file, some (.ofText file content)⟩ session program
    buildFile settings session file content =
      ((outcome.failure.map .error).getD (.ok outcome.program.print), outcome.session,
        outcome.calls) := by
  unfold buildFile
  dsimp only
  generalize (Source.ofText file content).program true = read at h
  subst h
  dsimp only
  generalize Job.run _ session program = outcome
  cases outcome.failure <;> rfl

theorem buildFile_outcome (settings : Settings) (session : Session) (file content : String) :
    let built := buildFile settings session file content
    (∀ text, built.1 = .ok text → built.2.1.files = (session.markSeen file).files) ∧
    ∀ failure, built.1 = .error failure →
      built.2.1.files = session.files ∧
      ((∃ detail, failure = .unreadable file detail ∧ built.2 = (session, [])) ∨
        ∃ name first, failure = .duplicateName name first.file first.line ∧
          built.2.1.name? name = some first ∧ session.hasSeen file = false ∧
          settings.checksUniqueNames = true) := by
  cases hread : (Source.ofText file content).program true with
  | error problem =>
    rw [buildFile_unreadable hread]
    constructor
    · intro text hok
      cases hok
    · rintro failure ⟨⟩
      obtain ⟨detail, hdetail⟩ := program_eq_error hread
      exact ⟨rfl, .inl ⟨detail, hdetail, rfl⟩⟩
  | ok program =>
    rw [buildFile_readable hread]
    dsimp only
    generalize hjob : (⟨settings, some file, some (.ofText file content)⟩ : Job) = job
    have hfile : job.file = some file := hjob ▸ rfl
    have hsettings : job.settings = settings := hjob ▸ rfl
    cases hrun : (job.run session program).failure with
    | none =>
      constructor
      · intro text _
        exact Job.run_files hfile session program hrun
      · intro failure hfail
        cases hfail
    | some problem =>
      constructor
      · intro text hok
        cases hok
      · rintro failure ⟨⟩
        obtain ⟨file', _, entry, _, first, hfile', hchecks, hunseen, -, -, hknown, hfailure⟩ :=
          run_failure_entries hrun
        obtain rfl := Option.some.inj (hfile.symm.trans hfile')
        rw [hsettings] at hchecks
        exact ⟨run_failure_files hrun, .inr ⟨entry.1, first, hfailure, hknown, hunseen, hchecks⟩⟩

/-- A run that fails leaves the finished files as they were. In the registry it leaves every name
it entered before the one that was there already, and a later version of the file that declares one
of these fails again. -/
theorem failed_run_leaves_names (job : Job) (session : Session) (program : Program)
    (failure : Failure) (hfail : (job.run session program).failure = some failure) :
    let after := (job.run session program).session
    after.files = session.files ∧
      ∃ file before entry rest first,
        job.file = some file ∧ declared job file program = before ++ entry :: rest ∧
        after.names = session.names ++ before ∧
        after.name? entry.1 = some first ∧
        failure = .duplicateName entry.1 first.file first.line ∧
        ∀ (source : Option Source) (again : Program),
          (∃ left ∈ before, left.1 ∈ (declared { job with source } file again).map Prod.fst) →
          (Job.run { job with source } after again).failure.isSome = true := by
  have hfiles := run_failure_files hfail
  obtain ⟨file, before, entry, rest, first, hfile, hchecks, hunseen, hsplit, hnames, hfirst,
    hfailure⟩ := run_failure_entries hfail
  refine ⟨hfiles, file, before, entry, rest, first, hfile, hsplit, hnames, hfirst, hfailure, ?_⟩
  rintro source again ⟨left, hleft, hagain⟩
  obtain ⟨second, hsecond, hname⟩ := List.mem_map.mp hagain
  have hunseen : (job.run session program).session.hasSeen file = false := by
    rwa [Session.hasSeen, hfiles]
  refine run_failure_of_known hfile hchecks hunseen hsecond ?_
  rw [hname, Session.name?, hnames, List.lookup_isSome_iff]
  exact ⟨left, List.mem_append_right _ hleft, beq_self_eq_true _⟩

def making (names : List String) : Program :=
  .withImports (names.map fun name => .making name none [])

theorem failed_run_leaves_names_tile :
    let job : Job := .inProduction "b.js"
    let session : Session := { names := [("Card", ⟨"a.js", 2⟩)], files := ["a.js"] }
    let first := job.run session (making ["Tile", "Card"])
    first.failure = some (.duplicateName "Card" "a.js" 2) ∧
      first.session.files = ["a.js"] ∧
      (job.run first.session (making ["Tile", "Box"])).failure.isSome = true := by
  intro job session first
  have hfail : first.failure = some (.duplicateName "Card" "a.js" 2) := by decide
  obtain ⟨hfiles, file, before, entry, rest, _, hfile, -, hnames, -, -, hagain⟩ :=
    failed_run_leaves_names job session (making ["Tile", "Card"]) _ hfail
  have hleft : session.names ++ before = session.names ++ [("Tile", ⟨"b.js", 0⟩)] := by
    rw [← hnames]
    decide
  obtain rfl := List.append_cancel_left hleft
  obtain rfl := Option.some.inj hfile
  exact ⟨hfail, hfiles, hagain none _ ⟨_, List.mem_singleton_self _, by decide⟩⟩

theorem name_left_by_failed_run :
    ¬ ∀ (job : Job) (session : Session) (program : Program) (name file : String) (line : UInt64),
      (job.run session program).failure = some (.duplicateName name file line) →
      (job.run session program).session.names = session.names ∧
        (job.run session program).session.files = session.files := by
  intro hnone
  have hnames := (hnone (.inProduction "b.js")
    { names := [("Card", ⟨"a.js", 2⟩)], files := ["a.js"] } (making ["Tile", "Card"])
    "Card" "a.js" 2 (by decide)).1
  exact absurd hnames (by decide)

end FailedFile

end ScopedStyles
