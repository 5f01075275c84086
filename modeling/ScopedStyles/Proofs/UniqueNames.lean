import Mathlib.Data.List.Nodup
import ScopedStyles.Proofs.Declarations

namespace ScopedStyles

open JavaScript

namespace Entry

def Distinct (entries : List Entry) : Prop :=
  (entries.map Prod.fst).Nodup

def FirstDuplicate (known entries : List Entry) (failure : Failure) : Prop :=
  ∃ before name record after first, entries = before ++ (name, record) :: after ∧
    Distinct (known ++ before) ∧ (name, first) ∈ known ++ before ∧
    failure = .duplicateName name first.file first.line

variable {known entries : List Entry} {name : String} {record : NameRecord}

theorem lookup_eq_some_iff (h : Distinct entries) :
    entries.lookup name = some record ↔ (name, record) ∈ entries := by
  induction entries with
  | nil => simp
  | cons entry rest ih =>
    obtain ⟨key, first⟩ := entry
    obtain ⟨hkey, hrest⟩ := List.nodup_cons.mp h
    by_cases hname : name = key
    · subst hname
      have hnot : (name, record) ∉ rest := fun hm => hkey (List.mem_map.mpr ⟨_, hm, rfl⟩)
      simp [hnot, eq_comm]
    · simp [List.lookup_cons, beq_eq_false_iff_ne.mpr hname, hname, ih hrest]

theorem lookup_eq_none_iff : entries.lookup name = none ↔ name ∉ entries.map Prod.fst := by
  simp only [List.lookup_eq_none_iff, bne_iff_ne, List.mem_map, not_exists, not_and]
  exact ⟨fun h entry hm he => h entry hm he.symm, fun h entry hm he => h entry hm he.symm⟩

theorem lookup_append_singleton_eq_none {entry : Entry} :
    (known ++ [entry]).lookup name = none ↔ known.lookup name = none ∧ name ≠ entry.1 := by
  rw [lookup_eq_none_iff, lookup_eq_none_iff, List.map_append, List.mem_append, not_or]
  simp

theorem distinct_append_singleton (h : Distinct entries) (hname : entries.lookup name = none) :
    Distinct (entries ++ [(name, record)]) := by
  unfold Distinct
  rw [List.map_append, List.map_singleton]
  exact h.append (List.nodup_singleton _)
    (List.disjoint_singleton.mpr (lookup_eq_none_iff.mp hname))

open Expansion

theorem foldl_enter_ok_iff : (entries.foldl enter (known, none)).2 = none ↔
    Distinct entries ∧ ∀ entry ∈ entries, known.lookup entry.1 = none := by
  induction entries generalizing known with
  | nil => simp [Distinct]
  | cons entry rest ih =>
    rw [List.foldl_cons, enter]
    cases hentry : known.lookup entry.1 with
    | some first =>
      simp only
      rw [foldl_enter_failed rfl]
      constructor
      · intro h
        cases h
      · rintro ⟨-, hfree⟩
        rw [hfree entry List.mem_cons_self] at hentry
        cases hentry
    | none =>
      simp only [ih, lookup_append_singleton_eq_none, Distinct, List.map_cons, List.nodup_cons,
        List.forall_mem_cons, hentry, true_and]
      constructor
      · rintro ⟨hrest, hfree⟩
        refine ⟨⟨fun hmem => ?_, hrest⟩, fun later hlater => (hfree later hlater).1⟩
        obtain ⟨later, hlater, hname⟩ := List.mem_map.mp hmem
        exact (hfree later hlater).2 hname
      · rintro ⟨⟨hnew, hrest⟩, hfree⟩
        refine ⟨hrest, fun later hlater => ⟨hfree later hlater, fun hname => hnew ?_⟩⟩
        exact List.mem_map.mpr ⟨later, hlater, hname⟩

theorem foldl_enter_ok (hok : (entries.foldl enter (known, none)).2 = none) :
    (entries.foldl enter (known, none)).1 = known ++ entries := by
  induction entries generalizing known with
  | nil => simp
  | cons entry rest ih =>
    rw [List.foldl_cons, enter] at hok ⊢
    cases hentry : known.lookup entry.1 with
    | some first =>
      simp only [hentry] at hok
      rw [foldl_enter_failed rfl] at hok
      cases hok
    | none =>
      simp only [hentry] at hok ⊢
      rw [ih hok, List.append_assoc, List.singleton_append]

theorem foldl_enter_of_distinct (h : Distinct (known ++ entries)) :
    entries.foldl enter (known, none) = (known ++ entries, none) := by
  unfold Distinct at h
  rw [List.map_append, List.nodup_append] at h
  obtain ⟨-, hentries, hdisjoint⟩ := h
  have hok : (entries.foldl enter (known, none)).2 = none := by
    refine foldl_enter_ok_iff.mpr ⟨hentries, fun entry hmem => lookup_eq_none_iff.mpr ?_⟩
    intro hknown
    exact hdisjoint _ hknown _ (List.mem_map_of_mem hmem) rfl
  exact Prod.ext (foldl_enter_ok hok) hok

theorem foldl_enter_of_not_distinct (hknown : Distinct known) (h : ¬ Distinct (known ++ entries)) :
    ∃ failure, (entries.foldl enter (known, none)).2 = some failure ∧
      FirstDuplicate known entries failure := by
  induction entries generalizing known with
  | nil => exact absurd (by simpa using hknown) h
  | cons entry rest ih =>
    obtain ⟨name, record⟩ := entry
    cases hname : known.lookup name with
    | some first =>
      have hmem : (name, first) ∈ known := (lookup_eq_some_iff hknown).mp hname
      refine ⟨.duplicateName name first.file first.line, ?_, [], name, record, rest, first, rfl,
        by simpa using hknown, by simpa using hmem, rfl⟩
      rw [List.foldl_cons, enter]
      simp only [hname]
      rw [foldl_enter_failed rfl]
    | none =>
      have hdistinct : Distinct (known ++ [(name, record)]) :=
        distinct_append_singleton hknown hname
      obtain ⟨failure, hfail, before, name', record', after, first, hsplit, hbefore, hmem, heq⟩ :=
        ih hdistinct (by simpa using h)
      refine ⟨failure, ?_, (name, record) :: before, name', record', after, first, ?_, ?_, ?_, heq⟩
      · rw [List.foldl_cons, enter]
        simpa [hname] using hfail
      · rw [hsplit, List.cons_append]
      · simpa using hbefore
      · simpa using hmem

end Entry

structure Submission where
  file : String
  source : Option Source
  program : Program

namespace Submission

def job (settings : Settings) (submission : Submission) : Job :=
  ⟨settings, some submission.file, submission.source⟩

def run (settings : Settings) (session : Session) (submission : Submission) : Outcome :=
  (submission.job settings).run session submission.program

def entries (settings : Settings) (submission : Submission) : List Entry :=
  (Declaration.inItems (submission.job settings) none submission.program.items).map
    (·.entry (submission.job settings) submission.file)

def firsts (seen : List String) : List Submission → List Submission
  | [] => []
  | submission :: rest =>
    if submission.file ∈ seen then firsts seen rest
    else submission :: firsts (seen ++ [submission.file]) rest

def declared (settings : Settings) (seen : List String) (submissions : List Submission) :
    List Entry :=
  (firsts seen submissions).flatMap (entries settings)

def runAll (settings : Settings) : List Submission → Session → Session × Option Failure
  | [], session => (session, none)
  | submission :: rest, session =>
    match (submission.run settings session).failure with
    | some failure => ((submission.run settings session).session, some failure)
    | none => runAll settings rest (submission.run settings session).session

open Entry

variable {settings : Settings} {session : Session}

theorem job_file (settings : Settings) (submission : Submission) :
    (submission.job settings).file = some submission.file := rfl

theorem run_seen (hchecks : settings.checksUniqueNames = true) {submission : Submission}
    (hseen : submission.file ∈ session.files) :
    (submission.run settings session).session.names = session.names ∧
      (submission.run settings session).failure = none := by
  have h := Job.run_memory (job_file settings submission) hchecks session submission.program
  rw [if_pos (by simpa [Session.hasSeen] using hseen)] at h
  exact Prod.mk.inj h

theorem run_unseen (hchecks : settings.checksUniqueNames = true) {submission : Submission}
    (hunseen : submission.file ∉ session.files) :
    ((submission.run settings session).session.names, (submission.run settings session).failure) =
      (submission.entries settings).foldl Expansion.enter (session.names, none) := by
  have h := Job.run_memory (job_file settings submission) hchecks session submission.program
  rw [if_neg (by simpa [Session.hasSeen] using hunseen)] at h
  exact h

theorem run_failure_isSome_iff (hchecks : settings.checksUniqueNames = true)
    (hknown : Distinct session.names) (submission : Submission) :
    (submission.run settings session).failure.isSome = true ↔
      submission.file ∉ session.files ∧
        ¬ Distinct (session.names ++ submission.entries settings) := by
  by_cases hseen : submission.file ∈ session.files
  · simp [(run_seen hchecks hseen).2, hseen]
  · have h := run_unseen hchecks hseen
    by_cases hd : Distinct (session.names ++ submission.entries settings)
    · rw [foldl_enter_of_distinct hd] at h
      simp [(Prod.mk.inj h).2, hd]
    · obtain ⟨failure, hf, -⟩ := foldl_enter_of_not_distinct hknown hd
      have hfail : (submission.run settings session).failure = some failure :=
        (congrArg Prod.snd h).trans hf
      simp [hfail, hseen, hd]

theorem run_failure_first (hchecks : settings.checksUniqueNames = true)
    (hknown : Distinct session.names) (submission : Submission) {failure : Failure}
    (hfail : (submission.run settings session).failure = some failure) :
    FirstDuplicate session.names (submission.entries settings) failure := by
  obtain ⟨hunseen, hd⟩ :=
    (run_failure_isSome_iff hchecks hknown submission).mp (by simp [hfail])
  obtain ⟨first, hf, hfirst⟩ := foldl_enter_of_not_distinct hknown hd
  have h := congrArg Prod.snd (run_unseen hchecks hunseen)
  rw [hf, hfail] at h
  exact Option.some.inj h ▸ hfirst

theorem run_ok_names (hchecks : settings.checksUniqueNames = true)
    (hknown : Distinct session.names) {submission : Submission}
    (hunseen : submission.file ∉ session.files)
    (hok : (submission.run settings session).failure = none) :
    (submission.run settings session).session.names =
        session.names ++ submission.entries settings ∧
      Distinct (session.names ++ submission.entries settings) := by
  have hd : Distinct (session.names ++ submission.entries settings) := by
    by_contra hd
    have h := (run_failure_isSome_iff hchecks hknown submission).mpr ⟨hunseen, hd⟩
    simp [hok] at h
  have h := run_unseen hchecks hunseen
  rw [foldl_enter_of_distinct hd] at h
  exact ⟨congrArg Prod.fst h, hd⟩

theorem run_ok_files {submission : Submission}
    (hok : (submission.run settings session).failure = none) :
    (submission.run settings session).session.files =
      if submission.file ∈ session.files then session.files
      else session.files ++ [submission.file] := by
  have h := Job.run_files (job_file settings submission) session submission.program hok
  rw [run, h, Session.markSeen]
  split <;> simp_all [Session.hasSeen]

theorem declared_cons_seen {seen : List String} {submission : Submission}
    (hseen : submission.file ∈ seen) (rest : List Submission) :
    declared settings seen (submission :: rest) = declared settings seen rest := by
  rw [declared, firsts, if_pos hseen, declared]

theorem declared_cons_unseen {seen : List String} {submission : Submission}
    (hunseen : submission.file ∉ seen) (rest : List Submission) :
    declared settings seen (submission :: rest) =
      submission.entries settings ++ declared settings (seen ++ [submission.file]) rest := by
  rw [declared, firsts, if_neg hunseen, List.flatMap_cons, declared]

theorem runAll_cons_ok {submission : Submission} {rest : List Submission}
    (hok : (runAll settings (submission :: rest) session).2 = none) :
    (submission.run settings session).failure = none ∧
      runAll settings (submission :: rest) session =
        runAll settings rest (submission.run settings session).session := by
  rw [runAll] at hok ⊢
  cases hf : (submission.run settings session).failure with
  | none => exact ⟨rfl, rfl⟩
  | some failure => simp [hf] at hok

theorem runAll_names (hchecks : settings.checksUniqueNames = true) {submissions : List Submission}
    (hknown : Distinct session.names) (hok : (runAll settings submissions session).2 = none) :
    (runAll settings submissions session).1.names =
        session.names ++ declared settings session.files submissions ∧
      Distinct (session.names ++ declared settings session.files submissions) := by
  induction submissions generalizing session with
  | nil => simpa [runAll, declared, firsts] using hknown
  | cons submission rest ih =>
    obtain ⟨hfirst, hrun⟩ := runAll_cons_ok hok
    rw [hrun] at hok ⊢
    have hfiles := run_ok_files hfirst
    by_cases hseen : submission.file ∈ session.files
    · have hnames := (run_seen hchecks hseen).1
      rw [if_pos hseen] at hfiles
      have hrest := ih (by rwa [hnames]) hok
      rwa [hnames, hfiles, ← declared_cons_seen hseen] at hrest
    · obtain ⟨hnames, hdistinct⟩ := run_ok_names hchecks hknown hseen hfirst
      rw [if_neg hseen] at hfiles
      have hrest := ih (by rwa [hnames]) hok
      rwa [hnames, hfiles, List.append_assoc, ← declared_cons_unseen hseen] at hrest

theorem mem_runAll_files {submissions : List Submission}
    (hok : (runAll settings submissions session).2 = none) (file : String) :
    file ∈ (runAll settings submissions session).1.files ↔
      file ∈ session.files ∨ file ∈ submissions.map (·.file) := by
  induction submissions generalizing session with
  | nil => simp [runAll]
  | cons submission rest ih =>
    obtain ⟨hfirst, hrun⟩ := runAll_cons_ok hok
    rw [hrun] at hok ⊢
    rw [ih hok, run_ok_files hfirst, List.map_cons, List.mem_cons]
    split
    · rename_i hseen
      constructor
      · rintro (h | h)
        · exact .inl h
        · exact .inr (.inr h)
      · rintro (h | rfl | h)
        · exact .inl h
        · exact .inl hseen
        · exact .inr h
    · rw [List.mem_append, List.mem_singleton, or_assoc]

/-- Over a build from the start, whose calls all went well so far: the registry has the names that
the first program of each file declares, no two of them the same. The next call fails exactly if
its file is new and a name in it was declared before, with the place of the first declaration. -/
theorem duplicates_exact (settings : Settings) (hchecks : settings.checksUniqueNames = true)
    (done : List Submission) (hdone : (runAll settings done {}).2 = none) (next : Submission) :
    let session := (runAll settings done {}).1
    let known := declared settings [] done
    let outcome := next.run settings session
    (Distinct known ∧
      ∀ name record, session.name? name = some record ↔ (name, record) ∈ known) ∧
    (outcome.failure.isSome = true ↔
      next.file ∉ done.map (·.file) ∧ ¬ Distinct (known ++ next.entries settings)) ∧
    (∀ failure, outcome.failure = some failure →
      FirstDuplicate known (next.entries settings) failure) ∧
    (next.file ∈ done.map (·.file) →
      outcome.failure = none ∧ outcome.session.names = session.names) := by
  have hempty : Distinct ({} : Session).names := List.nodup_nil
  obtain ⟨hnames, hdistinct⟩ := runAll_names hchecks hempty hdone
  have hfile : ∀ file, file ∈ (runAll settings done {}).1.files ↔ file ∈ done.map (·.file) := by
    simpa using mem_runAll_files hdone
  change _ = declared settings [] done at hnames
  change Distinct (declared settings [] done) at hdistinct
  have hknown : Distinct (runAll settings done {}).1.names := by rwa [hnames]
  dsimp only
  refine ⟨⟨hdistinct, ?_⟩, ?_, ?_, ?_⟩
  · intro name record
    rw [Session.name?, hnames, lookup_eq_some_iff hdistinct]
  · rw [run_failure_isSome_iff hchecks hknown, hnames, hfile]
  · intro failure hfail
    rw [← hnames]
    exact run_failure_first hchecks hknown next hfail
  · intro hseen
    exact (run_seen hchecks ((hfile _).mpr hseen)).symm

def making (file name : String) : Submission where
  file := file
  source := some ⟨file, ""⟩
  program := .withImports [.making name (some ⟨3, 0⟩) [], .styled (some ⟨4, 0⟩) ["color: red;"] []]

theorem duplicates_exact_card :
    let settings : Settings := .inProduction
    let session := (runAll settings [making "a.js" "Card"] {}).1
    (settings.checksUniqueNames = true ∧ (runAll settings [making "a.js" "Card"] {}).2 = none) ∧
      session.name? "Card" = some ⟨"a.js", 3⟩ ∧
      ((making "b.js" "Card").run settings session).failure.isSome = true := by
  obtain ⟨⟨-, hnames⟩, hfails, -, -⟩ := duplicates_exact .inProduction (by decide)
    [making "a.js" "Card"] (by decide) (making "b.js" "Card")
  refine ⟨⟨by decide, by decide⟩, (hnames _ _).mpr (by decide), hfails.mpr ⟨by decide, ?_⟩⟩
  unfold Distinct
  decide

end Submission

end ScopedStyles
