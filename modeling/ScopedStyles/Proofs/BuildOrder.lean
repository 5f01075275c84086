import Mathlib.Data.List.Perm.Basic
import ScopedStyles.Proofs.Answers
import ScopedStyles.Proofs.FailedFile

namespace ScopedStyles

open JavaScript Expansion

namespace Entry

variable {known entries entries' : List Entry}

theorem foldl_enter_perm (hperm : entries.Perm entries') :
    (entries.foldl enter (known, none)).2 = none ↔
      (entries'.foldl enter (known, none)).2 = none := by
  rw [foldl_enter_ok_iff, foldl_enter_ok_iff, Distinct, Distinct, (hperm.map Prod.fst).nodup_iff]
  simp only [hperm.mem_iff]

theorem foldl_enter_sublist (hsub : entries.Sublist entries')
    (hok : (entries'.foldl enter (known, none)).2 = none) :
    (entries.foldl enter (known, none)).2 = none := by
  obtain ⟨hdistinct, hfree⟩ := foldl_enter_ok_iff.mp hok
  refine foldl_enter_ok_iff.mpr ⟨hdistinct.sublist (hsub.map _), fun entry hmem => ?_⟩
  exact hfree entry (hsub.subset hmem)

theorem lookup_perm (hperm : entries.Perm entries') (h : Distinct entries) (name : String) :
    entries.lookup name = entries'.lookup name := by
  have h' : Distinct entries' := (hperm.map Prod.fst).nodup_iff.mp h
  refine Option.ext fun record => ?_
  rw [lookup_eq_some_iff h, lookup_eq_some_iff h', hperm.mem_iff]

end Entry

namespace Submission

variable {settings : Settings} {session : Session} {submission : Submission}
  {submissions submissions' : List Submission}

def news (settings : Settings) (session : Session) (submission : Submission) : List Entry :=
  if settings.checksUniqueNames && !session.hasSeen submission.file then submission.entries settings
  else []

theorem run_memory (settings : Settings) (session : Session) (submission : Submission) :
    ((submission.run settings session).session.names, (submission.run settings session).failure) =
      (submission.news settings session).foldl enter (session.names, none) := by
  rw [news]
  cases hchecks : settings.checksUniqueNames with
  | true =>
    have hrun := Job.run_memory (job_file settings submission) hchecks session submission.program
    cases hseen : session.hasSeen submission.file with
    | true => rwa [hseen] at hrun
    | false => rwa [hseen] at hrun
  | false =>
    have hunchecked : (submission.job settings).settings.checksUniqueNames = false := hchecks
    have hmemory := FailedFile.visitItems_unchecked (.inr hunchecked) submission.program.items
      { session }
    rw [← Job.run_memory_eq] at hmemory
    exact hmemory

theorem news_after {later : Submission} (hfile : later.file ≠ submission.file)
    (hok : (submission.run settings session).failure = none) :
    later.news settings (submission.run settings session).session = later.news settings session := by
  have hseen : (submission.run settings session).session.hasSeen later.file =
      session.hasSeen later.file := by
    rw [Session.hasSeen, run_ok_files hok, Session.hasSeen]
    split
    · rfl
    · simp [hfile]
  rw [news, news, hseen]

theorem runAll_memory (settings : Settings) (session : Session)
    (hfiles : (submissions.map (·.file)).Nodup) :
    ((runAll settings submissions session).1.names, (runAll settings submissions session).2) =
      (submissions.flatMap (news settings session)).foldl enter (session.names, none) := by
  induction submissions generalizing session with
  | nil => rfl
  | cons submission rest ih =>
    obtain ⟨hfile, hrest⟩ := List.nodup_cons.mp hfiles
    rw [List.flatMap_cons, List.foldl_append, ← run_memory, runAll]
    cases hrun : (submission.run settings session).failure with
    | some failure =>
      dsimp only
      rw [foldl_enter_failed rfl]
    | none =>
      have hnews : rest.flatMap (news settings (submission.run settings session).session) =
          rest.flatMap (news settings session) := by
        refine List.flatMap_congr fun later hlater => news_after (fun hsame => hfile ?_) hrun
        exact List.mem_map.mpr ⟨later, hlater, hsame⟩
      dsimp only
      rw [ih _ hrest, hnews]

theorem runAll_news (hfiles : (submissions.map (·.file)).Nodup)
    (hok : (runAll settings submissions session).2 = none) :
    (runAll settings submissions session).1.names =
        session.names ++ submissions.flatMap (news settings session) ∧
      Entry.Distinct (submissions.flatMap (news settings session)) := by
  have hmemory := runAll_memory settings session hfiles
  have hfold := (congrArg Prod.snd hmemory).symm.trans hok
  exact ⟨(congrArg Prod.fst hmemory).trans (Entry.foldl_enter_ok hfold),
    (Entry.foldl_enter_ok_iff.mp hfold).1⟩

def sources (settings : Settings) (submission : Submission) : List String :=
  sourcesInItems (submission.job settings) none submission.program.items

theorem run_compiled (hok : (submission.run settings session).failure = none) :
    Session.Compiled settings.compiler (submission.sources settings) session
      (submission.run settings session).session :=
  Job.run_compiled hok

theorem runAll_compiled (hok : (runAll settings submissions session).2 = none) :
    Session.Compiled settings.compiler (submissions.flatMap (sources settings)) session
      (runAll settings submissions session).1 := by
  induction submissions generalizing session with
  | nil => exact .of_cached?_eq fun _ => rfl
  | cons submission rest ih =>
    obtain ⟨hfirst, hrun⟩ := runAll_cons_ok hok
    rw [hrun] at hok ⊢
    exact (run_compiled hfirst).trans (ih hok)

def results (settings : Settings) : List Submission → Session → List (String × Program)
  | [], _ => []
  | submission :: rest, session =>
    (submission.file, (submission.run settings session).program) ::
      results settings rest (submission.run settings session).session

theorem run_ok_alone (hfiles : (submissions.map (·.file)).Nodup)
    (hok : (runAll settings submissions session).2 = none) (hmem : submission ∈ submissions) :
    (submission.run settings session).failure = none := by
  have hall := congrArg Prod.snd (runAll_memory settings session hfiles)
  have hone := congrArg Prod.snd (run_memory settings session submission)
  refine hone.trans (Entry.foldl_enter_sublist ?_ (hall.symm.trans hok))
  rw [List.flatMap_def]
  exact List.sublist_flatten_of_mem (List.mem_map_of_mem hmem)

theorem results_eq {start : Session}
    (hanswer : session.answer settings.compiler = start.answer settings.compiler)
    (halone : ∀ submission ∈ submissions, (submission.run settings start).failure = none)
    (hok : (runAll settings submissions session).2 = none) :
    results settings submissions session =
      submissions.map fun submission => (submission.file, (submission.run settings start).program) := by
  induction submissions generalizing session with
  | nil => rfl
  | cons submission rest ih =>
    obtain ⟨hfirst, hrun⟩ := runAll_cons_ok hok
    obtain ⟨hsubmission, hrest⟩ := List.forall_mem_cons.mp halone
    have hprogram : (submission.run settings session).program =
        (submission.run settings start).program :=
      Job.run_repeats hanswer hsubmission hfirst
    have hanswer₁ := (run_compiled hfirst).answer.trans hanswer
    rw [hrun] at hok
    rw [results, ih hanswer₁ hrest hok, hprogram, List.map_cons]

theorem order_immaterial (settings : Settings) (session : Session)
    (submissions submissions' : List Submission) (hperm : submissions.Perm submissions')
    (hfiles : (submissions.map (·.file)).Nodup) :
    let one := runAll settings submissions session
    let other := runAll settings submissions' session
    (one.2 = none ↔ other.2 = none) ∧
      (one.2 = none →
        (results settings submissions session).Perm (results settings submissions' session) ∧
        (∀ name, one.1.name? name = other.1.name? name) ∧
        (∀ file, one.1.hasSeen file = other.1.hasSeen file) ∧
        ∀ source, one.1.cached? source = other.1.cached? source) := by
  have hfiles' : (submissions'.map (·.file)).Nodup := (hperm.map _).nodup_iff.mp hfiles
  have hnews : (submissions.flatMap (news settings session)).Perm
      (submissions'.flatMap (news settings session)) := hperm.flatMap_right _
  have hiff : (runAll settings submissions session).2 = none ↔
      (runAll settings submissions' session).2 = none := by
    rw [congrArg Prod.snd (runAll_memory settings session hfiles),
      congrArg Prod.snd (runAll_memory settings session hfiles'), Entry.foldl_enter_perm hnews]
  refine ⟨hiff, fun hok => ?_⟩
  have hok' := hiff.mp hok
  refine ⟨?_, ?_, ?_, ?_⟩
  · -- Each program becomes what it becomes if its file is built alone.
    have halone : ∀ submission ∈ submissions, (submission.run settings session).failure = none :=
      fun submission hmem => run_ok_alone hfiles hok hmem
    have halone' : ∀ submission ∈ submissions', (submission.run settings session).failure = none :=
      fun submission hmem => halone submission (hperm.mem_iff.mpr hmem)
    rw [results_eq rfl halone hok, results_eq rfl halone' hok']
    exact hperm.map _
  · intro name
    obtain ⟨hnames, hdistinct⟩ := runAll_news hfiles hok
    obtain ⟨hnames', -⟩ := runAll_news hfiles' hok'
    rw [Session.name?, Session.name?, hnames, hnames', List.lookup_append, List.lookup_append,
      Entry.lookup_perm hnews hdistinct]
  · intro file
    rw [Session.hasSeen, Session.hasSeen, Bool.eq_iff_iff, List.contains_iff_mem,
      List.contains_iff_mem, mem_runAll_files hok, mem_runAll_files hok', (hperm.map _).mem_iff]
  · intro source
    rw [runAll_compiled hok, runAll_compiled hok']
    simp only [(hperm.flatMap_right (sources settings)).mem_iff]

theorem order_immaterial_card_tile :
    let settings : Settings := .inProduction
    let one := [making "card.js" "Card", making "tile.js" "Tile"]
    let other := [making "tile.js" "Tile", making "card.js" "Card"]
    (one.Perm other ∧ (one.map (·.file)).Nodup) ∧
      (runAll settings one {}).2 = none ∧ (runAll settings other {}).2 = none ∧
      (runAll settings other {}).1.name? "Tile" = some ⟨"tile.js", 3⟩ ∧
      (runAll settings other {}).1.cached? "color: red;" =
        some ["__BEMED__\x7bcolor: red;\x7d"] := by
  intro settings one other
  have hperm : one.Perm other := .swap ..
  have hfiles : (one.map (·.file)).Nodup := by decide
  have hok : (runAll settings one {}).2 = none := by decide
  obtain ⟨hiff, hsame⟩ := order_immaterial settings {} one other hperm hfiles
  obtain ⟨-, hnames, -, hcached⟩ := hsame hok
  refine ⟨⟨hperm, hfiles⟩, hok, hiff.mp hok, ?_, ?_⟩
  · rw [← hnames]
    decide
  · rw [← hcached]
    decide

end Submission

end ScopedStyles
