import CodeBehind.Proofs.Events
import CodeBehind.Proofs.FileSystem.Alike

/-!
# What events do to a session

What is heard of the events, and what they do to the files.

An event says one record at most. Those that pass become lines on the console in the order of the events, and nothing is
printed besides (`stderr_performAll`). The same lines go to the log file if one is open, and that is the only way in
which a session and a run can come to differ: a run computes a tree from the files it puts in place, and the session has
the same tree with a longer log in it. `Mirrors` says that they differ at the place of the open log only, and there only
in the bytes of a file. It is kept by every event, also by the one that puts a file where the log was: the log is lost
then, and the trees agree at its place again.

## Main definitions

* `Event.heard?`, `Session.heard`, `Session.lines`: What is heard of events.
* `Entry.mode?`: An entry without its bytes.
* `Session.Mirrors`: The files of a session are a tree, but for what the log says.
* `Session.Said`: Nothing has happened but that something was said.

## Theorems

* `performAll_keeps`: What events have nothing to do with.
* `stderr_performAll`: What events print.
* `file_performAll`, `file_performAll_none`: When a log is still open.
* `shared_performAll`: The shared configuration stays.
* `mirrors_performAll`: The files of a session after some events.
* `said_performAll`, `files_performAll_logged`: Records are said and nothing else happens.
-/

namespace CodeBehind

/-! ## What is heard -/

/-- The record that an event says. -/
def Event.heard? : Event → Option Log.Record
  | .logged record => some record
  | .progressed title info ratio => some (Session.progressRecord title info ratio)
  | .progressCleared => some Session.clearedRecord
  | .saved _ _ => none

/-- An entry without its bytes: the mode of a file. -/
def Entry.mode? : Entry → Option Nat
  | .file _ mode => some mode
  | .directory => none

/-- What is put at a place is there whatever the tree was like; the root is a directory all the same. -/
theorem FileSystem.get?_set_congr (files other : FileSystem) (place : Place) (entry : Entry) :
    (files.set place entry).get? place = (other.set place entry).get? place := by
  by_cases hroot : place = []
  · rw [hroot]
    rfl
  · rw [get?_set_self files place entry hroot, get?_set_self other place entry hroot]

/-- Bytes that are added to a file change nothing but its bytes. -/
theorem FileSystem.append_keeps (files : FileSystem) (place : Place) (content : ByteArray) :
    (files.append place content).workdir = files.workdir ∧ (files.append place content).umask = files.umask ∧
      (∀ other, ((files.append place content).get? other).map Entry.mode? = (files.get? other).map Entry.mode?) ∧
      ∀ other, other ≠ place → (files.append place content).get? other = files.get? other := by
  unfold append
  split
  · next old mode hentry =>
      have hne : place ≠ [] := by
        intro hnil
        rw [hnil] at hentry
        simp only [get?, if_true, Option.some.injEq, reduceCtorEq] at hentry
      refine ⟨rfl, rfl, fun other => ?_, fun other hother => get?_set_ne files place other _ hother⟩
      by_cases hother : other = place
      · rw [hother, get?_set_self files place _ hne, hentry]
        rfl
      · rw [get?_set_ne files place other _ hother]
  · exact ⟨rfl, rfl, fun _ => rfl, fun _ _ => rfl⟩

namespace Session

/-- The records that events say and that pass. -/
def heard (session : Session) (events : List Event) : List Log.Record :=
  (events.filterMap Event.heard?).filter session.log.passes

/-- The lines of the log about events. -/
def lines (session : Session) (events : List Event) : String :=
  String.join ((session.heard events).map (Log.Record.line session.clock))

/-- An event says its record, or it puts a file in place. -/
theorem perform_cases (event : Event) (session : Session) :
    (∃ record, event.heard? = some record ∧ event.saved? = none ∧ session.perform event = session.emit record) ∨
      ∃ place entry, event = .saved place entry := by
  cases event with
  | logged record => exact Or.inl ⟨record, rfl, rfl, rfl⟩
  | progressed title info ratio => exact Or.inl ⟨progressRecord title info ratio, rfl, rfl, rfl⟩
  | progressCleared => exact Or.inl ⟨clearedRecord, rfl, rfl, rfl⟩
  | saved place entry => exact Or.inr ⟨place, entry, rfl⟩

theorem appendLog_keeps (text : String) (session : Session) :
    (session.appendLog text).stdout = session.stdout ∧ (session.appendLog text).stderr = session.stderr ∧
      (session.appendLog text).clock = session.clock ∧ (session.appendLog text).log = session.log := by
  unfold appendLog
  split
  · exact ⟨rfl, rfl, rfl, rfl⟩
  · exact ⟨rfl, rfl, rfl, rfl⟩

theorem emit_keeps (record : Log.Record) (session : Session) :
    (session.emit record).stdout = session.stdout ∧ (session.emit record).clock = session.clock ∧
      (session.emit record).log = session.log := by
  unfold emit
  split
  · rcases appendLog_keeps (record.line session.clock) (session.complain (record.line session.clock)) with
      ⟨hstdout, _, hclock, hlog⟩
    exact ⟨hstdout, hclock, hlog⟩
  · exact ⟨rfl, rfl, rfl⟩

/-- Events leave standard output, the clock and the threshold alone. -/
theorem performAll_keeps (events : List Event) (session : Session) :
    (session.performAll events).stdout = session.stdout ∧ (session.performAll events).clock = session.clock ∧
      (session.performAll events).log.threshold = session.log.threshold := by
  induction events generalizing session with
  | nil => exact ⟨rfl, rfl, rfl⟩
  | cons event rest ih =>
      -- An event either says a record or puts a file in place.
      have hfirst : (session.perform event).stdout = session.stdout ∧ (session.perform event).clock = session.clock ∧
          (session.perform event).log.threshold = session.log.threshold := by
        rcases perform_cases event session with ⟨record, _, _, hperform⟩ | ⟨place, entry, rfl⟩
        · rcases emit_keeps record session with ⟨hstdout, hclock, hlog⟩
          rw [hperform]
          exact ⟨hstdout, hclock, by rw [hlog]⟩
        · refine ⟨rfl, rfl, ?_⟩
          simp only [perform, losing, Log.Setup.losing]
          split
          · split <;> rfl
          · rfl
      rcases ih (session.perform event) with ⟨hstdout, hclock, hthreshold⟩
      exact ⟨hstdout.trans hfirst.1, hclock.trans hfirst.2.1, hthreshold.trans hfirst.2.2⟩

/-- A setup lets the same records pass as long as the threshold is the same. -/
theorem passes_congr (setup setup' : Log.Setup) (h : setup'.threshold = setup.threshold) :
    setup'.passes = setup.passes := by
  funext record
  rw [Log.Setup.passes, Log.Setup.passes, Log.Setup.least, Log.Setup.least, h]

theorem lines_append (session : Session) (events others : List Event) :
    session.lines (events ++ others) = session.lines events ++ session.lines others := by
  rw [lines, heard, List.filterMap_append, List.filter_append, List.map_append, String.join_append]
  rfl

/-- One record prints one line, or none if it does not pass. -/
theorem stderr_emit (record : Log.Record) (session : Session) :
    (session.emit record).stderr =
      session.stderr ++ String.join (([record].filter session.log.passes).map (Log.Record.line session.clock)) := by
  unfold emit
  by_cases hpasses : session.log.passes record = true
  · rw [if_pos hpasses, List.filter_cons_of_pos hpasses, List.filter_nil, List.map_singleton, String.join_cons,
      String.join_nil, String.append_empty]
    exact (appendLog_keeps _ _).2.1
  · rw [if_neg hpasses, List.filter_cons_of_neg hpasses, List.filter_nil, List.map_nil, String.join_nil,
      String.append_empty]

theorem stderr_perform (event : Event) (session : Session) :
    (session.perform event).stderr = session.stderr ++ session.lines [event] := by
  rcases perform_cases event session with ⟨record, hheard, _, hperform⟩ | ⟨place, entry, rfl⟩
  · rw [hperform, stderr_emit, lines, heard, List.filterMap_cons_some hheard]
    rfl
  · exact (String.append_empty).symm

/-- Events print the lines of the log about them, and nothing else. -/
theorem stderr_performAll (events : List Event) (session : Session) :
    (session.performAll events).stderr = session.stderr ++ session.lines events := by
  induction events generalizing session with
  | nil => exact (String.append_empty).symm
  | cons event rest ih =>
      have hrest := ih (session.perform event)
      -- The clock and the threshold are the same after the first event, so the other lines are too.
      rcases performAll_keeps [event] session with ⟨_, hclock, hthreshold⟩
      have hlines : (session.perform event).lines rest = session.lines rest := by
        have hclock' : (session.perform event).clock = session.clock := hclock
        rw [lines, lines, heard, heard, passes_congr session.log (session.perform event).log hthreshold, hclock']
      rw [hlines, stderr_perform, String.append_assoc, ← lines_append, List.singleton_append] at hrest
      exact hrest

/-! ## What is done to the files -/

/-- A log that is open after an event was open before it, and no file was put in its place. -/
theorem file_perform (event : Event) (session : Session) (place : Place)
    (h : (session.perform event).log.file = .open place) :
    session.log.file = .open place ∧ ∀ entry, event ≠ .saved place entry := by
  rcases perform_cases event session with ⟨record, hheard, hsaved, hperform⟩ | ⟨other, entry, rfl⟩
  · rw [hperform, (emit_keeps record session).2.2] at h
    refine ⟨h, fun entry heq => ?_⟩
    rw [heq, Event.saved?] at hsaved
    simp only [reduceCtorEq] at hsaved
  · simp only [perform, losing, Log.Setup.losing] at h
    split at h
    · next found hfound =>
        -- The file is put in place of the log or of another one, and only the first closes the log.
        by_cases hlost : found = other
        · simp only [hlost, beq_self_eq_true, if_true, reduceCtorEq] at h
        · simp only [beq_iff_eq, if_neg hlost] at h
          refine ⟨h, fun entry' heq => ?_⟩
          rw [hfound, Log.LogFile.open.injEq] at h
          rw [Event.saved.injEq, ← h] at heq
          exact hlost heq.1.symm
    · next hclosed => exact absurd h (hclosed place)

/-- A log that is open after some events was open before them, and no file was put in its place. -/
theorem file_performAll (events : List Event) (session : Session) (place : Place)
    (h : (session.performAll events).log.file = .open place) :
    session.log.file = .open place ∧ ∀ entry, Event.saved place entry ∉ events := by
  induction events generalizing session with
  | nil => exact ⟨h, fun entry => List.not_mem_nil⟩
  | cons event rest ih =>
      rcases ih (session.perform event) h with ⟨hopen, hrest⟩
      rcases file_perform event session place hopen with ⟨hopen, hfirst⟩
      refine ⟨hopen, fun entry hmem => ?_⟩
      rcases List.mem_cons.mp hmem with heq | hmem
      · exact hfirst entry heq.symm
      · exact hrest entry hmem

/-- Where no log is open, none is opened. -/
theorem file_performAll_none (events : List Event) (session : Session) (h : session.log.file = .none) :
    (session.performAll events).log.file = .none := by
  induction events generalizing session with
  | nil => exact h
  | cons event rest ih => exact ih (session.perform event) (files_perform event session h).2

/-- Events have nothing to do with the shared configuration. -/
theorem shared_performAll (events : List Event) (session : Session) :
    (session.performAll events).shared = session.shared := by
  have hemit : ∀ record (before : Session), (before.emit record).shared = before.shared := by
    intro record before
    unfold emit appendLog
    split
    · simp only [complain]
      split <;> rfl
    · rfl
  induction events generalizing session with
  | nil => rfl
  | cons event rest ih =>
      rcases perform_cases event session with ⟨record, _, _, hperform⟩ | ⟨place, entry, rfl⟩
      · exact (ih (session.perform event)).trans (hperform ▸ hemit record session)
      · exact ih _

/-- The files of a session are a tree, but for what the log says: the same lies at every place, except that the file
    which is open as the log may have other bytes. -/
structure Mirrors (session : Session) (files : FileSystem) : Prop where
  workdir : session.files.workdir = files.workdir
  umask : session.files.umask = files.umask
  modes : ∀ place, (session.files.get? place).map Entry.mode? = (files.get? place).map Entry.mode?
  keeps : ∀ place, session.log.file ≠ .open place → session.files.get? place = files.get? place

theorem mirrors_refl (session : Session) : session.Mirrors session.files :=
  ⟨rfl, rfl, fun _ => rfl, fun _ _ => rfl⟩

/-- A session has the directories of the tree that it mirrors. -/
theorem sameDirectories_of_mirrors (session : Session) (files : FileSystem) (h : session.Mirrors files) :
    files.SameDirectories session.files := by
  -- A directory is an entry without a mode, so the modes tell where the directories are.
  have hdirectory : ∀ entry : Option Entry, entry.map Entry.mode? = some none ↔ entry = some .directory := by
    intro entry
    match entry with
    | none => simp only [Option.map_none, reduceCtorEq]
    | some .directory => simp only [Option.map_some, Entry.mode?]
    | some (.file content mode) => simp only [Option.map_some, Entry.mode?, Option.some.injEq, reduceCtorEq]
  refine ⟨h.workdir, fun place => ?_⟩
  rw [← hdirectory, ← hdirectory, h.modes]

/-- A record is added to the log if there is one. -/
theorem files_emit (record : Log.Record) (session : Session) :
    (session.emit record).files = session.files ∨
      ∃ place content, session.log.file = .open place ∧
        (session.emit record).files = session.files.append place content := by
  unfold emit
  by_cases hpasses : session.log.passes record = true
  · rw [if_pos hpasses]
    unfold appendLog
    simp only [complain]
    split
    · next place hopen => exact Or.inr ⟨place, _, hopen, rfl⟩
    · exact Or.inl rfl
  · rw [if_neg hpasses]
    exact Or.inl rfl

/-- A record that is said changes nothing but the bytes of the log. -/
theorem mirrors_emit (record : Log.Record) (session : Session) (files : FileSystem) (h : session.Mirrors files) :
    (session.emit record).Mirrors files := by
  have hlog := (emit_keeps record session).2.2
  rcases files_emit record session with hfiles | ⟨place, content, hopen, hfiles⟩
  · refine ⟨?_, ?_, ?_, ?_⟩
    · rw [hfiles]
      exact h.workdir
    · rw [hfiles]
      exact h.umask
    · rw [hfiles]
      exact h.modes
    · rw [hfiles, hlog]
      exact h.keeps
  -- The place of the log is the only one that is written to, and it may differ anyway.
  · rcases session.files.append_keeps place content with ⟨hworkdir, humask, hmodes, hkeeps⟩
    refine ⟨?_, ?_, fun other => ?_, fun other hother => ?_⟩
    · rw [hfiles, hworkdir, h.workdir]
    · rw [hfiles, humask, h.umask]
    · rw [hfiles, hmodes, h.modes]
    · rw [hlog] at hother
      have hne : other ≠ place := fun heq => hother (heq ▸ hopen)
      rw [hfiles, hkeeps other hne, h.keeps other hother]

/-- A file that is put in place is put in both trees, also where the log was. -/
theorem mirrors_saved (place : Place) (entry : Entry) (session : Session) (files : FileSystem)
    (h : session.Mirrors files) : (session.perform (.saved place entry)).Mirrors (files.set place entry) := by
  have hfiles : (session.perform (.saved place entry)).files = session.files.set place entry := rfl
  refine ⟨h.workdir, h.umask, fun other => ?_, fun other hother => ?_⟩
  · rw [hfiles]
    by_cases hsame : other = place
    · rw [hsame, FileSystem.get?_set_congr session.files files]
    · rw [FileSystem.get?_set_ne _ place other entry hsame, FileSystem.get?_set_ne _ place other entry hsame]
      exact h.modes other
  · rw [hfiles]
    by_cases hsame : other = place
    · rw [hsame, FileSystem.get?_set_congr session.files files]
    · rw [FileSystem.get?_set_ne _ place other entry hsame, FileSystem.get?_set_ne _ place other entry hsame]
      -- The log is lost only at the place of the file, so if it is open here it still is.
      refine h.keeps other (fun hopen => hother ?_)
      have hne : ¬ (other == place) = true := fun heq => hsame (beq_iff_eq.mp heq)
      simp only [perform, losing, Log.Setup.losing, hopen, if_neg hne]

/-- After some events, the files of a session are the tree with the files that were put in place. -/
theorem mirrors_performAll (events : List Event) (session : Session) (files : FileSystem) (h : session.Mirrors files) :
    (session.performAll events).Mirrors
      ((events.filterMap Event.saved?).foldl (fun files saved => files.set saved.1 saved.2) files) := by
  induction events generalizing session files with
  | nil => exact h
  | cons event rest ih =>
      rcases perform_cases event session with ⟨record, _, hsaved, hperform⟩ | ⟨place, entry, rfl⟩
      · have hfirst : (session.perform event).Mirrors files := by
          rw [hperform]
          exact mirrors_emit record session files h
        rw [List.filterMap_cons_none hsaved]
        exact ih _ files hfirst
      · exact ih _ _ (mirrors_saved place entry session files h)

/-! ## Saying only -/

/-- A session in which nothing has happened but that something was said. -/
structure Said (before after : Session) : Prop where
  stdout : after.stdout = before.stdout
  stderr : ∃ lines, after.stderr = before.stderr ++ lines
  clock : after.clock = before.clock
  log : after.log = before.log
  mirrors : after.Mirrors before.files

/-- The configuration that is kept has no part in it. -/
theorem said_remembering (before after : Session) (h : Said before after) (shared : Option Config) (loads : Nat) :
    Said before { after with shared, loads } :=
  ⟨h.stdout, h.stderr, h.clock, h.log, h.mirrors.workdir, h.mirrors.umask, h.mirrors.modes, h.mirrors.keeps⟩

theorem said_refl (session : Session) : Said session session :=
  ⟨rfl, ⟨"", String.append_empty.symm⟩, rfl, rfl, mirrors_refl session⟩

theorem log_performAll (records : List Log.Record) (session : Session) :
    (session.performAll (records.map .logged)).log = session.log := by
  induction records generalizing session with
  | nil => rfl
  | cons record rest ih => exact (ih (session.emit record)).trans (emit_keeps record session).2.2

/-- Records put nothing in place. -/
theorem saved_logged (records : List Log.Record) : (records.map Event.logged).filterMap Event.saved? = [] := by
  rw [List.filterMap_map]
  exact List.filterMap_eq_nil_iff.mpr (fun record _ => rfl)

/-- Where no log is open, nothing is written. -/
theorem files_performAll_logged (records : List Log.Record) (session : Session) (h : session.log.file = .none) :
    (session.performAll (records.map .logged)).files = session.files := by
  rw [files_performAll _ session h, saved_logged, List.foldl_nil]

/-- Records are said and nothing else happens. -/
theorem said_performAll (records : List Log.Record) (session : Session) :
    Said session (session.performAll (records.map .logged)) := by
  rcases performAll_keeps (records.map .logged) session with ⟨hstdout, hclock, _⟩
  have hmirrors := mirrors_performAll (records.map .logged) session session.files (mirrors_refl session)
  rw [saved_logged] at hmirrors
  exact ⟨hstdout, ⟨_, stderr_performAll _ session⟩, hclock, log_performAll records session, hmirrors⟩

end Session

end CodeBehind
