import CodeBehind.CommandLine.Command
import CodeBehind.Proofs.Config.Load
import CodeBehind.Proofs.Discovery
import CodeBehind.Proofs.Session.Actions
import CodeBehind.Proofs.Session.Effects

/-!
# The settings of a command

What a command has done to its session before it looks for documents.

Until then a command reads a configuration and sets up the log. Reading only says what it reads. Setting up the log
replaces the settings of the log and may open a file for it; opening makes the file if it is missing and does nothing to
one that is there. So when the documents are looked for, the tree is the one at the start, except at the place of a log,
be it one that was open before or the one that is open now.

## Main definitions

* `AsksForLog`, `thresholdFor`: What the configuration and the command line say about the log.
* `Ready`: The session in which documents are looked for.
* `Unwritten`: A session in which nothing was written but a log.

## Theorems

* `outcome_loadConfig_ok`, `outcome_loadConfig_error`: Loading a configuration.
* `said_chooseConfig`, `loadFault_of_chooseConfig`: Reading the configuration.
* `shared_of_sharedConfig`, `shared_of_chooseConfig`: The shared configuration, if reading fails.
* `applyLogging_cases`: Setting up the log.
* `sameTree_of_unwritten`: A tree in which there is no log to be written to.
* `prints_of_ready`, `unwritten_of_ready`, `nullFree_of_ready`: What is done before documents are looked for.
-/

namespace CodeBehind

namespace CommandLine

open CodeBehind.Action

/-! ## Reading the configuration -/

section

variable (path : Option String) (session : Session) (records : List Log.Record)

/-- What is loaded is said and counted. -/
theorem outcome_loadConfig_ok (config : Config) (h : Config.load session.files path = (records, .ok config)) :
    outcome (loadConfig path) session = (.ok { config with stamp := session.loads },
      { session.performAll (records.map .logged) with
        loads := (session.performAll (records.map .logged)).loads + 1 }) := by
  -- What is said is said whatever the result is; only a configuration that is returned is counted.
  have hsettle := outcome_settle (ε := Failure) id (.ok config) (session.performAll (records.map .logged))
  rw [loadConfig, outcome_bind_ok _ _ session session session (outcome_get session), h]
  simp only
  rw [outcome_bind_ok _ _ session _ () (outcome_change _ session), outcome_bind_ok _ _ _ _ config hsettle,
    outcome_bind_ok _ _ _ _ () (outcome_change _ _), outcome_pure]

/-- Where loading fails, what has been said before stays said. -/
theorem outcome_loadConfig_error (failure : Failure)
    (h : Config.load session.files path = (records, .error failure)) :
    outcome (loadConfig path) session = (.error failure, session.performAll (records.map .logged)) := by
  have hsettle := outcome_settle (ε := Failure) (α := Config) id (.error failure)
    (session.performAll (records.map .logged))
  rw [loadConfig, outcome_bind_ok _ _ session session session (outcome_get session), h]
  simp only
  rw [outcome_bind_ok _ _ session _ () (outcome_change _ session), outcome_bind_error _ _ _ _ failure hsettle]

end

/-- Loading says what it finds, and whatever happens nothing else is done. -/
theorem loadConfig_cases (path : Option String) (session : Session) :
    (∃ config after, outcome (loadConfig path) session = (.ok config, after) ∧ Session.Said session after) ∨
      ∃ failure after, outcome (loadConfig path) session = (.error failure, after) ∧ Session.Said session after ∧
        Config.LoadFault failure := by
  rcases hload : Config.load session.files path with ⟨records, result⟩
  have hsaid := Session.said_performAll records session
  cases result with
  | ok config =>
      exact Or.inl ⟨_, _, outcome_loadConfig_ok path session records config hload,
        Session.said_remembering session _ hsaid _ _⟩
  | error failure =>
      have hfault := Config.loadFault_of_load session.files path failure (by rw [hload])
      exact Or.inr ⟨failure, _, outcome_loadConfig_error path session records failure hload, hsaid, hfault⟩

theorem outcome_shareConfig (config : Option Config) (session : Session) :
    outcome (shareConfig config) session = (.ok (), { session with shared := config }) :=
  rfl

/-- The configuration is loaded, or it is the one that is shared; nothing is done besides but to share it. -/
theorem chooseConfig_cases (arguments : Arguments) (session : Session) :
    (∃ config after, outcome (chooseConfig arguments) session = (.ok config, after) ∧ Session.Said session after) ∨
      ∃ failure after, outcome (chooseConfig arguments) session = (.error failure, after) ∧
        Session.Said session after ∧ Config.LoadFault failure := by
  unfold chooseConfig
  cases arguments.config.filter (· ≠ "") with
  | some file => exact loadConfig_cases (some file) session
  | none =>
      simp only
      rw [sharedConfig, outcome_bind_ok _ _ session session session (outcome_get session)]
      -- A shared configuration is taken as it is, without a look at the files.
      cases hshared : session.shared with
      | some config => exact Or.inl ⟨config, session, outcome_pure config session, Session.said_refl session⟩
      | none =>
          rcases loadConfig_cases none session with ⟨config, after, hload, hsaid⟩ | ⟨failure, after, hload, hsaid, hfault⟩
          · rw [outcome_bind_ok _ _ session after config hload,
              outcome_bind_ok _ _ after _ () (outcome_shareConfig _ after)]
            exact Or.inl ⟨config, _, outcome_pure config _, Session.said_remembering session after hsaid _ _⟩
          · rw [outcome_bind_error _ _ session after failure hload]
            exact Or.inr ⟨failure, after, rfl, hsaid, hfault⟩

/-- Whatever becomes of reading the configuration, it is only said. -/
theorem said_chooseConfig (arguments : Arguments) (session after : Session) (result : Except Failure Config)
    (h : outcome (chooseConfig arguments) session = (result, after)) : Session.Said session after := by
  rcases chooseConfig_cases arguments session with ⟨_, found, hfound, hsaid⟩ | ⟨_, found, hfound, hsaid, _⟩
  · rw [hfound, Prod.mk.injEq] at h
    exact h.2 ▸ hsaid
  · rw [hfound, Prod.mk.injEq] at h
    exact h.2 ▸ hsaid

theorem loadFault_of_chooseConfig (arguments : Arguments) (session after : Session) (failure : Failure)
    (h : outcome (chooseConfig arguments) session = (.error failure, after)) : Config.LoadFault failure := by
  rcases chooseConfig_cases arguments session with ⟨_, _, hfound, _⟩ | ⟨_, _, hfound, _, hfault⟩
  · rw [hfound] at h
    simp only [Prod.mk.injEq, reduceCtorEq, false_and] at h
  · rw [hfound, Prod.mk.injEq, Except.error.injEq] at h
    exact h.1 ▸ hfault

/-- A configuration that cannot be loaded is not shared. -/
theorem shared_of_loadConfig (path : Option String) (session after : Session) (failure : Failure)
    (h : outcome (loadConfig path) session = (.error failure, after)) : after.shared = session.shared := by
  rcases hload : Config.load session.files path with ⟨records, result⟩
  cases result with
  | ok config =>
      rw [outcome_loadConfig_ok path session records config hload] at h
      cases (Prod.mk.inj h).1
  | error found =>
      rw [outcome_loadConfig_error path session records found hload] at h
      rw [← (Prod.mk.inj h).2]
      exact Session.shared_performAll _ session

/-- Where there is no shared configuration and none can be loaded, there is still none. -/
theorem shared_of_sharedConfig (session after : Session) (failure : Failure)
    (h : outcome sharedConfig session = (.error failure, after)) : after.shared = session.shared := by
  rw [sharedConfig, outcome_bind_ok _ _ session session session (outcome_get session)] at h
  cases hshared : session.shared with
  | some config =>
      rw [hshared] at h
      cases (Prod.mk.inj h).1
  | none =>
      rw [hshared] at h
      simp only at h
      rw [← hshared]
      rcases hload : outcome (loadConfig none) session with ⟨result, read⟩
      cases result with
      | ok config =>
          -- Only what has been loaded is shared, and then this does not fail.
          rw [outcome_bind_ok _ _ session read config hload,
            outcome_bind_ok _ _ read _ () (outcome_shareConfig _ read)] at h
          cases (Prod.mk.inj h).1
      | error found =>
          rw [outcome_bind_error _ _ session read found hload] at h
          rw [← (Prod.mk.inj h).2]
          exact shared_of_loadConfig none session read found hload

theorem shared_of_chooseConfig (arguments : Arguments) (session after : Session) (failure : Failure)
    (h : outcome (chooseConfig arguments) session = (.error failure, after)) : after.shared = session.shared := by
  unfold chooseConfig at h
  split at h
  · exact shared_of_loadConfig _ session after failure h
  · exact shared_of_sharedConfig session after failure h

/-! ## Setting up the log -/

/-- The configuration asks for a log file. -/
def AsksForLog (config : Config) : Prop :=
  config.logging.fileLogging = true ∧ config.logging.logFile ≠ ""

/-- The threshold that the command line or the configuration names. -/
def thresholdFor (arguments : Arguments) (config : Config) : Nat :=
  Log.thresholdOf ((arguments.logLevel.filter (· ≠ "")).getD config.logging.level)

/-- The log gets new settings, and its file is opened if the configuration asks for one. -/
theorem applyLogging_cases (arguments : Arguments) (config : Config) (session : Session) :
    (¬ AsksForLog config ∧ outcome (applyLogging arguments config) session =
      (.ok (), { session with log := { threshold := thresholdFor arguments config } })) ∨
    (∃ place files, AsksForLog config ∧
      session.files.openFile (Path.absolute session.files.workdirPath config.logging.logFile) = .ok (place, files) ∧
      outcome (applyLogging arguments config) session =
        (.ok (), { session with files, log := { threshold := thresholdFor arguments config, file := .open place } })) ∨
    ∃ error, AsksForLog config ∧
      session.files.openFile (Path.absolute session.files.workdirPath config.logging.logFile) = .error error ∧
      outcome (applyLogging arguments config) session =
        (.error (.file error), { session with log := { threshold := thresholdFor arguments config } }) := by
  have houtcome := outcome_configureLog (some ((arguments.logLevel.filter (· ≠ "")).getD config.logging.level)) none
    (if config.logging.fileLogging then some config.logging.logFile else none) session
  -- The file of the log is asked for by a flag and a name, and without either of them there is none.
  by_cases hasks : AsksForLog config
  · have hname : (if config.logging.fileLogging then some config.logging.logFile else none).filter (· ≠ "") =
        some config.logging.logFile := by
      rw [if_pos hasks.1]
      exact if_pos (decide_eq_true hasks.2)
    simp only [hname, Option.map_some] at houtcome
    cases hopen : session.files.openFile (Path.absolute session.files.workdirPath config.logging.logFile) with
    | ok opened =>
        rw [hopen] at houtcome
        exact Or.inr (Or.inl ⟨opened.1, opened.2, hasks, rfl, houtcome⟩)
    | error error =>
        rw [hopen] at houtcome
        exact Or.inr (Or.inr ⟨error, hasks, rfl, houtcome⟩)
  · have hname : (if config.logging.fileLogging then some config.logging.logFile else none).filter (· ≠ "") =
        none := by
      by_cases hflag : config.logging.fileLogging = true
      · have hempty : config.logging.logFile = "" := by
          by_contra hne
          exact hasks ⟨hflag, hne⟩
        rw [if_pos hflag, hempty]
        rfl
      · rw [if_neg hflag]
        rfl
    simp only [hname, Option.map_none] at houtcome
    exact Or.inl ⟨hasks, houtcome⟩

/-! ## Everything before the documents -/

/-- The session in which documents are looked for: the configuration is read and shared, and the log is set up. -/
def Ready (arguments : Arguments) (session : Session) (config : Config) (ready : Session) : Prop :=
  ∃ read, outcome (chooseConfig arguments) session = (.ok config, read) ∧
    outcome (applyLogging arguments config) { read with shared := some config } = (.ok (), ready)

/-- A session whose tree is the one at the start, except at the place of a log that was open then or is now. -/
structure Unwritten (before after : Session) : Prop where
  workdir : after.files.workdir = before.files.workdir
  umask : after.files.umask = before.files.umask
  keeps : ∀ place, before.log.file ≠ .open place → after.log.file ≠ .open place →
    after.files.get? place = before.files.get? place

/-- Nothing is written while something is said. -/
theorem unwritten_of_said (before after : Session) (h : Session.Said before after) : Unwritten before after :=
  ⟨h.mirrors.workdir, h.mirrors.umask, fun place _ hafter => h.mirrors.keeps place hafter⟩

/-- Where no log is open, neither before nor after, the tree is the same. -/
theorem sameTree_of_unwritten (before after : Session) (h : Unwritten before after)
    (hbefore : ∀ place, before.log.file ≠ .open place) (hafter : ∀ place, after.log.file ≠ .open place) :
    before.files.SameTree after.files :=
  ⟨h.workdir, h.umask, fun place => h.keeps place (hbefore place) (hafter place)⟩

theorem nullFree_of_mirrors (session : Session) (files : FileSystem) (hfree : files.NullFree)
    (h : session.Mirrors files) : session.files.NullFree := by
  refine ⟨h.workdir ▸ hfree.workdir, fun place hplace => hfree.present place (fun hnone => hplace ?_)⟩
  -- Where there is something now, something was there before, with the same mode.
  have hmode := h.modes place
  rw [hnone, Option.map_none, Option.map_eq_none_iff] at hmode
  exact hmode

section

variable (arguments : Arguments) (session ready : Session) (config : Config)
  (h : Ready arguments session config ready)
include h

/-- The log is set up in a session in which something was said. -/
theorem ready_cases :
    ∃ read : Session, Session.Said session read ∧
      ((¬ AsksForLog config ∧ ready =
          { read with shared := some config, log := { threshold := thresholdFor arguments config } }) ∨
        ∃ place files, AsksForLog config ∧
          read.files.openFile (Path.absolute read.files.workdirPath config.logging.logFile) = .ok (place, files) ∧
          ready = { read with
            shared := some config
            files
            log := { threshold := thresholdFor arguments config, file := .open place } }) := by
  rcases h with ⟨read, hread, hlog⟩
  refine ⟨read, said_chooseConfig arguments session read _ hread, ?_⟩
  -- Of the three ways to set up the log, that with an error does not leave a session that is ready.
  rcases applyLogging_cases arguments config { read with shared := some config } with
    ⟨hasks, hdone⟩ | ⟨place, files, hasks, hopen, hdone⟩ | ⟨error, _, _, hdone⟩
  · rw [hdone, Prod.mk.injEq] at hlog
    exact Or.inl ⟨hasks, hlog.2.symm⟩
  · rw [hdone, Prod.mk.injEq] at hlog
    exact Or.inr ⟨place, files, hasks, hopen, hlog.2.symm⟩
  · rw [hdone] at hlog
    simp only [Prod.mk.injEq, reduceCtorEq, false_and] at hlog

/-- Before the documents are looked for, nothing is printed but lines of the log. -/
theorem prints_of_ready :
    ready.stdout = session.stdout ∧ ready.clock = session.clock ∧ ∃ lines, ready.stderr = session.stderr ++ lines := by
  rcases ready_cases arguments session ready config h with ⟨read, hsaid, ⟨_, rfl⟩ | ⟨_, _, _, _, rfl⟩⟩
  · exact ⟨hsaid.stdout, hsaid.clock, hsaid.stderr⟩
  · exact ⟨hsaid.stdout, hsaid.clock, hsaid.stderr⟩

/-- Before the documents are looked for, nothing is written but the log. -/
theorem unwritten_of_ready : Unwritten session ready := by
  rcases ready_cases arguments session ready config h with ⟨read, hsaid, ⟨_, rfl⟩ | ⟨place, files, _, hopen, rfl⟩⟩
  · refine ⟨hsaid.mirrors.workdir, hsaid.mirrors.umask, fun other hbefore _ => hsaid.mirrors.keeps other ?_⟩
    rw [hsaid.log]
    exact hbefore
  · rcases FileSystem.openFile_keeps read.files files _ place hopen with ⟨hworkdir, humask, hkeeps⟩
    refine ⟨hworkdir.trans hsaid.mirrors.workdir, humask.trans hsaid.mirrors.umask, fun other hbefore hafter => ?_⟩
    -- The one place that opening a log may change is that of the log which is open now.
    have hother : other ≠ place := fun heq => hafter (congrArg Log.LogFile.open heq.symm)
    refine (hkeeps other hother).trans (hsaid.mirrors.keeps other ?_)
    rw [hsaid.log]
    exact hbefore

/-- A log is open if and only if the configuration asks for one. -/
theorem isOpen_of_ready : (∃ place, ready.log.file = .open place) ↔ AsksForLog config := by
  rcases ready_cases arguments session ready config h with ⟨_, _, ⟨hasks, rfl⟩ | ⟨place, _, hasks, _, rfl⟩⟩
  · refine iff_of_false ?_ hasks
    rintro ⟨place, hopen⟩
    simp only [reduceCtorEq] at hopen
  · exact iff_of_true ⟨place, rfl⟩ hasks

/-- Names stay free of null bytes. -/
theorem nullFree_of_ready (hfree : session.files.NullFree) : ready.files.NullFree := by
  rcases ready_cases arguments session ready config h with ⟨read, hsaid, ⟨_, rfl⟩ | ⟨place, files, _, hopen, rfl⟩⟩
  · exact nullFree_of_mirrors read session.files hfree hsaid.mirrors
  · have hread := nullFree_of_mirrors read session.files hfree hsaid.mirrors
    exact FileSystem.nullFree_openFile read.files files hread _ place hopen

end

end CommandLine

end CodeBehind
