import CodeBehind.Log.Logger
import CodeBehind.Proofs.Session.Actions
import CodeBehind.Proofs.Session.Effects

/-!
# Handlers of a session

A session has the logger that its setup stands for.

A session does not remember handlers. It has one threshold and one log file, and it gives a record to the console and to
that file, or to neither. This is what the loggers do, because setting up the log leaves the logger of the library
without the handlers that it had, whatever they were (`clear_eq`), and each handler that it gets has the threshold of
the logger. So a record that is let through is taken by all handlers of the logger, and since this logger does not
propagate, by no other (`takers_family`).

The first settings are made when the logger still has its initial state, in which it propagates. They name no log file,
so they always come to the point at which that ends. From then on the logger does not propagate, also when a log file
cannot be opened.

## Main definitions

* `Log.Step`: New log settings, or a record.
* `Session.take`, `Session.takeAll`: What they do to a session.
* `Station.takeAll`: What they do to the logger of the library.
* `Session.station`: The logger of a session.

## Theorems

* `clear_eq`, `restart_eq`: A logger keeps none of its handlers.
* `takers_family`: The handlers that take a record.
* `take_setUp`: What new settings do to a session.
* `setUp_station`, `say_station`, `takeAll_station`: Sessions and loggers do the same.
-/

namespace CodeBehind

/-- Something that concerns the log. -/
inductive Log.Step where
  | setUp (level surroundings file : Option String)
  | message (record : Log.Record)

namespace Session

/-- What a step does to a session; a failure leaves the session in which it happened. -/
def take (session : Session) : Log.Step → Session
  | .setUp level surroundings file => (Action.outcome (configureLog level surroundings file) session).2
  | .message record => session.emit record

/-- Steps one after the other. -/
def takeAll (session : Session) (steps : List Log.Step) : Session :=
  steps.foldl take session

/-- The logger of a session with what its handlers write to. -/
def station (session : Session) : Log.Station :=
  ⟨session.log.logger, session.files, session.stderr⟩

end Session

namespace Log

section

variable (depth : String → Nat) (others : List Handler) (clock : String)

/-- What a step does to the logger of the library. How many loggers there are below it depends on the name of the logger
    that says something. -/
def Station.take (station : Station) : Step → Station
  | .setUp level surroundings file => station.setUp level surroundings file
  | .message record => station.say (depth record.logger) others clock record

/-- Steps one after the other. -/
def Station.takeAll (station : Station) (steps : List Step) : Station :=
  steps.foldl (take depth others clock) station

end

/-! ## Handlers -/

/-- Going through the handlers that a logger has at the beginning removes them all. -/
theorem Logger.clear_eq (logger : Logger) : logger.clear = { logger with handlers := [] } := by
  have hremove : ∀ (handlers : List Handler) (logger : Logger), logger.handlers = handlers →
      handlers.foldl remove logger = { logger with handlers := [] } := by
    intro handlers
    induction handlers with
    | nil =>
        rintro ⟨_, _, _⟩ rfl
        rfl
    | cons handler rest ih =>
        intro logger hhandlers
        -- What is left is just what there still is to go through.
        have hrest : (logger.remove handler).handlers = rest := by
          rw [remove, hhandlers, List.erase_cons_head]
        exact ih (logger.remove handler) hrest
  exact hremove logger.handlers logger rfl

/-- A logger that is set up has a threshold and the console, and it still propagates if it did. -/
theorem Logger.restart_eq (logger : Logger) (threshold : Nat) :
    logger.restart threshold =
      { threshold, handlers := [⟨.console, threshold⟩], propagates := logger.propagates } := by
  rw [restart, clear_eq]
  rfl

/-- Loggers without settings let everything through and pass everything on. -/
theorem takers_replicate (depth : Nat) (loggers : List Logger) (record : Record) :
    takers (List.replicate depth ({} : Logger) ++ loggers) record = takers loggers record := by
  induction depth with
  | zero => rfl
  | succ depth ih => exact ih

/-- A record that passes is taken by the handlers of the setup, all of them and no others. A record that does not pass
    is taken by none. -/
theorem takers_family (depth : Nat) (setup : Setup) (others : List Handler) (record : Record) :
    takers (family depth setup.logger others) record =
      if setup.passes record then setup.logger.handlers else [] := by
  have hdecisive : decisive [setup.logger, { threshold := Level.warning.number, handlers := others }] =
      setup.least := rfl
  have hreached : reached [setup.logger, { threshold := Level.warning.number, handlers := others }] =
      setup.logger.handlers := List.append_nil _
  have hle : setup.threshold ≤ setup.least := by
    rw [Setup.least]
    split <;> omega
  rw [family, takers_replicate, takers, hdecisive, hreached, Setup.passes]
  by_cases hpasses : setup.least ≤ record.level.number
  · rw [if_pos hpasses, if_pos (decide_eq_true hpasses), List.filter_eq_self]
    intro handler hmem
    rcases List.mem_map.mp hmem with ⟨sink, _, rfl⟩
    exact decide_eq_true (Nat.le_trans hle hpasses)
  · rw [if_neg hpasses, if_neg (fun h => hpasses (of_decide_eq_true h))]

/-! ## Sessions -/

/-- The place of the log file that new settings name, and the tree after it has been opened, if it can be opened. -/
def openedBy (files : FileSystem) (file : Option String) : Option (Place × FileSystem) :=
  (file.filter (· ≠ "")).bind fun path => (files.openFile (Path.absolute files.workdirPath path)).toOption

theorem openedBy_eq_some (files opened : FileSystem) (file : Option String) (place : Place)
    (h : openedBy files file = some (place, opened)) : ∃ path, files.openFile path = .ok (place, opened) := by
  rw [openedBy, Option.bind_eq_some_iff] at h
  rcases h with ⟨path, _, h⟩
  cases hopen : files.openFile (Path.absolute files.workdirPath path) with
  | error error =>
      rw [hopen] at h
      cases h
  | ok found =>
      rw [hopen] at h
      exact ⟨_, hopen.trans (congrArg Except.ok (Option.some.inj h))⟩

/-- New settings come into force for the console at once, and for the log file if it can be opened. -/
theorem take_setUp (level surroundings file : Option String) (session : Session) :
    session.take (.setUp level surroundings file) =
      let threshold := thresholdOf ((level <|> surroundings).getD Level.info.name)
      match openedBy session.files file with
      | none => { session with log := { threshold } }
      | some (place, files) => { session with files, log := { threshold, file := .open place } } := by
  rw [Session.take, Action.outcome_configureLog, openedBy]
  generalize thresholdOf ((level <|> surroundings).getD Level.info.name) = threshold
  cases file.filter (· ≠ "") with
  | none => rfl
  | some path =>
      simp only [Option.map_some, Option.bind_some]
      cases session.files.openFile (Path.absolute session.files.workdirPath path) <;> rfl

/-- New settings give the logger of a session, whatever handlers the logger of the library had before. A logger that
    still propagates must not be asked for a log file. -/
theorem setUp_station (level surroundings file : Option String) (session : Session) (logger : Logger)
    (h : logger.propagates = false ∨ file = none) :
    Station.setUp level surroundings file ⟨logger, session.files, session.stderr⟩ =
      (session.take (.setUp level surroundings file)).station := by
  rw [take_setUp, openedBy, Station.setUp]
  -- Which threshold it is makes no difference.
  generalize thresholdOf ((level <|> surroundings).getD Level.info.name) = threshold
  simp only [Logger.restart_eq]
  cases hfile : file.filter (· ≠ "") with
  | none => rfl
  | some path =>
      have hpropagates : logger.propagates = false := by
        refine h.resolve_right fun hnone => ?_
        rw [hnone] at hfile
        cases hfile
      simp only [Option.bind_some, hpropagates]
      cases session.files.openFile (Path.absolute session.files.workdirPath path) <;> rfl

/-- The handlers write what the session says. -/
theorem say_station (depth : Nat) (others : List Handler) (record : Record) (session : Session) :
    session.station.say depth others session.clock record = (session.emit record).station := by
  rw [Station.say, Session.station, takers_family, Session.emit]
  by_cases hpasses : session.log.passes record = true
  · rw [if_pos hpasses, if_pos hpasses, Session.appendLog, Setup.logger]
    simp only [Session.complain]
    cases hfile : session.log.file <;> simp only [LogFile.sinks, Session.station, Setup.logger, hfile] <;> rfl
  · rw [if_neg hpasses, if_neg hpasses]
    rfl

theorem clock_take (session : Session) (step : Step) : (session.take step).clock = session.clock := by
  cases step with
  | setUp level surroundings file =>
      rw [take_setUp]
      cases openedBy session.files file <;> rfl
  | message record => exact (Session.emit_keeps record session).2.1

theorem clock_takeAll (steps : List Step) (session : Session) : (session.takeAll steps).clock = session.clock := by
  induction steps generalizing session with
  | nil => rfl
  | cons step rest ih => exact (ih (session.take step)).trans (clock_take session step)

/-- The logger of a session and what it writes to, after any steps. -/
theorem takeAll_station (depth : String → Nat) (others : List Handler) (steps : List Step) (session : Session) :
    session.station.takeAll depth others session.clock steps = (session.takeAll steps).station := by
  induction steps generalizing session with
  | nil => rfl
  | cons step rest ih =>
      have hfirst : session.station.take depth others session.clock step = (session.take step).station := by
        cases step with
        | setUp level surroundings file =>
            exact setUp_station level surroundings file session session.log.logger (.inl rfl)
        | message record => exact say_station _ others record session
      rw [Station.takeAll, List.foldl_cons, hfirst, ← clock_take session step]
      exact ih (session.take step)

end Log

end CodeBehind
