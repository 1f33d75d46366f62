import CodeBehind.Session

/-!
# What actions do

How the result of an action, and the session after it, come about from those of its parts.

An action is built from a few pieces: it returns, fails, looks at the session, changes it, does one thing and then
another, or looks at a failure. `Action.outcome` runs it, and there is one equation for each piece. Of two actions one
after the other the second is run only if the first returns, and then in the session that the first leaves. A failure
keeps that session too, so whoever looks at the failure goes on from where it happened.

## Main definitions

* `Action.outcome`: What an action does in a session.

## Theorems

* `outcome_bind_ok`, `outcome_bind_error`: One action and then another.
* `outcome_observing`: An action whose failure is looked at.
* `outcome_carryOut`: A run and its events.
* `outcome_configureLog`: New log settings.
-/

namespace CodeBehind

namespace Action

variable {α β : Type}

/-- What an action does in a session: its result, and the session that it leaves. -/
def outcome (action : Action α) (session : Session) : Except Failure α × Session :=
  action.run session

@[simp] theorem outcome_pure (value : α) (session : Session) :
    outcome (pure value) session = (.ok value, session) :=
  rfl

@[simp] theorem outcome_throw (failure : Failure) (session : Session) :
    outcome (throw failure : Action α) session = (.error failure, session) :=
  rfl

@[simp] theorem outcome_get (session : Session) : outcome get session = (.ok session, session) :=
  rfl

@[simp] theorem outcome_change (f : Session → Session) (session : Session) :
    outcome (change f) session = (.ok (), f session) :=
  rfl

@[simp] theorem outcome_settle {ε : Type} (failure : ε → Failure) (result : Except ε α) (session : Session) :
    outcome (settle failure result) session = (result.mapError failure, session) := by
  cases result with
  | ok value => rfl
  | error error => rfl

/-- Of two steps, the second begins where the first has ended. -/
theorem run_bind (first : StateM Session α) (next : α → StateM Session β) (session : Session) :
    (first >>= next) session = next (first session).1 (first session).2 :=
  rfl

section

variable (action : Action α) (next : α → Action β) (handle : Failure → Action α) (session after : Session)

/-- Where the first action returns, the second is run in the session that it leaves. -/
theorem outcome_bind_ok (value : α) (h : outcome action session = (.ok value, after)) :
    outcome (action >>= next) session = outcome (next value) after := by
  change (ExceptT.bind action next) session = _
  unfold outcome ExceptT.run at h
  rw [ExceptT.bind, ExceptT.mk, run_bind, h]
  rfl

/-- Where the first action fails, that is the end. -/
theorem outcome_bind_error (failure : Failure) (h : outcome action session = (.error failure, after)) :
    outcome (action >>= next) session = (.error failure, after) := by
  change (ExceptT.bind action next) session = _
  unfold outcome ExceptT.run at h
  rw [ExceptT.bind, ExceptT.mk, run_bind, h]
  rfl

theorem outcome_tryCatch_ok (value : α) (h : outcome action session = (.ok value, after)) :
    outcome (tryCatch action handle) session = (.ok value, after) := by
  change (ExceptT.tryCatch action handle) session = _
  unfold outcome ExceptT.run at h
  rw [ExceptT.tryCatch, ExceptT.mk, run_bind, h]
  rfl

theorem outcome_tryCatch_error (failure : Failure) (h : outcome action session = (.error failure, after)) :
    outcome (tryCatch action handle) session = outcome (handle failure) after := by
  change (ExceptT.tryCatch action handle) session = _
  unfold outcome ExceptT.run at h
  rw [ExceptT.tryCatch, ExceptT.mk, run_bind, h]
  rfl

/-- A failure that is looked at is a result like any other. -/
theorem outcome_observing (result : Except Failure α) (h : outcome action session = (result, after)) :
    outcome (observing action) session = (.ok result, after) := by
  unfold observing
  cases result with
  | ok value =>
      refine outcome_tryCatch_ok _ _ session after _ ?_
      rw [outcome_bind_ok action _ session after value h, outcome_pure]
  | error failure =>
      have hfails := outcome_bind_error action (fun value => pure (.ok value : Except Failure α)) session after failure h
      rw [outcome_tryCatch_error _ _ session after failure hfails, outcome_pure]

end

/-- A run takes effect by its events, whether it returns or fails. -/
theorem outcome_carryOut (run : FileSystem → Run α) (session : Session) :
    outcome (carryOut run) session =
      ((run session.files).result, session.performAll (run session.files).events) := by
  rw [carryOut, outcome_bind_ok _ _ session session session (outcome_get session)]
  simp only
  rw [outcome_bind_ok _ _ session _ () (outcome_change _ session), outcome_settle]
  cases (run session.files).result with
  | ok value => rfl
  | error failure => rfl

/-- New log settings come into force for the console at once, and for the log file if it can be opened. -/
theorem outcome_configureLog (level surroundings file : Option String) (session : Session) :
    outcome (configureLog level surroundings file) session =
      let threshold := Log.thresholdOf ((level <|> surroundings).getD Log.Level.info.name)
      match (file.filter (· ≠ "")).map fun path =>
          session.files.openFile (Path.absolute session.files.workdirPath path) with
      | none => (.ok (), { session with log := { threshold } })
      | some (.ok (place, files)) => (.ok (), { session with files, log := { threshold, file := .open place } })
      | some (.error error) => (.error (.file error), { session with log := { threshold } }) := by
  generalize hthreshold : Log.thresholdOf ((level <|> surroundings).getD Log.Level.info.name) = threshold
  -- The console has its settings before the file is opened, so they stay if the file cannot be.
  generalize hplain : ({ session with log := { threshold } } : Session) = plain
  have hfiles : plain.files = session.files := by rw [← hplain]
  unfold configureLog
  simp only [hthreshold]
  rw [outcome_bind_ok _ _ session plain () (hplain ▸ outcome_change _ session)]
  cases file.filter (· ≠ "") with
  | none => simp only [Option.map_none, outcome_pure, hplain]
  | some path =>
      simp only [Option.map_some]
      rw [outcome_bind_ok _ _ plain plain plain (outcome_get plain), hfiles]
      have hsettle := outcome_settle Failure.file
        (session.files.openFile (Path.absolute session.files.workdirPath path)) plain
      cases hopen : session.files.openFile (Path.absolute session.files.workdirPath path) with
      | ok opened =>
          rcases opened with ⟨place, files⟩
          rw [hopen] at hsettle
          rw [outcome_bind_ok _ _ plain plain (place, files) hsettle, ← hplain]
          rfl
      | error error =>
          rw [hopen] at hsettle
          rw [outcome_bind_error _ _ plain plain (.file error) hsettle, ← hplain]

end Action

end CodeBehind
