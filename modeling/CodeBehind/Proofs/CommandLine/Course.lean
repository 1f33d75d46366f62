import CodeBehind.Proofs.CommandLine.Settings

/-!
# The course of a command

Every way in which a command can go, with everything that it does on the way.

A command that is understood takes one of seven courses. The configuration is not read, which is a problem that is
reported or a failure that ends the command. The log is not set up. No document is found. There is no banner to sign
with. And the documents are generated, which comes to an end or does not. `Course` has one constructor for each, and each
constructor gives the result and the session that is left. What is proved of a command is read off the seven, so the
function is opened only once.

Two of the courses end in the code of a wrong use, one in the other codes, and four in no code at all. Looking for
documents is no course of its own, because it cannot fail.

## Main definitions

* `Collects`: The documents that are found, and the session in which they are generated.
* `batch`: The documents are generated.
* `Course`: The seven courses.

## Main results

* `course_command`: Every command that is understood takes one of the seven courses.

## Theorems

* `exists_collects`, `collects_unique`: What is found for the arguments.
* `prints_of_collects`, `unwritten_of_collects`, `nullFree_of_collects`: What is done before they are generated.
* `course_generateAsked`: What is done with the documents.
* `course_of_unread`, `course_of_collects`: Which course it is.
* `shared_of_unread`: The shared configuration, if none is read.
-/

namespace CodeBehind

namespace CommandLine

open CodeBehind.Action

/-! ## The documents -/

/-- The documents that are found with a configuration, and the session in which they are generated: everything is set
    up, and it is said what was passed over. -/
def Collects (arguments : Arguments) (session : Session) (config : Config) (documents : List String)
    (start : Session) : Prop :=
  ∃ ready collected, Ready arguments session config ready ∧
    Discovery.collect ready.files config.generator.documentExtension arguments.paths = .ok collected ∧
    documents = collected.documents ∧ start = ready.performAll (collected.warnings.map .logged)

theorem exists_collects (arguments : Arguments) (session ready : Session) (config : Config)
    (h : Ready arguments session config ready) : ∃ documents start, Collects arguments session config documents start := by
  rcases Discovery.exists_collect ready.files config.generator.documentExtension arguments.paths with
    ⟨collected, hcollect⟩
  exact ⟨_, _, ready, collected, h, hcollect, rfl, rfl⟩

/-- A command line asks for one configuration, one list of documents and one session. -/
theorem collects_unique (arguments : Arguments) (session start start' : Session) (config config' : Config)
    (documents documents' : List String) (h : Collects arguments session config documents start)
    (h' : Collects arguments session config' documents' start') :
    config' = config ∧ documents' = documents ∧ start' = start := by
  rcases h with ⟨ready, collected, ⟨read, hread, hlog⟩, hcollect, rfl, rfl⟩
  rcases h' with ⟨ready', collected', ⟨read', hread', hlog'⟩, hcollect', rfl, rfl⟩
  -- Each step is a function of the one before it, from the configuration on.
  rw [hread, Prod.mk.injEq, Except.ok.injEq] at hread'
  rcases hread' with ⟨rfl, rfl⟩
  rw [hlog, Prod.mk.injEq] at hlog'
  rw [← hlog'.2, hcollect, Except.ok.injEq] at hcollect'
  exact ⟨rfl, by rw [hcollect'], by rw [hcollect', hlog'.2]⟩

section

variable (arguments : Arguments) (session start : Session) (config : Config) (documents : List String)
  (h : Collects arguments session config documents start)
include h

/-- Before the documents are generated, nothing is printed but lines of the log. -/
theorem prints_of_collects :
    start.stdout = session.stdout ∧ ∃ lines, start.stderr = session.stderr ++ lines := by
  rcases h with ⟨ready, collected, hready, _, _, rfl⟩
  rcases prints_of_ready arguments session ready config hready with ⟨hstdout, _, lines, hstderr⟩
  have hsaid := Session.said_performAll collected.warnings ready
  rcases hsaid.stderr with ⟨warnings, hwarnings⟩
  exact ⟨hsaid.stdout.trans hstdout, lines ++ warnings, by rw [hwarnings, hstderr, String.append_assoc]⟩

/-- Before the documents are generated, nothing is written but the log. -/
theorem unwritten_of_collects : Unwritten session start := by
  rcases h with ⟨ready, collected, hready, _, _, rfl⟩
  have hunwritten := unwritten_of_ready arguments session ready config hready
  have hsaid := Session.said_performAll collected.warnings ready
  refine ⟨hsaid.mirrors.workdir.trans hunwritten.workdir, hsaid.mirrors.umask.trans hunwritten.umask, ?_⟩
  intro place hbefore hafter
  exact (hsaid.mirrors.keeps place hafter).trans (hunwritten.keeps place hbefore (hsaid.log ▸ hafter))

theorem isOpen_of_collects : (∃ place, start.log.file = .open place) ↔ AsksForLog config := by
  rcases h with ⟨ready, collected, hready, _, _, rfl⟩
  rw [(Session.said_performAll collected.warnings ready).log]
  exact isOpen_of_ready arguments session ready config hready

variable (hfree : session.files.NullFree)
include hfree

/-- No document that is generated has a null byte, and neither has a name in the tree. -/
theorem nullFree_of_collects :
    start.files.NullFree ∧ ∀ document ∈ documents, '\x00' ∉ document.toList := by
  rcases h with ⟨ready, collected, hready, hcollect, rfl, rfl⟩
  have hready' := nullFree_of_ready arguments session ready config hready hfree
  exact ⟨nullFree_of_mirrors _ _ hready' (Session.said_performAll collected.warnings ready).mirrors,
    Discovery.nullByte_notMem_of_collect ready.files _ hready' arguments.paths collected hcollect⟩

end

/-! ## The courses -/

/-- The documents are generated; they are only synthesized if nothing is to be written or if the texts are printed. -/
def batch (arguments : Arguments) (start : Session) (banner : Banner) (documents : List String) : Run Report :=
  Generation.generateAll start.files banner (arguments.dryRun || arguments.stdout) documents

/-- The seven courses of a command, each with the result and the session that is left. -/
inductive Course (arguments : Arguments) (session : Session) : Except Failure Nat × Session → Prop
  | unread (problem : Problem) (read : Session)
      (hread : outcome (chooseConfig arguments) session = (.error (.problem problem), read)) :
      Course arguments session (.ok exitUsage, read.complain ("error: " ++ problem.describe ++ "\n"))
  | broken (failure : Failure) (read : Session)
      (hread : outcome (chooseConfig arguments) session = (.error failure, read)) (hfailure : failure.problem? = none) :
      Course arguments session (.error failure, read)
  | unlogged (config : Config) (read after : Session) (failure : Failure)
      (hread : outcome (chooseConfig arguments) session = (.ok config, read))
      (hlog : outcome (applyLogging arguments config) { read with shared := some config } = (.error failure, after)) :
      Course arguments session (.error failure, after)
  | idle (config : Config) (start : Session) (hcollects : Collects arguments session config [] start) :
      Course arguments session (.ok exitUsage, start.complain "error: no UI documents found\n")
  | unsigned (config : Config) (documents : List String) (start : Session) (fault : Banner.Fault)
      (hcollects : Collects arguments session config documents start) (hsome : documents ≠ [])
      (hbanner : config.banner = .error fault) :
      Course arguments session (.error (.banner fault), start)
  | stopped (config : Config) (documents : List String) (start : Session) (banner : Banner) (failure : Failure)
      (hcollects : Collects arguments session config documents start) (hsome : documents ≠ [])
      (hbanner : config.banner = .ok banner)
      (hbatch : (batch arguments start banner documents).result = .error failure) :
      Course arguments session (.error failure, start.performAll (batch arguments start banner documents).events)
  | finished (config : Config) (documents : List String) (start : Session) (banner : Banner) (report : Report)
      (hcollects : Collects arguments session config documents start) (hsome : documents ≠ [])
      (hbanner : config.banner = .ok banner) (hbatch : (batch arguments start banner documents).result = .ok report) :
      Course arguments session (.ok (if report.succeeded then exitDone else exitFailed),
        printReport arguments report (start.performAll (batch arguments start banner documents).events))

theorem outcome_collectDocuments (paths : List String) (extension : String) (session : Session)
    (collected : Discovery.Collected) (h : Discovery.collect session.files extension paths = .ok collected) :
    outcome (collectDocuments paths extension) session =
      (.ok collected.documents, session.performAll (collected.warnings.map .logged)) := by
  have hsettle := outcome_settle (ε := Failure) id (Discovery.collect session.files extension paths) session
  rw [h] at hsettle
  rw [collectDocuments, outcome_bind_ok _ _ session session session (outcome_get session)]
  simp only [h]
  rw [outcome_bind_ok _ _ session session collected hsettle, outcome_bind_ok _ _ session _ () (outcome_change _ session),
    outcome_pure]

/-- With everything in place, the documents are looked for and generated. -/
theorem course_generateAsked (arguments : Arguments) (session ready : Session) (config : Config)
    (h : Ready arguments session config ready) :
    Course arguments session (outcome (generateAsked arguments config) ready) := by
  rcases Discovery.exists_collect ready.files config.generator.documentExtension arguments.paths with
    ⟨collected, hcollect⟩
  have hcollects : Collects arguments session config collected.documents
      (ready.performAll (collected.warnings.map .logged)) := ⟨ready, collected, h, hcollect, rfl, rfl⟩
  rw [generateAsked, outcome_bind_ok _ _ ready _ _ (outcome_collectDocuments _ _ ready collected hcollect)]
  -- From here on, only the documents and the session in which they are generated matter.
  generalize ready.performAll (collected.warnings.map .logged) = start at hcollects ⊢
  generalize collected.documents = documents at hcollects ⊢
  by_cases hsome : documents = []
  · rw [hsome] at hcollects ⊢
    simp only [List.isEmpty_nil, if_true]
    rw [outcome_bind_ok _ _ start _ () (outcome_change _ start), outcome_pure]
    exact .idle config start hcollects
  · rw [List.isEmpty_eq_false_iff.mpr hsome, if_neg Bool.false_ne_true]
    have hsettle := outcome_settle Failure.banner config.banner start
    cases hbanner : config.banner with
    | error fault =>
        rw [hbanner] at hsettle
        rw [outcome_bind_error _ _ start start _ hsettle]
        exact .unsigned config documents start fault hcollects hsome hbanner
    | ok banner =>
        rw [hbanner] at hsettle
        rw [outcome_bind_ok _ _ start start banner hsettle]
        have hrun : outcome (generateAll banner documents (arguments.dryRun || arguments.stdout)) start =
            ((batch arguments start banner documents).result,
              start.performAll (batch arguments start banner documents).events) :=
          outcome_carryOut _ start
        cases hbatch : (batch arguments start banner documents).result with
        | error failure =>
            rw [hbatch] at hrun
            rw [outcome_bind_error _ _ start _ failure hrun]
            exact .stopped config documents start banner failure hcollects hsome hbanner hbatch
        | ok report =>
            rw [hbatch] at hrun
            rw [outcome_bind_ok _ _ start _ report hrun, outcome_bind_ok _ _ _ _ () (outcome_change _ _), outcome_pure]
            exact .finished config documents start banner report hcollects hsome hbanner hbatch

/-- Arguments that are carried out take one of the seven courses. -/
theorem course_carryOutArguments (arguments : Arguments) (session : Session) :
    Course arguments session (outcome (carryOutArguments arguments) session) := by
  rw [carryOutArguments]
  rcases hread : outcome (chooseConfig arguments) session with ⟨result, read⟩
  rw [outcome_bind_ok _ _ session read result (outcome_observing _ session read result hread)]
  cases result with
  | error failure =>
      -- A problem is complained about, and every other failure ends the command.
      cases failure with
      | problem problem =>
          simp only
          rw [outcome_bind_ok _ _ read _ () (outcome_change _ read), outcome_pure]
          exact .unread problem read hread
      | _ => exact .broken _ read hread rfl
  | ok config =>
      simp only
      rw [outcome_bind_ok _ _ read _ () (outcome_shareConfig _ read)]
      rcases hlog : outcome (applyLogging arguments config) { read with shared := some config } with ⟨done, ready⟩
      cases done with
      | error failure =>
          rw [outcome_bind_error _ _ _ ready failure hlog]
          exact .unlogged config read ready failure hread hlog
      | ok _ =>
          rw [outcome_bind_ok _ _ _ ready () hlog]
          exact course_generateAsked arguments session ready config ⟨read, hread, hlog⟩

/-- A command that is understood takes one of the seven courses. -/
theorem course_command (words : List String) (arguments : Arguments) (session : Session)
    (h : parse words = .ok arguments) : Course arguments session (outcome (command words) session) := by
  rw [command, h]
  exact course_carryOutArguments arguments session

/-! ## Which course it is -/

section

variable (arguments : Arguments) (session start : Session) (config : Config) (documents : List String)
  (h : Collects arguments session config documents start)
include h

/-- Where documents are looked for, the configuration has been read. -/
theorem ne_error_of_collects (failure : Failure) (read : Session) :
    outcome (chooseConfig arguments) session ≠ (.error failure, read) := by
  rcases h with ⟨_, _, ⟨found, hfound, _⟩, _⟩
  rw [hfound]
  simp only [ne_eq, Prod.mk.injEq, reduceCtorEq, false_and, not_false_eq_true]

/-- Where documents are looked for, the log has been set up. -/
theorem ne_unlogged_of_collects (config' : Config) (read after : Session) (failure : Failure)
    (hread : outcome (chooseConfig arguments) session = (.ok config', read)) :
    outcome (applyLogging arguments config') { read with shared := some config' } ≠ (.error failure, after) := by
  rcases h with ⟨_, _, ⟨found, hfound, hlog⟩, _⟩
  rw [hfound, Prod.mk.injEq, Except.ok.injEq] at hread
  rcases hread with ⟨rfl, rfl⟩
  rw [hlog]
  simp only [ne_eq, Prod.mk.injEq, reduceCtorEq, false_and, not_false_eq_true]

/-- From the documents on, the course is known: there are none, there is no banner, or they are generated. -/
theorem course_of_collects (done : Except Failure Nat × Session) (hcourse : Course arguments session done) :
    (documents = [] ∧ done = (.ok exitUsage, start.complain "error: no UI documents found\n")) ∨
      (documents ≠ [] ∧ ∃ fault, config.banner = .error fault ∧ done = (.error (.banner fault), start)) ∨
      ∃ banner, documents ≠ [] ∧ config.banner = .ok banner ∧
        ((∃ failure, (batch arguments start banner documents).result = .error failure ∧
            done = (.error failure, start.performAll (batch arguments start banner documents).events)) ∨
          ∃ report, (batch arguments start banner documents).result = .ok report ∧
            done = (.ok (if report.succeeded then exitDone else exitFailed),
              printReport arguments report (start.performAll (batch arguments start banner documents).events))) := by
  -- The first three courses do not come to documents, and the others have the documents that were found.
  cases hcourse with
  | unread problem read hread =>
      exact absurd hread (ne_error_of_collects arguments session start config documents h _ read)
  | broken failure read hread _ =>
      exact absurd hread (ne_error_of_collects arguments session start config documents h _ read)
  | unlogged config' read after failure hread hlog =>
      exact absurd hlog (ne_unlogged_of_collects arguments session start config documents h config' read after failure
        hread)
  | idle config' start' hcollects =>
      rcases collects_unique arguments session start start' config config' documents [] h hcollects with ⟨_, rfl, rfl⟩
      exact Or.inl ⟨rfl, rfl⟩
  | unsigned config' documents' start' fault hcollects hsome hbanner =>
      rcases collects_unique arguments session start start' config config' documents documents' h hcollects with
        ⟨rfl, rfl, rfl⟩
      exact Or.inr (Or.inl ⟨hsome, fault, hbanner, rfl⟩)
  | stopped config' documents' start' banner failure hcollects hsome hbanner hbatch =>
      rcases collects_unique arguments session start start' config config' documents documents' h hcollects with
        ⟨rfl, rfl, rfl⟩
      exact Or.inr (Or.inr ⟨banner, hsome, hbanner, Or.inl ⟨failure, hbatch, rfl⟩⟩)
  | finished config' documents' start' banner report hcollects hsome hbanner hbatch =>
      rcases collects_unique arguments session start start' config config' documents documents' h hcollects with
        ⟨rfl, rfl, rfl⟩
      exact Or.inr (Or.inr ⟨banner, hsome, hbanner, Or.inr ⟨report, hbatch, rfl⟩⟩)

end

/-- A configuration that is a problem to read leads to the first course. -/
theorem course_of_unread (arguments : Arguments) (session read : Session) (problem : Problem)
    (hread : outcome (chooseConfig arguments) session = (.error (.problem problem), read))
    (done : Except Failure Nat × Session) (hcourse : Course arguments session done) :
    done = (.ok exitUsage, read.complain ("error: " ++ problem.describe ++ "\n")) := by
  -- In every course but the first two the configuration has been read, and the second has another failure.
  cases hcourse with
  | unread problem' read' hread' =>
      rw [hread, Prod.mk.injEq, Except.error.injEq, Failure.problem.injEq] at hread'
      rcases hread' with ⟨rfl, rfl⟩
      rfl
  | broken failure read' hread' hfailure =>
      rw [hread, Prod.mk.injEq, Except.error.injEq] at hread'
      rw [← hread'.1] at hfailure
      exact absurd hfailure (Option.some_ne_none problem)
  | unlogged config read' after failure hread' _ =>
      rw [hread] at hread'
      simp only [Prod.mk.injEq, reduceCtorEq, false_and] at hread'
  | idle config start hcollects =>
      exact absurd hread (ne_error_of_collects arguments session start config [] hcollects _ read)
  | unsigned config documents start fault hcollects _ _ =>
      exact absurd hread (ne_error_of_collects arguments session start config documents hcollects _ read)
  | stopped config documents start banner failure hcollects _ _ _ =>
      exact absurd hread (ne_error_of_collects arguments session start config documents hcollects _ read)
  | finished config documents start banner report hcollects _ _ _ =>
      exact absurd hread (ne_error_of_collects arguments session start config documents hcollects _ read)

/-- A command that fails to read its configuration shares none, whatever the failure is. -/
theorem shared_of_unread (words : List String) (arguments : Arguments) (session read : Session) (failure : Failure)
    (hwords : parse words = .ok arguments)
    (hread : outcome (chooseConfig arguments) session = (.error failure, read)) :
    (outcome (command words) session).2.shared = session.shared := by
  have hkept := shared_of_chooseConfig arguments session read failure hread
  have hcollects := ne_error_of_collects arguments session
  have hcourse := course_command words arguments session hwords
  generalize outcome (command words) session = done at hcourse ⊢
  cases hcourse with
  | unread problem read' hread' =>
      rw [hread, Prod.mk.injEq] at hread'
      exact hread'.2 ▸ hkept
  | broken found read' hread' _ =>
      rw [hread, Prod.mk.injEq] at hread'
      exact hread'.2 ▸ hkept
  | unlogged config read' after found hread' _ =>
      rw [hread] at hread'
      cases (Prod.mk.inj hread').1
  -- In all other courses the configuration was read.
  | idle config start h => exact absurd hread (hcollects start config [] h failure read)
  | unsigned config documents start fault h _ _ => exact absurd hread (hcollects start config documents h failure read)
  | stopped config documents start banner found h _ _ _ =>
      exact absurd hread (hcollects start config documents h failure read)
  | finished config documents start banner report h _ _ _ =>
      exact absurd hread (hcollects start config documents h failure read)

end CommandLine

end CodeBehind
