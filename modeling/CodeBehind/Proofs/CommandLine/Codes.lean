import CodeBehind.Proofs.CommandLine.Report
import CodeBehind.Proofs.Generation.Completion

/-!
# Commands that end with a code

When a command that is understood ends with a code, and when a failure ends it.

A configuration that is reported as a problem ends the command with the code of a wrong use, and so do missing documents.
What is not reported ends it without a code: a configuration that fails without being a problem, a log file that cannot
be opened, and a name or version with nothing in it to sign with. The last of these is only found out if there is
something to sign, so the same configuration does no harm where there is no document.

Behind that nothing is left to fail. The documents come from the tree, and no name in a tree has a null byte; so none of
them can end the batch.

A half of a pair can neither be written nor stand in a path. All this is therefore said of configurations that name no
such text (`IsRepresentable`).

## Main definitions

* `IsRepresentable`: The names of the tree and the texts of the configuration are what they are taken for.
* `Signs`: A configuration from which a banner can be made.
* `OpensLog`: The log file that is asked for can be opened.

## Main results

* `command_code`: When a command ends with a code, with which, and what happens otherwise.

## Theorems

* `signs_iff`: There is a banner if the name and the version show something.
* `exists_ready_iff`: The log is set up if its file can be opened.
* `exists_report_of_collects`: A batch of documents that were found has a report.
* `code_of_course`, `failure_of_course`, `exists_code_iff`: How the courses end.
-/

namespace CodeBehind

namespace CommandLine

open CodeBehind.Action

/-! ## What a command starts from -/

/-- No name in the tree has a null byte, and no text of the configuration that is read has halves that are replaced. -/
structure IsRepresentable (arguments : Arguments) (session : Session) : Prop where
  names : session.files.NullFree
  texts : ∀ config read, outcome (chooseConfig arguments) session = (.ok config, read) → config.halved = []

/-! ## What a configuration needs -/

/-- There is something to see in the tool name, and in the version if there is one; an empty version counts as none. -/
def Signs (config : Config) : Prop :=
  Text.allBlank config.generator.toolName = false ∧
    ∀ version, config.generator.version = some version → version = "" ∨ Text.allBlank version = false

theorem exists_make_iff (toolName version : String) :
    (∃ banner, Banner.make toolName version = .ok banner) ↔
      Text.allBlank toolName = false ∧ Text.allBlank version = false := by
  unfold Banner.make
  by_cases hname : Text.allBlank toolName = false
  · rw [dif_pos hname]
    by_cases hversion : Text.allBlank version = false
    · rw [dif_pos hversion]
      exact iff_of_true ⟨_, rfl⟩ ⟨hname, hversion⟩
    · rw [dif_neg hversion]
      refine iff_of_false ?_ (fun h => hversion h.2)
      rintro ⟨banner, hbanner⟩
      simp only [reduceCtorEq] at hbanner
  · rw [dif_neg hname]
    refine iff_of_false ?_ (fun h => hname h.1)
    rintro ⟨banner, hbanner⟩
    simp only [reduceCtorEq] at hbanner

/-- There is a banner if and only if the name and the version show something. -/
theorem signs_iff (config : Config) : (∃ banner, config.banner = .ok banner) ↔ Signs config := by
  unfold Config.banner Signs
  rw [exists_make_iff]
  cases config.generator.version with
  | none =>
      simp only [reduceCtorEq, false_implies, implies_true, and_true, and_iff_left_iff_imp]
      exact fun _ => Banner.standard.version_visible
  | some version =>
      simp only [Option.some.injEq, forall_eq']
      by_cases hempty : version = ""
      · rw [if_pos hempty]
        have hlibrary : Text.allBlank Banner.libraryVersion = false := Banner.standard.version_visible
        simp only [hlibrary, hempty, true_or, and_true]
      · rw [if_neg hempty]
        simp only [hempty, false_or]

/-- The log file can be opened if the configuration asks for one. -/
def OpensLog (session : Session) (config : Config) : Prop :=
  AsksForLog config → ∃ opened,
    session.files.openFile (Path.absolute session.files.workdirPath config.logging.logFile) = .ok opened

/-- Everything can be set up if and only if the log file can be opened. -/
theorem exists_ready_iff (arguments : Arguments) (session read : Session) (config : Config)
    (hread : outcome (chooseConfig arguments) session = (.ok config, read)) :
    (∃ ready, Ready arguments session config ready) ↔ OpensLog read config := by
  have hready : ∀ ready, Ready arguments session config ready →
      outcome (applyLogging arguments config) { read with shared := some config } = (.ok (), ready) := by
    rintro ready ⟨found, hfound, hlog⟩
    rw [hread, Prod.mk.injEq] at hfound
    rwa [hfound.2]
  rcases applyLogging_cases arguments config { read with shared := some config } with
    ⟨hasks, hdone⟩ | ⟨place, files, _, hopen, hdone⟩ | ⟨error, hasks, hopen, hdone⟩
  · exact iff_of_true ⟨_, read, hread, hdone⟩ (fun h => absurd h hasks)
  · exact iff_of_true ⟨_, read, hread, hdone⟩ (fun _ => ⟨_, hopen⟩)
  · refine iff_of_false ?_ (fun h => ?_)
    · rintro ⟨ready, h⟩
      have hlog := hready ready h
      rw [hdone] at hlog
      simp only [Prod.mk.injEq, reduceCtorEq, false_and] at hlog
    · rcases h hasks with ⟨opened, hopened⟩
      exact absurd (hopen.symm.trans hopened) (by simp only [reduceCtorEq, not_false_eq_true])

/-- A batch of documents that were found has a report. -/
theorem exists_report_of_collects (arguments : Arguments) (session start : Session) (config : Config)
    (documents : List String) (h : Collects arguments session config documents start)
    (hfree : session.files.NullFree) (banner : Banner) :
    ∃ report, (batch arguments start banner documents).result = .ok report := by
  rcases nullFree_of_collects arguments session start config documents h hfree with ⟨hstart, hdocuments⟩
  have hworkdir := FileSystem.nullByte_notMem_workdirPath start.files hstart.workdir
  rcases Generation.exists_report start.files banner (arguments.dryRun || arguments.stdout) documents hworkdir
    (fun path hmem hbad => Generation.not_fatal_of_notMem start.files path (hdocuments path hmem) hbad.2) with
      ⟨report, hreport, _⟩
  exact ⟨report, hreport⟩

/-! ## The code of a command -/

section

variable (arguments : Arguments) (session : Session) (done : Except Failure Nat × Session)
  (hcourse : Course arguments session done)
include hcourse

/-- There are three codes. -/
theorem code_of_course (code : Nat) (after : Session) (hdone : done = (.ok code, after)) :
    code = exitDone ∨ code = exitFailed ∨ code = exitUsage := by
  rw [hdone] at hcourse
  cases hcourse with
  | unread _ _ _ => exact Or.inr (Or.inr rfl)
  | idle _ _ _ => exact Or.inr (Or.inr rfl)
  | finished _ _ _ _ report _ _ _ _ =>
      split
      · exact Or.inl rfl
      · exact Or.inr (Or.inl rfl)

variable (hfree : session.files.NullFree)
include hfree

/-- The failures that end a command: reading the configuration fails for a path or for a single value, the log file
    cannot be opened, or there is no banner. -/
theorem failure_of_course (failure : Failure) (after : Session) (hdone : done = (.error failure, after)) :
    (∃ error, failure = .file error) ∨ (∃ misuse, failure = .misuse misuse) ∨
      (∃ fault, failure = .numeral fault) ∨ ∃ fault, failure = .banner fault := by
  rw [hdone] at hcourse
  cases hcourse with
  | broken _ _ hread hfound =>
      cases loadFault_of_chooseConfig arguments session after failure hread with
      | unusable message file => exact absurd hfound (Option.some_ne_none _)
      | path error => exact Or.inl ⟨error, rfl⟩
      | scalar misuse => exact Or.inr (Or.inl ⟨misuse, rfl⟩)
      | numeral fault => exact Or.inr (Or.inr (Or.inl ⟨fault, rfl⟩))
  | unlogged config read _ _ hread hlog =>
      rcases applyLogging_cases arguments config { read with shared := some config } with
        ⟨_, hready⟩ | ⟨_, _, _, _, hready⟩ | ⟨error, _, _, hready⟩
      · rw [hready] at hlog
        simp only [Prod.mk.injEq, reduceCtorEq, false_and] at hlog
      · rw [hready] at hlog
        simp only [Prod.mk.injEq, reduceCtorEq, false_and] at hlog
      · rw [hready, Prod.mk.injEq, Except.error.injEq] at hlog
        exact Or.inl ⟨error, hlog.1.symm⟩
  | unsigned _ _ _ fault _ _ _ => exact Or.inr (Or.inr (Or.inr ⟨fault, rfl⟩))
  | stopped config documents start banner _ hcollects _ _ hbatch =>
      -- No document that was found can end the batch.
      rcases exists_report_of_collects arguments session start config documents hcollects hfree banner with ⟨_, hreport⟩
      rw [hreport] at hbatch
      simp only [reduceCtorEq] at hbatch

/-- A command ends with a code if the configuration is reported as a problem, or if everything can be set up and there is
    something to sign with or nothing to sign. -/
theorem exists_code_iff :
    (∃ code after, done = (.ok code, after)) ↔
      (∃ problem read, outcome (chooseConfig arguments) session = (.error (.problem problem), read)) ∨
      ∃ config read, outcome (chooseConfig arguments) session = (.ok config, read) ∧ OpensLog read config ∧
        (Signs config ∨ ∃ start, Collects arguments session config [] start) := by
  have hopens : ∀ config documents start, Collects arguments session config documents start →
      ∃ read, outcome (chooseConfig arguments) session = (.ok config, read) ∧ OpensLog read config := by
    rintro config documents start ⟨ready, _, hready, _⟩
    rcases hready with ⟨read, hread, hlog⟩
    exact ⟨read, hread, (exists_ready_iff arguments session read config hread).mp ⟨ready, read, hread, hlog⟩⟩
  -- Three courses end with a code, and all others with a failure.
  constructor
  · rintro ⟨code, after, hdone⟩
    rw [hdone] at hcourse
    cases hcourse with
    | unread problem read hread => exact Or.inl ⟨problem, read, hread⟩
    | idle config start hcollects =>
        rcases hopens config [] start hcollects with ⟨read, hread, hlog⟩
        exact Or.inr ⟨config, read, hread, hlog, Or.inr ⟨start, hcollects⟩⟩
    | finished config documents start banner report hcollects _ hbanner _ =>
        rcases hopens config documents start hcollects with ⟨read, hread, hlog⟩
        exact Or.inr ⟨config, read, hread, hlog, Or.inl ((signs_iff config).mp ⟨banner, hbanner⟩)⟩
  · rintro (⟨problem, read, hread⟩ | ⟨config, read, hread, hlog, hsigns⟩)
    · exact ⟨_, _, course_of_unread arguments session read problem hread done hcourse⟩
    · rcases (exists_ready_iff arguments session read config hread).mpr hlog with ⟨ready, hready⟩
      rcases exists_collects arguments session ready config hready with ⟨documents, start, hcollects⟩
      -- Without a signature, or without a report, there would be no code. Neither is possible here.
      rcases course_of_collects arguments session start config documents hcollects done hcourse with
        ⟨_, hdone⟩ | ⟨hsome, fault, hfault, _⟩ | ⟨banner, _, _, ⟨failure, hfailure, _⟩ | ⟨report, _, hdone⟩⟩
      · exact ⟨_, _, hdone⟩
      · rcases hsigns with hsigns | ⟨start', hnone⟩
        · rcases (signs_iff config).mpr hsigns with ⟨banner, hbanner⟩
          rw [hfault] at hbanner
          simp only [reduceCtorEq] at hbanner
        · have hsame := collects_unique arguments session start start' config config documents [] hcollects hnone
          exact absurd hsame.2.1.symm hsome
      · rcases exists_report_of_collects arguments session start config documents hcollects hfree banner with
          ⟨_, hreport⟩
        rw [hreport] at hfailure
        simp only [reduceCtorEq] at hfailure
      · exact ⟨_, _, hdone⟩

end

/-- A session with a document, and with a configuration whose tool name is a blank. -/
def unsignedSession : Session where
  files := {
    entries := [(["home"], .directory), (["home", "Menu.uxml"], .file .empty 0o644),
      (["home", "rosalina.json"], .file "\x7b\"generator\": \x7b\"tool_name\": \" \"\x7d\x7d".toUTF8 0o644)]
    workdir := ["home"]
    umask := 0o022 }
  clock := ""

end CommandLine

end CodeBehind
