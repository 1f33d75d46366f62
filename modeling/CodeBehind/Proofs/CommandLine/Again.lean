import CodeBehind.Proofs.CommandLine.Codes
import CodeBehind.Proofs.CommandLine.Preview
import CodeBehind.Proofs.Config.Absent
import CodeBehind.Proofs.Generation.Again

/-!
# The same command again

A command with the default settings that is given a second time.

With the default settings no log is kept in a file and the banner is that of this library. So reading the configuration
and looking for documents leave the files alone, and what is left at the end is what a batch of the documents leaves;
without documents the batch is empty.

The batch adds files to the directories in which documents are looked for. All of them have names of generated files, so
the sources are the same as before, and the second command finds the same documents in the same order, and still no
configuration. It generates the same files and fails for the same documents. Hence it ends with the same code, and the
tree is the one that it has found.

The second command may be given in the session that the first one leaves, where the defaults are shared, or in a new one
that has nothing but the files. The one way not to end with a code is that a configuration cannot be looked for; this
happens both times, and nothing is done.

## Main definitions

* `Plain`: A configuration with the default settings.
* `Fresh`: A session in which nothing is remembered and no log is kept.
* `Begins`: A command that begins with the default settings.
* `Generates`: What a command with the default settings does.
* `Repeats`: A command that does again what it has done.

## Main results

* `command_again`: A second command finds the same documents, ends with the same code and changes no file.

## Theorems

* `begins_of_fresh`, `begins_of_shared`: Where a command begins with the default settings.
* `exists_generates`: The course of such a command.
* `documents_again`, `generates_again`: Two such commands, one after the other.
* `repeats_of_begins`, `repeats_of_stop`, `repeats_of_fault`: Why a command does the same again.
-/

namespace CodeBehind

namespace CommandLine

open CodeBehind.Action

/-! ## The default settings -/

/-- A configuration with the default settings, whatever file it belongs to. -/
def Plain (config : Config) : Prop :=
  config.generator = {} ∧ config.logging = {}

/-- The defaults sign with the banner of this library. -/
theorem banner_of_plain (config : Config) (h : Plain config) : config.banner = .ok Banner.standard := by
  rw [Config.banner, h.1]
  exact dif_pos Banner.standard.toolName_visible

/-- The defaults ask for no log file. -/
theorem not_asksForLog_of_plain (config : Config) (h : Plain config) : ¬ AsksForLog config := by
  rw [AsksForLog, h.2]
  exact fun hasks => Bool.noConfusion hasks.1

/-- A session in which no configuration is shared and no log is kept in a file. -/
structure Fresh (session : Session) : Prop where
  unshared : session.shared = none
  unlogged : session.log.file = .none

/-- The command begins with the default settings, and reading them leaves the files alone. -/
def Begins (arguments : Arguments) (session : Session) : Prop :=
  ∃ config read, outcome (chooseConfig arguments) session = (.ok config, read) ∧ Plain config ∧
    read.files = session.files

section

variable (arguments : Arguments) (harguments : arguments.config.filter (· ≠ "") = none) (session : Session)
include harguments

/-- Without a configuration of its own, a command takes the shared one. -/
theorem begins_of_shared (config : Config) (hplain : Plain config) (hshared : session.shared = some config) :
    Begins arguments session := by
  refine ⟨config, session, ?_, hplain, rfl⟩
  rw [chooseConfig, harguments]
  simp only
  rw [sharedConfig, outcome_bind_ok _ _ session session session (outcome_get session), hshared, outcome_pure]

/-- Without a shared configuration, the one in the working directory is loaded and shared. -/
theorem chooseConfig_of_unshared (hshared : session.shared = none) (config : Config) (loaded : Session)
    (hload : outcome (loadConfig none) session = (.ok config, loaded)) :
    outcome (chooseConfig arguments) session = (.ok config, { loaded with shared := some config }) := by
  rw [chooseConfig, harguments]
  simp only
  rw [sharedConfig, outcome_bind_ok _ _ session session session (outcome_get session), hshared]
  simp only
  rw [outcome_bind_ok _ _ session loaded config hload, outcome_bind_ok _ _ loaded _ () (outcome_shareConfig _ loaded),
    outcome_pure]

variable (hfresh : Fresh session)
include hfresh

/-- In a fresh session the defaults are loaded, and only the console hears of it. -/
theorem begins_of_fresh (record : Log.Record) (file : String)
    (hload : Config.load session.files none = ([record], .ok { file })) : Begins arguments session := by
  have hloaded := outcome_loadConfig_ok none session _ _ hload
  exact ⟨_, _, chooseConfig_of_unshared arguments harguments session hfresh.unshared _ _ hloaded, ⟨rfl, rfl⟩,
    Session.files_performAll_logged [record] session hfresh.unlogged⟩

/-- If a configuration cannot be looked for in a fresh session, that is the end, and nothing has been done. -/
theorem chooseConfig_of_fault (failure : Failure)
    (hload : Config.load session.files none = ([], .error failure)) :
    outcome (chooseConfig arguments) session = (.error failure, session) := by
  have hloaded := outcome_loadConfig_error none session _ _ hload
  rw [chooseConfig, harguments]
  simp only
  rw [sharedConfig, outcome_bind_ok _ _ session session session (outcome_get session), hfresh.unshared]
  simp only
  rw [outcome_bind_error _ _ session _ _ hloaded]
  rfl

end

/-! ## The course of such a command -/

/-- What a command with the default settings does, from a session on and with the documents that it finds: it generates
    them, ends with a code, and leaves the files that a batch of them leaves. -/
structure Generates (arguments : Arguments) (session : Session) (documents : List String) (report : Report)
    (done : Except Failure Nat × Session) : Prop where
  found : ∃ collected, Discovery.collect session.files Document.extension arguments.paths = .ok collected ∧
    collected.documents = documents
  collects : ∃ config start, Plain config ∧ Collects arguments session config documents start
  ends : (Generation.generateAll session.files .standard (arguments.dryRun || arguments.stdout) documents).result =
    .ok report
  code : done.1 = .ok (if documents = [] then exitUsage else if report.succeeded then exitDone else exitFailed)
  files : done.2.files =
    (Generation.generateAll session.files .standard (arguments.dryRun || arguments.stdout) documents).files
  shared : ∃ config, Plain config ∧ done.2.shared = some config
  unlogged : done.2.log.file = .none

/-- With the default settings, documents are looked for in the files at the start, and nothing is logged to a file. -/
theorem exists_collects_of_begins (arguments : Arguments) (session : Session) (h : Begins arguments session) :
    ∃ config collected start, Plain config ∧
      Discovery.collect session.files Document.extension arguments.paths = .ok collected ∧
      Collects arguments session config collected.documents start ∧ start.files = session.files ∧
      start.shared = some config ∧ start.log.file = .none := by
  rcases h with ⟨config, read, hread, hplain, hfiles⟩
  rcases Discovery.exists_collect session.files Document.extension arguments.paths with ⟨collected, hcollect⟩
  have hasks := not_asksForLog_of_plain config hplain
  -- No log file is asked for, so nothing is opened and setting up the log leaves the files alone.
  rcases applyLogging_cases arguments config { read with shared := some config } with
    ⟨_, hlog⟩ | ⟨_, _, hfile, _⟩ | ⟨_, hfile, _⟩
  · generalize hready : ({ read with
      shared := some config
      log := { threshold := thresholdFor arguments config } } : Session) = ready at hlog
    have hreadyFiles : ready.files = session.files := hready ▸ hfiles
    have hreadyLog : ready.log.file = .none := hready ▸ rfl
    refine ⟨config, collected, ready.performAll (collected.warnings.map .logged), hplain, hcollect, ?_, ?_, ?_, ?_⟩
    · refine ⟨ready, collected, ⟨read, hread, hlog⟩, ?_, rfl, rfl⟩
      rw [hplain.1, hreadyFiles]
      exact hcollect
    · rw [Session.files_performAll_logged _ ready hreadyLog, hreadyFiles]
    · rw [Session.shared_performAll, ← hready]
    · exact Session.file_performAll_none _ ready hreadyLog
  · exact absurd hfile hasks
  · exact absurd hfile hasks

/-- A command that begins with the default settings generates the documents that it finds and ends with a code. -/
theorem exists_generates (arguments : Arguments) (session : Session) (h : Begins arguments session)
    (hfree : session.files.NullFree) (done : Except Failure Nat × Session)
    (hcourse : Course arguments session done) :
    ∃ documents report, Generates arguments session documents report done := by
  rcases exists_collects_of_begins arguments session h with
    ⟨config, collected, start, hplain, hcollect, hcollects, hfiles, hshared, hlog⟩
  have hbanner := banner_of_plain config hplain
  rcases exists_report_of_collects arguments session start config collected.documents hcollects hfree .standard with
    ⟨report, hreport⟩
  rw [batch, hfiles] at hreport
  rcases course_of_collects arguments session start config collected.documents hcollects done hcourse with
    ⟨hnone, rfl⟩ | ⟨_, fault, hfault, _⟩ | ⟨banner, hsome, hfound, hcases⟩
  · -- Without documents the batch is empty, and its tree is the one at the start.
    refine ⟨collected.documents, report, ⟨collected, hcollect, rfl⟩, ⟨config, start, hplain, hcollects⟩, hreport,
      ?_, ?_, ⟨config, hplain, hshared⟩, hlog⟩
    · rw [if_pos hnone]
    · rw [hnone]
      exact hfiles
  · rw [hbanner] at hfault
    simp only [reduceCtorEq] at hfault
  · rw [hbanner, Except.ok.injEq] at hfound
    rw [← hfound, batch, hfiles] at hcases
    rcases hcases with ⟨failure, hfailure, _⟩ | ⟨report', hreport', rfl⟩
    · rw [hreport] at hfailure
      simp only [reduceCtorEq] at hfailure
    · refine ⟨collected.documents, report', ⟨collected, hcollect, rfl⟩, ⟨config, start, hplain, hcollects⟩, hreport',
        ?_, ?_, ⟨config, hplain, ?_⟩, ?_⟩
      · rw [if_neg hsome]
      · rw [printReport_eq, Generation.files_eq_saved, ← hfiles]
        exact Session.files_performAll _ start hlog
      · rw [printReport_eq]
        exact (Session.shared_performAll _ start).trans hshared
      · rw [printReport_eq]
        exact Session.file_performAll_none _ start hlog

/-! ## The second command -/

section

variable (arguments : Arguments) (session next : Session) (documents documents' : List String) (report report' : Report)
  (done done' : Except Failure Nat × Session) (h : Generates arguments session documents report done)
  (h' : Generates arguments next documents' report' done') (hfiles : next.files = done.2.files)
include h h' hfiles

/-- The second of two commands with the default settings finds the documents that the first has found. -/
theorem documents_again : documents' = documents := by
  have hsources := Generation.sameSources_generateAll session.files .standard (arguments.dryRun || arguments.stdout)
    documents
  rcases h.found with ⟨collected, hcollect, hfound⟩
  rcases h'.found with ⟨collected', hcollect', hfound'⟩
  rw [← h.files, ← hfiles] at hsources
  rw [← hfound, ← hfound']
  exact Discovery.collect_congr session.files next.files hsources arguments.paths collected collected' hcollect
    hcollect'

/-- It ends with the same code, and leaves the tree as it is. -/
theorem generates_again (hfree : session.files.NullFree) :
    done'.1 = done.1 ∧ next.files.SameTree done'.2.files := by
  have hsame := documents_again arguments session next documents documents' report report' done done' h h' hfiles
  rcases h.collects with ⟨config, start, _, hcollects⟩
  have hdocuments := (nullFree_of_collects arguments session start config documents hcollects hfree).2
  have hworkdir := FileSystem.nullByte_notMem_workdirPath session.files hfree.workdir
  rcases Generation.generateAll_again session.files .standard documents hdocuments hworkdir
    (arguments.dryRun || arguments.stdout) with ⟨first, second, hfirst, hsecond, _, hfailures, htree⟩
  rw [h.ends, Except.ok.injEq] at hfirst
  rw [← h.files, ← hfiles, ← hsame, h'.ends, Except.ok.injEq] at hsecond
  rw [← h.files, ← hfiles, ← hsame, ← h'.files] at htree
  -- Whether a report has failures is told by the documents that have failed.
  have hsucceeded : report'.succeeded = report.succeeded := by
    rw [hfirst, hsecond, Report.succeeded, Report.succeeded, ← List.isEmpty_map, hfailures, List.isEmpty_map]
  exact ⟨by rw [h'.code, h.code, hsame, hsucceeded], htree⟩

end

/-- A command that is given in a session as it has been given in another: it finds the same documents in the same order,
    ends with the same code or failure, and leaves every file as it is. -/
structure Repeats (words : List String) (session next : Session) : Prop where
  documents : ∀ arguments config documents start, parse words = .ok arguments →
    Collects arguments session config documents start →
    ∃ config' start', Collects arguments next config' documents start'
  ends : (outcome (command words) next).1 = (outcome (command words) session).1
  tree : next.files.SameTree (outcome (command words) next).2.files

/-- A command line that is not understood does the same in every session. -/
theorem repeats_of_stop (words : List String) (session next : Session) (stop : Stop)
    (hparse : parse words = .error stop) : Repeats words session next := by
  refine ⟨fun arguments _ _ _ harguments _ => ?_, ?_, sameTree_of_stop words next stop hparse⟩
  · rw [hparse] at harguments
    simp only [reduceCtorEq] at harguments
  · rw [command, hparse]
    cases stop <;> rfl

section

variable (words : List String) (arguments : Arguments) (session next : Session) (hparse : parse words = .ok arguments)
  (hfree : session.files.NullFree) (hfiles : next.files = (outcome (command words) session).2.files)
include hparse hfree hfiles

/-- Two commands that begin with the default settings, the second in the files that the first has left. -/
theorem repeats_of_begins (h : Begins arguments session) (h' : Begins arguments next) : Repeats words session next := by
  have hcourse := course_command words arguments session hparse
  rcases exists_generates arguments session h hfree _ hcourse with ⟨documents, report, hdone⟩
  have hfree' : next.files.NullFree := by
    rw [hfiles, hdone.files]
    exact Generation.nullFree_generateAll _ _ _ _ hfree
  rcases exists_generates arguments next h' hfree' _ (course_command words arguments next hparse) with
    ⟨documents', report', hdone'⟩
  have hsame := documents_again arguments session next documents documents' report report' _ _ hdone hdone' hfiles
  rcases generates_again arguments session next documents documents' report report' _ _ hdone hdone' hfiles hfree with
    ⟨hends, htree⟩
  refine ⟨fun other config found start hother hfound => ?_, hends, htree⟩
  rw [hparse, Except.ok.injEq] at hother
  rw [← hother] at hfound ⊢
  -- There is one list of documents, and it is the one that has been generated.
  rcases hdone.collects with ⟨_, _, _, hcollects⟩
  rcases hdone'.collects with ⟨config', start', _, hcollects'⟩
  rw [(collects_unique arguments session _ start _ config documents found hcollects hfound).2.1, ← hsame]
  exact ⟨config', start', hcollects'⟩

end

/-- If a configuration cannot be looked for, the command ends with that failure, and nothing has been done. -/
theorem outcome_of_fault (words : List String) (arguments : Arguments) (session : Session)
    (hparse : parse words = .ok arguments) (error : FileError)
    (hread : outcome (chooseConfig arguments) session = (.error (.file error), session)) :
    outcome (command words) session = (.error (.file error), session) := by
  rw [command, hparse]
  simp only
  rw [carryOutArguments, outcome_bind_ok _ _ session session _ (outcome_observing _ session session _ hread),
    outcome_throw]

/-- Such a command ends so in every session with these files. -/
theorem repeats_of_fault (words : List String) (arguments : Arguments) (session next : Session)
    (hparse : parse words = .ok arguments) (error : FileError)
    (hread : outcome (chooseConfig arguments) session = (.error (.file error), session))
    (hread' : outcome (chooseConfig arguments) next = (.error (.file error), next)) : Repeats words session next := by
  have hdone := outcome_of_fault words arguments session hparse error hread
  have hdone' := outcome_of_fault words arguments next hparse error hread'
  refine ⟨fun other config documents start hother hcollects => ?_, by rw [hdone, hdone'], ?_⟩
  · rw [hparse, Except.ok.injEq] at hother
    rw [← hother] at hcollects
    exact absurd hread (ne_error_of_collects arguments session start config documents hcollects _ session)
  · rw [hdone']
    exact FileSystem.sameTree_refl next.files

/-- A command with the default settings can be given again, and nothing changes. If no configuration is named, shared or
    there to be found, a second command, given in the session that the first one leaves or in a fresh session with its
    files, finds the same documents in the same order, ends with the same code, and leaves every file with the content
    and the mode that it has. A command that is understood looks for documents with the default settings and ends with a
    code, unless a configuration cannot even be looked for; then nothing is done. -/
theorem command_again (words : List String) (session : Session)
    (hdefault : ∀ arguments, parse words = .ok arguments → arguments.config.filter (· ≠ "") = none)
    (hfresh : Fresh session) (habsent : Config.Absent session.files) (hfree : session.files.NullFree) :
    Repeats words session (outcome (command words) session).2 ∧
      (∀ next, next.files = (outcome (command words) session).2.files → Fresh next → Repeats words session next) ∧
      ∀ arguments, parse words = .ok arguments →
        (∃ error, Config.discover session.files = .error (.file error) ∧
          outcome (command words) session = (.error (.file error), session)) ∨
        ∃ code config documents start, (outcome (command words) session).1 = .ok code ∧ Plain config ∧
          Collects arguments session config documents start := by
  cases hparse : parse words with
  | error stop =>
      refine ⟨repeats_of_stop words _ _ stop hparse, fun next _ _ => repeats_of_stop words _ next stop hparse, ?_⟩
      intro arguments harguments
      simp only [reduceCtorEq] at harguments
  | ok arguments =>
      have hnamed := hdefault arguments hparse
      rcases Config.load_of_absent session.files habsent with ⟨record, file, hload⟩ | ⟨error, hdiscover, hload⟩
      · have hbegins := begins_of_fresh arguments hnamed session hfresh record file hload
        have hcourse := course_command words arguments session hparse
        rcases exists_generates arguments session hbegins hfree _ hcourse with ⟨documents, report, hdone⟩
        refine ⟨?_, fun next hfiles hnext => ?_, ?_⟩
        · -- The defaults are shared now.
          rcases hdone.shared with ⟨config, hplain, hshared⟩
          exact repeats_of_begins words arguments session _ hparse hfree rfl hbegins
            (begins_of_shared arguments hnamed _ config hplain hshared)
        · -- There is still no configuration among the files.
          have hsources : session.files.SameSources next.files := by
            rw [hfiles, hdone.files]
            exact Generation.sameSources_generateAll _ _ _ _
          have hload' := (Config.load_congr session.files next.files hsources habsent).trans hload
          exact repeats_of_begins words arguments session next hparse hfree hfiles hbegins
            (begins_of_fresh arguments hnamed next hnext record file hload')
        · intro other hother
          rw [← Except.ok.inj hother]
          rcases hdone.collects with ⟨config, start, hplain, hcollects⟩
          exact Or.inr ⟨_, config, documents, start, hdone.code, hplain, hcollects⟩
      · have hread := chooseConfig_of_fault arguments hnamed session hfresh _ hload
        have hdone := outcome_of_fault words arguments session hparse error hread
        rw [hdone]
        refine ⟨repeats_of_fault words arguments session session hparse error hread hread,
          fun next hfiles hnext => ?_, fun _ _ => Or.inl ⟨error, hdiscover, rfl⟩⟩
        simp only at hfiles
        exact repeats_of_fault words arguments session next hparse error hread
          (chooseConfig_of_fault arguments hnamed next hnext _ (hfiles ▸ hload))

/-- A session with documents in nested directories, one of them without a name, and with a file that was generated
    before and is nobody else's to read. -/
def nestedSession : Session where
  files := {
    entries := [(["home"], .directory), (["home", "ui"], .directory), (["home", "ui", "Menu.uxml"], .file .empty 0o644),
      (["home", "ui", "Menu.g.cs"], .file .empty 0o600), (["home", "ui", "parts"], .directory),
      (["home", "ui", "parts", ".uxml"], .file .empty 0o644),
      (["home", "ui", "parts", "Shop.UXML"], .file .empty 0o644)]
    workdir := ["home"]
    umask := 0o022 }
  clock := ""

/-- A directory, a path at which nothing is, and a document that is in the directory. -/
def nestedWords : List String :=
  ["ui", "missing", "ui/Menu.uxml"]

/-- Both commands end with the same code, and the second one changes nothing. -/
theorem command_nestedSession :
    (∀ arguments, parse nestedWords = .ok arguments → arguments.config.filter (· ≠ "") = none) ∧
      Fresh nestedSession ∧ Config.Absent nestedSession.files ∧ nestedSession.files.NullFree ∧
      Repeats nestedWords nestedSession (outcome (command nestedWords) nestedSession).2 ∧
      ∃ code, (outcome (command nestedWords) nestedSession).1 = .ok code ∧
        (outcome (command nestedWords) (outcome (command nestedWords) nestedSession).2).1 = .ok code := by
  have hparse : parse nestedWords = .ok { paths := nestedWords } := rfl
  have hdefault : ∀ arguments, parse nestedWords = .ok arguments → arguments.config.filter (· ≠ "") = none := by
    intro arguments harguments
    rw [hparse, Except.ok.injEq] at harguments
    rw [← harguments]
    rfl
  have habsent : Config.Absent nestedSession.files := by
    unfold Config.Absent
    decide
  have hfree : nestedSession.files.NullFree :=
    FileSystem.nullFree_of_entries _ (by decide) (by
      intro entry hentry
      simp only [nestedSession, List.mem_cons, List.not_mem_nil, or_false] at hentry
      rcases hentry with rfl | rfl | rfl | rfl | rfl | rfl | rfl <;> decide)
  have hfound : (Config.discover nestedSession.files).isOk = true := by decide
  rcases command_again nestedWords nestedSession hdefault ⟨rfl, rfl⟩ habsent hfree with ⟨hrepeats, _, hends⟩
  refine ⟨hdefault, ⟨rfl, rfl⟩, habsent, hfree, hrepeats, ?_⟩
  rcases hends _ hparse with ⟨error, hfault, _⟩ | ⟨code, _, _, _, hcode, _⟩
  · rw [hfault] at hfound
    exact Bool.noConfusion hfound
  · exact ⟨code, hcode, hrepeats.ends.trans hcode⟩

end CommandLine

end CodeBehind
