import CodeBehind.Proofs.CommandLine.Printing
import CodeBehind.Proofs.CommandLine.Report

/-!
# Previews

A command that writes nothing, and what it says about the command that writes.

A command that prints its texts, or that writes nothing on purpose, only synthesizes. So no file is put in place on any of
its courses, and where there is no log in a file either, the tree after it is the tree before it.

If the command without the option ends well, all its documents have been synthesized, from their names and the banner.
The preview finds the same documents and the same banner, so it synthesizes the same texts and ends well too. And since
the texts of the command that writes are in place at its end, whatever was written after them, the preview prints what is
read from the files, document by document.

## Main results

* `preview_agrees`: A preview leaves the tree alone and prints what the command that writes leaves in its files.

## Theorems

* `sameTree_of_course`, `sameTree_of_stop`: On no course of a preview is the tree changed.
* `preview_of_finished`: The preview of a command that has ended well.
-/

namespace CodeBehind

namespace CommandLine

open CodeBehind.Action

/-- No log is kept in a file: none is open, and no configuration that is read asks for one. -/
def LogsNowhere (arguments : Arguments) (session : Session) : Prop :=
  (∀ place, session.log.file ≠ .open place) ∧
    ∀ config read, outcome (chooseConfig arguments) session = (.ok config, read) → ¬ AsksForLog config

section

variable (arguments : Arguments) (session : Session) (hlogs : LogsNowhere arguments session)
include hlogs

/-- Nothing is written before the documents are generated, and no log is open then. -/
theorem sameTree_of_collects (config : Config) (documents : List String) (start : Session)
    (h : Collects arguments session config documents start) :
    session.files.SameTree start.files ∧ ∀ place, start.log.file ≠ .open place := by
  have hasks : ¬ AsksForLog config := by
    rcases h with ⟨ready, _, ⟨read, hread, _⟩, _⟩
    exact hlogs.2 config read hread
  have hclosed : ∀ place, start.log.file ≠ .open place := fun place hopen =>
    hasks ((isOpen_of_collects arguments session start config documents h).mp ⟨place, hopen⟩)
  have hunwritten := unwritten_of_collects arguments session start config documents h
  exact ⟨sameTree_of_unwritten session start hunwritten hlogs.1 hclosed, hclosed⟩

/-- Reading the configuration writes nothing. -/
theorem sameTree_of_chooseConfig (read : Session) (result : Except Failure Config)
    (h : outcome (chooseConfig arguments) session = (result, read)) : session.files.SameTree read.files := by
  have hsaid := said_chooseConfig arguments session read result h
  exact sameTree_of_unwritten session read (unwritten_of_said session read hsaid) hlogs.1
    (fun place => hsaid.log ▸ hlogs.1 place)

/-- A batch of dry runs writes nothing. -/
theorem sameTree_of_batch (config : Config) (documents : List String) (start : Session) (banner : Banner)
    (h : Collects arguments session config documents start)
    (hpreview : (arguments.dryRun || arguments.stdout) = true) :
    session.files.SameTree (start.performAll (batch arguments start banner documents).events).files := by
  rcases sameTree_of_collects arguments session hlogs config documents start h with ⟨hbefore, hclosed⟩
  have hafter := sameTree_of_unwritten start _ (unwritten_of_batch arguments start banner documents hpreview) hclosed
    (fun place hopen => hclosed place (Session.file_performAll _ start place hopen).1)
  exact FileSystem.sameTree_trans _ _ _ hbefore hafter

/-- On no course of a preview is the tree changed. -/
theorem sameTree_of_course (hpreview : (arguments.dryRun || arguments.stdout) = true)
    (done : Except Failure Nat × Session) (hcourse : Course arguments session done) :
    session.files.SameTree done.2.files := by
  cases hcourse with
  | unread problem read hread => exact sameTree_of_chooseConfig arguments session hlogs read _ hread
  | broken failure read hread _ => exact sameTree_of_chooseConfig arguments session hlogs read _ hread
  | unlogged config read after failure hread hlog =>
      -- Setting up the log fails for its file only, and none is asked for.
      have hasks := hlogs.2 config read hread
      rcases applyLogging_cases arguments config { read with shared := some config } with
        ⟨_, hdone⟩ | ⟨_, _, hfile, _⟩ | ⟨_, hfile, _⟩
      · rw [hdone] at hlog
        simp only [Prod.mk.injEq, reduceCtorEq, false_and] at hlog
      · exact absurd hfile hasks
      · exact absurd hfile hasks
  | idle config start hcollects => exact (sameTree_of_collects arguments session hlogs config [] start hcollects).1
  | unsigned config documents start fault hcollects _ _ =>
      exact (sameTree_of_collects arguments session hlogs config documents start hcollects).1
  | stopped config documents start banner failure hcollects _ _ _ =>
      exact sameTree_of_batch arguments session hlogs config documents start banner hcollects hpreview
  | finished config documents start banner report hcollects _ _ _ =>
      have hfiles := sameTree_of_batch arguments session hlogs config documents start banner hcollects hpreview
      rw [printReport_eq]
      exact hfiles

end

/-- The same documents are found whether the texts are printed or not. -/
theorem collects_stdout (arguments : Arguments) (session start : Session) (config : Config) (documents : List String) :
    Collects { arguments with stdout := true } session config documents start ↔
      Collects arguments session config documents start :=
  Iff.rfl

/-- The preview of a command that has ended well ends well too, and prints the texts that were generated. -/
theorem preview_of_finished (arguments : Arguments) (session start : Session) (config : Config)
    (documents : List String) (banner : Banner) (report : Report)
    (hcollects : Collects arguments session config documents start) (hsome : documents ≠ [])
    (hbanner : config.banner = .ok banner) (hbatch : (batch arguments start banner documents).result = .ok report)
    (hfailures : report.failures = []) (done : Except Failure Nat × Session)
    (hcourse : Course { arguments with stdout := true } session done) :
    done.1 = .ok exitDone ∧ done.2.stdout = session.stdout ++ String.join (report.generated.map Rendered.text) := by
  -- No failure, so every document was synthesized, and a batch that writes nothing asks for no more.
  have hdocuments := generated_of_succeeded start.files banner _ documents report hbatch hfailures
  have hpreview : (batch { arguments with stdout := true } start banner documents).result =
      .ok { generated := report.generated } := by
    rw [batch, Bool.or_true]
    exact generateAll_of_synthesized start.files banner documents report.generated hdocuments
  have hstdout : (start.performAll (batch { arguments with stdout := true } start banner documents).events).stdout =
      session.stdout :=
    (Session.performAll_keeps _ start).1.trans
      (prints_of_collects arguments session start config documents hcollects).1
  rcases course_of_collects { arguments with stdout := true } session start config documents
      ((collects_stdout arguments session start config documents).mpr hcollects) done hcourse with
    ⟨hnone, _⟩ | ⟨_, fault, hfault, _⟩ | ⟨banner', _, hbanner', hcases⟩
  · exact absurd hnone hsome
  · rw [hbanner] at hfault
    simp only [reduceCtorEq] at hfault
  · rw [hbanner, Except.ok.injEq] at hbanner'
    rw [← hbanner', hpreview] at hcases
    rcases hcases with ⟨failure, hfailure, _⟩ | ⟨found, hfound, hdone⟩
    · simp only [reduceCtorEq] at hfailure
    · -- The report has the same texts and no failures.
      rw [Except.ok.injEq] at hfound
      rw [hdone, ← hfound, printReport_eq]
      exact ⟨rfl, by simp only [if_true, hstdout]⟩

/-- A command line that is not understood leaves the tree alone. -/
theorem sameTree_of_stop (words : List String) (session : Session) (stop : Stop) (hparse : parse words = .error stop) :
    session.files.SameTree (outcome (command words) session).2.files := by
  rw [command, hparse]
  cases stop with
  | help => exact FileSystem.sameTree_refl session.files
  | wrong reason => exact FileSystem.sameTree_refl session.files

/-- A preview agrees with the command that writes. As long as no log is kept in a file, a command line leaves the tree as
    it was, whatever becomes of it, if it asks for printed texts or for nothing to be written, or if it is not understood.
    And if the command that writes ends well, then so does every command line that asks for the same with the texts
    printed, such as the same line with the option in front; and what it prints is, for the documents that are found in
    their order, what the command that writes has left in their files. -/
theorem preview_agrees (words : List String) (session : Session)
    (hlogs : ∀ arguments, parse words = .ok arguments → LogsNowhere arguments session) :
    ((∀ arguments, parse words = .ok arguments → (arguments.dryRun || arguments.stdout) = true) →
        session.files.SameTree (outcome (command words) session).2.files) ∧
      ∀ arguments, parse words = .ok arguments → (arguments.dryRun || arguments.stdout) = false →
        (outcome (command words) session).1 = .ok exitDone →
        parse (Switch.stdout.spelling :: words) = .ok { arguments with stdout := true } ∧
        ∃ config documents start contents, Collects arguments session config documents start ∧
          documents.map (fun path => (outcome (command words) session).2.files.read (Document.outputPath path)) =
            contents.map (fun text => .ok text.toUTF8) ∧
          ∀ words', parse words' = .ok { arguments with stdout := true } →
            (outcome (command words') session).1 = .ok exitDone ∧
              (outcome (command words') session).2.stdout = session.stdout ++ String.join contents := by
  refine ⟨fun hpreview => ?_, fun arguments hparse hwet hdone => ⟨by rw [parse_stdout, hparse]; rfl, ?_⟩⟩
  · cases hparse : parse words with
    | error stop => exact sameTree_of_stop words session stop hparse
    | ok arguments =>
        have hcourse := course_command words arguments session hparse
        exact sameTree_of_course arguments session (hlogs arguments hparse) (hpreview arguments hparse) _ hcourse
  have hcourse := course_command words arguments session hparse
  generalize outcome (command words) session = done at hcourse hdone ⊢
  cases hcourse with
  | unread problem read _ => exact absurd (Except.ok.inj hdone) (by decide)
  | broken failure read _ _ => simp only [reduceCtorEq] at hdone
  | unlogged config read after failure _ _ => simp only [reduceCtorEq] at hdone
  | idle config start hcollects => exact absurd (Except.ok.inj hdone) (by decide)
  | unsigned config documents start fault hcollects _ _ => simp only [reduceCtorEq] at hdone
  | stopped config documents start banner failure hcollects _ _ _ => simp only [reduceCtorEq] at hdone
  | finished config documents start banner report hcollects hsome hbanner hbatch =>
      have hfailures := (exitDone_iff report).mp (Except.ok.inj hdone)
      have hdocuments := generated_of_succeeded start.files banner _ documents report hbatch hfailures
      refine ⟨config, documents, start, report.generated.map Rendered.text, hcollects, ?_, fun words' hparse' => ?_⟩
      · rw [printReport_eq, List.map_map]
        rw [batch, hwet] at hbatch ⊢
        exact map_outputPath_of_synthesized banner documents report.generated _ _ hdocuments
          (fun rendered hmem => read_of_report start banner documents report hbatch rendered hmem)
      · have hcourse' := course_command words' _ session hparse'
        exact preview_of_finished arguments session start config documents banner report hcollects hsome hbanner hbatch
          hfailures _ hcourse'

/-- A session with two documents. -/
def menuSession : Session where
  files := {
    entries := [(["home"], .directory), (["home", "ui"], .directory),
      (["home", "ui", "Menu.uxml"], .file .empty 0o644), (["home", "ui", "Shop.uxml"], .file .empty 0o644)]
    workdir := ["home"]
    umask := 0o022 }
  clock := ""

/-- The paths of the two documents. -/
def menuWords : List String :=
  ["ui/Menu.uxml", "ui/Shop.uxml"]

/-- Both documents are written, and the preview prints what is then in their files. -/
theorem preview_menuSession :
    parse menuWords = .ok { paths := menuWords } ∧
      (∀ arguments, parse menuWords = .ok arguments → LogsNowhere arguments menuSession) ∧
      (outcome (command menuWords) menuSession).1 = .ok exitDone ∧
      (outcome (command (Switch.stdout.spelling :: menuWords)) menuSession).1 = .ok exitDone ∧
      ∃ documents contents : List String,
        documents.map (fun path => (outcome (command menuWords) menuSession).2.files.read (Document.outputPath path)) =
          contents.map (fun text => .ok text.toUTF8) ∧
        (outcome (command (Switch.stdout.spelling :: menuWords)) menuSession).2.stdout = String.join contents := by
  have hparse : parse menuWords = .ok { paths := menuWords } := rfl
  have hlogs : ∀ arguments, parse menuWords = .ok arguments → LogsNowhere arguments menuSession := by
    intro arguments harguments
    rw [hparse, Except.ok.injEq] at harguments
    rw [← harguments]
    refine ⟨fun place => by simp only [menuSession, ne_eq, reduceCtorEq, not_false_eq_true], ?_⟩
    intro config read hread hasks
    have hoff : (outcome (chooseConfig { paths := menuWords }) menuSession).1.toOption.map (·.logging.fileLogging) =
        some false := by decide +kernel
    rw [hread, Except.toOption, Option.map_some, Option.some.injEq, hasks.1] at hoff
    exact Bool.noConfusion hoff
  have hdone : (outcome (command menuWords) menuSession).1 = .ok exitDone := by decide +kernel
  rcases (preview_agrees menuWords menuSession hlogs).2 { paths := menuWords } hparse rfl hdone with
    ⟨hstdout, _, documents, _, contents, _, hread, hpreview⟩
  rcases hpreview _ hstdout with ⟨hcode, htext⟩
  exact ⟨hparse, hlogs, hdone, hcode, documents, contents, hread, htext.trans String.empty_append⟩

end CommandLine

end CodeBehind
