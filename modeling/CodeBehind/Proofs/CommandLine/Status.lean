import CodeBehind.Proofs.CommandLine.Report
import CodeBehind.Proofs.Generation.Turns

/-!
# What the code and the reports say

The code of a command and what it prints describe what it has done.

A command that ends with a code has either not come to its documents, and then it has written nothing but its log, or it
has gone through all of them. In the second case everything that can be seen of the command is a matter of the turns of
its documents. Each turn has one of two ends. It returns a text, which is printed or is in its file, or it fails, which
is reported on a line of its own. The code says whether there is such a line, and a turn fails if and only if its
document would fail alone.

## Main definitions

* `Describes`: The code and the prints of a command describe the turns of its documents.

## Main results

* `command_status`: The code of a command and its prints describe what it has done.

## Theorems

* `describes_of_report`: A report that is printed describes the turns.
-/

namespace CodeBehind

namespace CommandLine

open CodeBehind.Action

/-- What becomes of a document when it is its turn. -/
def becomes (arguments : Arguments) (start : Session) (banner : Banner) (documents : List String) (i : Nat)
    (path : String) : Except Failure Rendered :=
  Generation.turn start.files banner (arguments.dryRun || arguments.stdout) documents i path

/-- The code and the prints of a command describe the turns of its documents. -/
structure Describes (arguments : Arguments) (start : Session) (banner : Banner) (documents : List String) (code : Nat)
    (after : Session) : Prop where
  /-- The command has failed or is done. -/
  known : code = exitDone ∨ code = exitFailed
  /-- It has failed if some document has no name, or could not be written when it was to be. -/
  failed : code = exitFailed ↔ ∃ i path, documents[i]? = some path ∧
    (Document.hasName path = false ∨ ((arguments.dryRun || arguments.stdout) = false ∧
      Generation.WriteFails start.files banner documents i path))
  /-- Every turn returns a text, which is in its file unless nothing was to be written, or it fails with a problem. -/
  turns : ∀ i path, documents[i]? = some path →
    (∃ rendered, becomes arguments start banner documents i path = .ok rendered ∧
      synthesize path banner = .ok rendered ∧ ((arguments.dryRun || arguments.stdout) = false →
        after.files.read (Document.outputPath path) = .ok rendered.text.toUTF8)) ∨
    ∃ problem, becomes arguments start banner documents i path = .error (.problem problem)
  /-- Whether a turn returns does not depend on the other documents. -/
  alone : ∀ i path, documents[i]? = some path →
    ((∃ rendered, becomes arguments start banner documents i path = .ok rendered) ↔
      Generation.succeeds start.files banner (arguments.dryRun || arguments.stdout) path = true)
  /-- The texts are printed in their order, if they are asked for. -/
  stdout : after.stdout = start.stdout ++ if arguments.stdout then
      String.join (documents.zipIdx.filterMap fun entry =>
        (becomes arguments start banner documents entry.2 entry.1).toOption.map Rendered.text)
    else ""
  /-- The failures are reported in their order, behind the lines of the log. -/
  stderr : after.stderr = start.stderr ++ start.lines (batch arguments start banner documents).events ++
    String.join (documents.zipIdx.filterMap fun entry =>
      (Generation.failureOf entry.1 (becomes arguments start banner documents entry.2 entry.1)).map failureLine)
  /-- Where nothing was to be written, nothing was. -/
  spared : (arguments.dryRun || arguments.stdout) = true → Unwritten start after

/-- A report that is printed describes the turns. -/
theorem describes_of_report (arguments : Arguments) (start : Session) (banner : Banner) (documents : List String)
    (report : Report) (hreport : (batch arguments start banner documents).result = .ok report) :
    Describes arguments start banner documents (if report.succeeded then exitDone else exitFailed)
      (printReport arguments report (start.performAll (batch arguments start banner documents).events)) := by
  rcases Generation.turns_of_report start.files banner _ documents report hreport with
    ⟨hgenerated, hfailures, hturns⟩
  have hnone := Generation.failures_eq_nil_iff start.files banner _ documents report hreport
  have hcode : (if report.succeeded then exitDone else exitFailed) = exitDone ∨
      (if report.succeeded then exitDone else exitFailed) = exitFailed := by
    split
    · exact Or.inl rfl
    · exact Or.inr rfl
  rw [printReport_eq]
  refine ⟨hcode, ⟨fun hfailed => ?_, ?_⟩, fun i path hpath => ?_, fun i path _ => ?_, ?_, ?_, fun hdry => ?_⟩
  · -- If no turn had failed, there would be no failure, and the command would be done.
    by_contra hall
    have hnil := hnone.mpr (fun i path hpath failure hturn => hall ⟨i, path, hpath,
      (Generation.exists_error_turn_iff start.files banner _ documents i path).mp ⟨failure, hturn⟩⟩)
    rw [(exitDone_iff report).mpr hnil] at hfailed
    exact absurd hfailed (by decide)
  · rintro ⟨i, path, hpath, hwhy⟩
    rcases (Generation.exists_error_turn_iff start.files banner _ documents i path).mpr hwhy with ⟨failure, hturn⟩
    -- A turn has failed, so the command is not done, and there are only two codes.
    rcases hcode with hdone | hfailed
    · exact absurd hturn (hnone.mp ((exitDone_iff report).mp hdone) i path hpath failure)
    · exact hfailed
  · rcases hturns i path hpath with ⟨rendered, hturn, hrendered, hmem⟩ | ⟨problem, hturn⟩
    · refine Or.inl ⟨rendered, hturn, hrendered, fun hwet => ?_⟩
      rw [batch, hwet] at hreport ⊢
      rw [← path_eq_of_synthesize path banner rendered hrendered]
      exact read_of_report start banner documents report hreport rendered hmem
    · exact Or.inr ⟨problem, hturn⟩
  · exact Generation.exists_ok_turn_iff start.files banner _ documents i path
  · have hstdout := (Session.performAll_keeps (batch arguments start banner documents).events start).1
    simp only [hstdout, hgenerated, List.map_filterMap]
    rfl
  · have hstderr := Session.stderr_performAll (batch arguments start banner documents).events start
    simp only [hstderr, hfailures, List.map_filterMap]
    rfl
  · have hunwritten := unwritten_of_batch arguments start banner documents hdry
    exact ⟨hunwritten.workdir, hunwritten.umask, hunwritten.keeps⟩

/-- The code of a command and its prints describe what it has done. A command that is understood and ends with a code
    ends with that of a wrong use if and only if reading the configuration is a problem of the configuration or there is
    no document, and then it has written nothing but its log. Otherwise there are documents, the command prints nothing
    but lines of the log before it generates them, and from then on the code and the prints describe the turns of the
    documents. -/
theorem command_status (words : List String) (arguments : Arguments) (session after : Session) (code : Nat)
    (hparse : parse words = .ok arguments) (hdone : outcome (command words) session = (.ok code, after)) :
    (code = exitUsage ↔
        (∃ message file read, outcome (chooseConfig arguments) session =
          (.error (.problem (.configuration message file)), read)) ∨
        ∃ config start, Collects arguments session config [] start) ∧
      (code = exitUsage → Unwritten session after) ∧
      (code ≠ exitUsage → ∃ config documents start banner, Collects arguments session config documents start ∧
        documents ≠ [] ∧ config.banner = .ok banner ∧ start.stdout = session.stdout ∧
        (∃ lines, start.stderr = session.stderr ++ lines) ∧
        Describes arguments start banner documents code after) := by
  have hcourse := course_command words arguments session hparse
  rw [hdone] at hcourse
  -- The other four courses end without a code.
  cases hcourse with
  | unread problem read hread =>
      have hsaid := said_chooseConfig arguments session read _ hread
      have hunwritten := unwritten_of_said session read hsaid
      refine ⟨iff_of_true rfl (Or.inl ?_), fun _ => ⟨hunwritten.workdir, hunwritten.umask, hunwritten.keeps⟩,
        fun hne => absurd rfl hne⟩
      cases loadFault_of_chooseConfig arguments session read _ hread with
      | unusable message file => exact ⟨message, file, read, hread⟩
  | idle config start hcollects =>
      have hunwritten := unwritten_of_collects arguments session start config [] hcollects
      exact ⟨iff_of_true rfl (Or.inr ⟨config, start, hcollects⟩),
        fun _ => ⟨hunwritten.workdir, hunwritten.umask, hunwritten.keeps⟩, fun hne => absurd rfl hne⟩
  | finished config documents start banner report hcollects hsome hbanner hbatch =>
      have hdescribes := describes_of_report arguments start banner documents report hbatch
      have hne : (if report.succeeded then exitDone else exitFailed) ≠ exitUsage := by
        rcases hdescribes.known with hcode | hcode
        · rw [hcode]
          decide
        · rw [hcode]
          decide
      rcases prints_of_collects arguments session start config documents hcollects with ⟨hstdout, hstderr⟩
      refine ⟨iff_of_false hne ?_, fun husage => absurd husage hne, fun _ =>
        ⟨config, documents, start, banner, hcollects, hsome, hbanner, hstdout, hstderr, hdescribes⟩⟩
      rintro (⟨message, file, read, hread⟩ | ⟨config', start', hnone⟩)
      · exact ne_error_of_collects arguments session start config documents hcollects _ read hread
      · have hsame := collects_unique arguments session start start' config config' documents [] hcollects hnone
        exact hsome hsame.2.1.symm

/-- A session with a document that can be written, one without a name, and one whose place is taken by a directory. -/
def mixedSession : Session where
  files := {
    entries := [(["home"], .directory), (["home", ".uxml"], .file .empty 0o644),
      (["home", "Menu.uxml"], .file .empty 0o644), (["home", "Shop.uxml"], .file .empty 0o644),
      (["home", "Shop.g.cs"], .directory)]
    workdir := ["home"]
    umask := 0o022 }
  clock := ""

/-- The paths of the three documents. -/
def mixedWords : List String :=
  [".uxml", "Shop.uxml", "Menu.uxml"]

/-- The command fails, and describes what became of all three documents. -/
theorem command_mixedSession :
    parse mixedWords = .ok { paths := mixedWords } ∧
      ∃ after, outcome (command mixedWords) mixedSession = (.ok exitFailed, after) ∧
        ∃ config documents start banner, Collects { paths := mixedWords } mixedSession config documents start ∧
          Describes { paths := mixedWords } start banner documents exitFailed after := by
  have hparse : parse mixedWords = .ok { paths := mixedWords } := rfl
  have hcode : (outcome (command mixedWords) mixedSession).1 = .ok exitFailed := by decide +kernel
  rcases hdone : outcome (command mixedWords) mixedSession with ⟨result, after⟩
  rw [hdone] at hcode
  rw [show result = .ok exitFailed from hcode] at hdone ⊢
  rcases (command_status mixedWords { paths := mixedWords } mixedSession after exitFailed hparse hdone).2.2
    (by decide) with ⟨config, documents, start, banner, hcollects, _, _, _, _, hdescribes⟩
  exact ⟨hparse, after, rfl, config, documents, start, banner, hcollects, hdescribes⟩

end CommandLine

end CodeBehind
