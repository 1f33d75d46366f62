import CodeBehind.Proofs.CommandLine.Course
import CodeBehind.Proofs.Generation.Saved

/-!
# What is left of a batch

What a command prints about its documents, and where their files are.

A report is printed in one piece, after everything that was said while the documents were generated: the texts on
standard output if they are asked for, and one line for each failure on standard error.

A file in a report is where its path leads, also in the session, whose tree has a log in it that the batch knows nothing
about. Even where the log lies in the place of the file that is so. The file was put in place, and from then on the log is
lost; what is said afterwards is not added to the file.

## Theorems

* `printReport_eq`: What is printed about a report.
* `read_of_report`: A file in a report is read back by its path.
* `unwritten_of_batch`: A batch of dry runs writes nothing but the log.
* `generated_of_succeeded`, `generateAll_of_synthesized`: A batch in which nothing fails.
-/

namespace CodeBehind

namespace CommandLine

/-! ## Printing -/

/-- The line about a failure. -/
def failureLine (failure : String × String) : String :=
  failure.1 ++ ": " ++ failure.2 ++ "\n"

theorem foldl_print (generated : List Rendered) (session : Session) :
    generated.foldl (fun session rendered => session.print rendered.text) session =
      { session with stdout := session.stdout ++ String.join (generated.map Rendered.text) } := by
  induction generated generalizing session with
  | nil => rw [List.foldl_nil, List.map_nil, String.join_nil, String.append_empty]
  | cons rendered rest ih =>
      rw [List.foldl_cons, ih, List.map_cons, String.join_cons, ← String.append_assoc]
      rfl

theorem foldl_complain (failures : List (String × String)) (session : Session) :
    failures.foldl (fun session (path, reason) => session.complain (path ++ ": " ++ reason ++ "\n")) session =
      { session with stderr := session.stderr ++ String.join (failures.map failureLine) } := by
  induction failures generalizing session with
  | nil => rw [List.foldl_nil, List.map_nil, String.join_nil, String.append_empty]
  | cons failure rest ih =>
      rw [List.foldl_cons, ih, List.map_cons, String.join_cons, ← String.append_assoc]
      rfl

/-- A report prints the texts if they are asked for, and a line for each failure, and does nothing else. -/
theorem printReport_eq (arguments : Arguments) (report : Report) (session : Session) :
    printReport arguments report session = { session with
      stdout := session.stdout ++ if arguments.stdout then String.join (report.generated.map Rendered.text) else ""
      stderr := session.stderr ++ String.join (report.failures.map failureLine) } := by
  rw [printReport, foldl_complain]
  cases arguments.stdout with
  | false => simp only [Bool.false_eq_true, if_false, String.append_empty]
  | true => simp only [if_true, foldl_print]

/-! ## Files in place -/

/-- A file in a report is read back by its path, once the session has everything that the batch has told. -/
theorem read_of_report (start : Session) (banner : Banner) (documents : List String) (report : Report)
    (hreport : (Generation.generateAll start.files banner false documents).result = .ok report) (rendered : Rendered)
    (hmem : rendered ∈ report.generated) :
    (start.performAll (Generation.generateAll start.files banner false documents).events).files.read rendered.path =
      .ok rendered.text.toUTF8 := by
  rcases Generation.written_of_report start.files banner documents [] start.files
    (fun _ hmem => absurd hmem List.not_mem_nil) (Generation.written_refl start.files) report hreport with
      ⟨hwritten, htold⟩
  rcases htold rendered hmem with ⟨_, place, mode, hwrites, hsaved⟩
  have hmirrors := Session.mirrors_performAll (Generation.generateAll start.files banner false documents).events start
    start.files (Session.mirrors_refl start)
  rw [← Generation.files_eq_saved] at hmirrors
  have halike := Generation.alike_generateAll start.files banner false documents
  generalize Generation.generateAll start.files banner false documents = run at hwritten hsaved hmirrors halike ⊢
  -- The log is not open at the place of the file any more, so the session has what the batch has there.
  have hopen : (start.performAll run.events).log.file ≠ .open place := fun hopen =>
    (Session.file_performAll run.events start place hopen).2 _ hsaved
  have hentry := (hmirrors.keeps place hopen).trans
    (hwritten.holds rendered (List.mem_append_left _ hmem) place mode hwrites)
  have hleads := ((FileSystem.writesTo_iff start.files rendered.path place mode).mp hwrites).1
  have hleads := FileSystem.leadsTo_congr start.files run.files
    (FileSystem.sameDirectories_of_alike start.files run.files halike) _ place hleads
  have hleads := FileSystem.leadsTo_congr run.files _ (Session.sameDirectories_of_mirrors _ run.files hmirrors) _ place
    hleads
  have hfollow := FileSystem.follow_of_leadsTo _ rendered.path place hleads
  rw [FileSystem.destination, hentry] at hfollow
  simp only [FileSystem.read, FileSystem.stat, hfollow]

/-- A batch of dry runs writes nothing but the log. -/
theorem unwritten_of_batch (arguments : Arguments) (start : Session) (banner : Banner) (documents : List String)
    (hdry : (arguments.dryRun || arguments.stdout) = true) :
    Unwritten start (start.performAll (batch arguments start banner documents).events) := by
  have hmirrors := Session.mirrors_performAll (batch arguments start banner documents).events start start.files
    (Session.mirrors_refl start)
  rw [batch, hdry, Generation.saved_dry, List.foldl_nil] at hmirrors
  rw [batch, hdry]
  exact ⟨hmirrors.workdir, hmirrors.umask, fun place _ hafter => hmirrors.keeps place hafter⟩

/-! ## Batches in which nothing fails -/

/-- A batch without failures has generated what is synthesized for its documents. -/
theorem generated_of_succeeded (files : FileSystem) (banner : Banner) (dryRun : Bool) (paths : List String)
    (report : Report) (hreport : (Generation.generateAll files banner dryRun paths).result = .ok report)
    (hfailures : report.failures = []) :
    paths.map (fun path => synthesize path banner) = report.generated.map Except.ok := by
  induction paths generalizing files report with
  | nil =>
      rw [← Except.ok.inj hreport]
      rfl
  | cons path rest ih =>
      have hcourse := Generation.course_generate files banner path dryRun
      rcases Generation.report_cons_cases files banner dryRun path rest report hreport with
        ⟨_, add, others, hadds, hothers, hreport, _, _⟩
      rw [hreport] at hfailures ⊢
      cases hadds with
      | file rendered hresult =>
          have hrendered := (Generation.files_of_course _ _ _ _ _ hcourse rendered hresult).1
          rw [List.map_cons, List.map_cons, hrendered, ih _ others hothers hfailures]
      | failure _ _ _ _ => exact absurd hfailures (List.cons_ne_nil _ _)

/-- A batch of dry runs generates what is synthesized for its documents. -/
theorem generateAll_of_synthesized (files : FileSystem) (banner : Banner) (paths : List String)
    (generated : List Rendered) (h : paths.map (fun path => synthesize path banner) = generated.map Except.ok) :
    (Generation.generateAll files banner true paths).result = .ok { generated } := by
  induction paths generalizing generated with
  | nil =>
      rw [List.map_nil, eq_comm, List.map_eq_nil_iff] at h
      rw [h]
      rfl
  | cons path rest ih =>
      cases generated with
      | nil => simp only [List.map_cons, List.map_nil, reduceCtorEq] at h
      | cons rendered others =>
          rw [List.map_cons, List.map_cons, List.cons.injEq] at h
          rcases Generation.generate_dry files banner path with ⟨hresult, hfiles⟩
          simp only [Generation.generateAll_cons, hresult, hfiles, h.1, ih others h.2, Except.map]

/-- What is found at the output paths of synthesized documents is what is found at the paths of their files. -/
theorem map_outputPath_of_synthesized {β : Type} (banner : Banner) (paths : List String) (generated : List Rendered)
    (atPath : String → β) (ofFile : Rendered → β)
    (h : paths.map (fun path => synthesize path banner) = generated.map Except.ok)
    (hfile : ∀ rendered ∈ generated, atPath rendered.path = ofFile rendered) :
    paths.map (fun path => atPath (Document.outputPath path)) = generated.map ofFile := by
  induction paths generalizing generated with
  | nil =>
      rw [List.map_nil, eq_comm, List.map_eq_nil_iff] at h
      rw [h]
      rfl
  | cons path rest ih =>
      cases generated with
      | nil => simp only [List.map_cons, List.map_nil, reduceCtorEq] at h
      | cons rendered others =>
          rw [List.map_cons, List.map_cons, List.cons.injEq] at h
          have hothers := ih others h.2 (fun other hmem => hfile other (List.mem_cons_of_mem rendered hmem))
          rw [List.map_cons, List.map_cons, ← path_eq_of_synthesize path banner rendered h.1,
            hfile rendered (List.mem_cons_self ..), hothers]

/-- A command that has generated its documents ends well if and only if none of them has failed. -/
theorem exitDone_iff (report : Report) :
    (if report.succeeded then exitDone else exitFailed) = exitDone ↔ report.failures = [] := by
  unfold Report.succeeded
  cases report.failures with
  | nil => simp only [List.isEmpty_nil, if_true]
  | cons failure rest =>
      rw [List.isEmpty_cons, if_neg Bool.false_ne_true]
      exact iff_of_false (by decide) (List.cons_ne_nil failure rest)

end CommandLine

end CodeBehind
