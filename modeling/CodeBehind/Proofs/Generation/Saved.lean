import CodeBehind.Proofs.Generation.Isolation

/-!
# What a batch puts in place

What the events of a batch tell about the tree, and where the files in its report are.

A batch tells of every file that it puts in place, and the tree that it leaves is the one it found with these files in
it; so whoever follows the events has the tree of the batch (`files_eq_saved`). This holds of every batch, also of one
that ends early.

Where a batch has a report, the files in the report are in place (`written_of_report`). This is what is known of the tree
between two documents, carried along the batch, and it needs nothing of the paths: a document that could end the batch
has not done so if there is a report.

## Main definitions

* `Adds`: What the first document of a batch adds to the report.

## Theorems

* `generateAll_cons_cases`, `report_cons_cases`: A batch is its first run and then the others.
* `files_eq_saved`: The tree after a batch is what its events tell.
* `saved_dry`, `files_generateAll_dry`: A batch of dry runs.
* `wrote_of_course`: A run that returns has told where its file is.
* `written_of_report`: The files in a report are in place, and their places have been told.
-/

namespace CodeBehind

namespace Generation

/-- How the report of a batch comes about from that of the documents behind the first: the first adds its file or its
    failure. -/
inductive Adds (path : String) (result : Except Failure Rendered) : (Report → Report) → Prop
  | file (rendered : Rendered) (hresult : result = .ok rendered) :
      Adds path result fun report => { report with generated := rendered :: report.generated }
  | failure (failure : Failure) (problem : Problem) (hresult : result = .error failure)
      (hproblem : failure.problem? = some problem) :
      Adds path result fun report => { report with failures := (path, problem.message) :: report.failures }

section

variable (files : FileSystem) (banner : Banner) (dryRun : Bool) (path : String) (rest : List String)

/-- A batch is its first run and then the others, with at most a record in between, or the first run ends it. -/
theorem generateAll_cons_cases :
    (∃ logged add, logged.filterMap Event.saved? = [] ∧ Adds path (generate files banner path dryRun).result add ∧
      generateAll files banner dryRun (path :: rest) =
        ⟨(generate files banner path dryRun).events ++
            (logged ++ (generateAll (generate files banner path dryRun).files banner dryRun rest).events),
          (generateAll (generate files banner path dryRun).files banner dryRun rest).files,
          (generateAll (generate files banner path dryRun).files banner dryRun rest).result.map add⟩) ∨
    ∃ failure, generateAll files banner dryRun (path :: rest) =
      ⟨(generate files banner path dryRun).events, (generate files banner path dryRun).files, .error failure⟩ := by
  simp only [generateAll_cons]
  cases hresult : (generate files banner path dryRun).result with
  | ok rendered => exact Or.inl ⟨[], _, rfl, .file rendered rfl, rfl⟩
  | error failure =>
      cases hproblem : failure.problem? with
      | none => exact Or.inr ⟨failure, by simp only [hproblem]⟩
      | some problem =>
          refine Or.inl ⟨[.logged (Log.generationFailed component path problem.message)], _, rfl,
            .failure failure problem rfl hproblem, ?_⟩
          simp only [hproblem, List.singleton_append]

/-- A batch with a report is its first run and then a batch with a report, to which the first document adds. -/
theorem report_cons_cases (report : Report) (h : (generateAll files banner dryRun (path :: rest)).result = .ok report) :
    ∃ logged add others, Adds path (generate files banner path dryRun).result add ∧
      (generateAll (generate files banner path dryRun).files banner dryRun rest).result = .ok others ∧
      report = add others ∧
      (generateAll files banner dryRun (path :: rest)).events = (generate files banner path dryRun).events ++
        (logged ++ (generateAll (generate files banner path dryRun).files banner dryRun rest).events) ∧
      (generateAll files banner dryRun (path :: rest)).files =
        (generateAll (generate files banner path dryRun).files banner dryRun rest).files := by
  rcases generateAll_cons_cases files banner dryRun path rest with ⟨logged, add, _, hadds, hall⟩ | ⟨failure, hall⟩
  · rw [hall] at h ⊢
    cases hothers : (generateAll (generate files banner path dryRun).files banner dryRun rest).result with
    | ok others =>
        rw [hothers] at h
        exact ⟨logged, add, others, hadds, rfl, (Except.ok.inj h).symm, rfl, rfl⟩
    | error failure =>
        rw [hothers] at h
        simp only [Except.map, reduceCtorEq] at h
  · rw [hall] at h
    simp only [reduceCtorEq] at h

end

/-- A run leaves the tree that its events tell. -/
theorem files_eq_saved_generate (files : FileSystem) (banner : Banner) (path : String) (dryRun : Bool) :
    (generate files banner path dryRun).files =
      ((generate files banner path dryRun).events.filterMap Event.saved?).foldl
        (fun files saved => files.set saved.1 saved.2) files := by
  rcases saved_of_course files banner path dryRun _ (course_generate files banner path dryRun) with
    ⟨place, entry, hsaved, hfiles, _⟩ | ⟨hsaved, hfiles, _⟩
  · rw [hsaved, hfiles]
    rfl
  · rw [hsaved, hfiles]
    rfl

/-- A batch leaves the tree that its events tell, whether it comes to its end or not. -/
theorem files_eq_saved (files : FileSystem) (banner : Banner) (dryRun : Bool) (paths : List String) :
    (generateAll files banner dryRun paths).files =
      ((generateAll files banner dryRun paths).events.filterMap Event.saved?).foldl
        (fun files saved => files.set saved.1 saved.2) files := by
  induction paths generalizing files with
  | nil => rfl
  | cons path rest ih =>
      have hfirst := files_eq_saved_generate files banner path dryRun
      rcases generateAll_cons_cases files banner dryRun path rest with ⟨logged, _, hlogged, _, hall⟩ | ⟨_, hall⟩
      · -- The files of the others are put in place behind that of the first run.
        rw [hall]
        simp only
        rw [ih, List.filterMap_append, List.filterMap_append, hlogged, List.nil_append, List.foldl_append, ← hfirst]
      · rw [hall]
        simp only
        exact hfirst

/-- A batch of dry runs puts nothing in place. -/
theorem saved_dry (files : FileSystem) (banner : Banner) (paths : List String) :
    (generateAll files banner true paths).events.filterMap Event.saved? = [] := by
  induction paths generalizing files with
  | nil => rfl
  | cons path rest ih =>
      have hfirst : (generate files banner path true).events.filterMap Event.saved? = [] := by
        rcases saved_of_course files banner path true _ (course_generate files banner path true) with
          ⟨_, _, _, _, hdry, _⟩ | ⟨hsaved, _⟩
        · exact Bool.noConfusion hdry
        · exact hsaved
      rcases generateAll_cons_cases files banner true path rest with ⟨logged, _, hlogged, _, hall⟩ | ⟨_, hall⟩
      · rw [hall]
        simp only
        rw [List.filterMap_append, List.filterMap_append, hlogged, hfirst, ih]
        rfl
      · rw [hall]
        simp only
        exact hfirst

/-- A batch of dry runs leaves the tree alone. -/
theorem files_generateAll_dry (files : FileSystem) (banner : Banner) (paths : List String) :
    (generateAll files banner true paths).files = files := by
  rw [files_eq_saved, saved_dry, List.foldl_nil]

/-- A run that returns has written its file where the path leads, and has told so. -/
theorem wrote_of_course (files : FileSystem) (banner : Banner) (path : String) (run : Run Rendered)
    (h : Course files banner path false run) (rendered : Rendered) (hresult : run.result = .ok rendered) :
    synthesize path banner = .ok rendered ∧ ∃ place mode, files.WritesTo rendered.path place mode ∧
      run.files = files.set place (.file rendered.text.toUTF8 mode) ∧
      Event.saved place (.file rendered.text.toUTF8 mode) ∈ run.events := by
  cases h with
  | refused _ hname => simp only [reduceCtorEq] at hresult
  | unwritten found error hfound hsave => simp only [reduceCtorEq] at hresult
  | written found place mode hfound hwrites _ =>
      rw [Except.ok.injEq] at hresult
      rw [← hresult]
      exact ⟨hfound, place, mode, hwrites, rfl, List.mem_append_right _ (List.mem_cons_self ..)⟩

/-- In a tree in which some files were written, a batch with a report writes the files in its report too, and tells
    where they are. -/
theorem written_of_report (start : FileSystem) (banner : Banner) (paths : List String) (generated : List Rendered)
    (files : FileSystem) (houtputs : ∀ rendered ∈ generated, ∃ path, synthesize path banner = .ok rendered)
    (h : Written start generated files) (report : Report)
    (hreport : (generateAll files banner false paths).result = .ok report) :
    Written start (report.generated ++ generated) (generateAll files banner false paths).files ∧
      ∀ rendered ∈ report.generated, (∃ path, synthesize path banner = .ok rendered) ∧
        ∃ place mode, start.WritesTo rendered.path place mode ∧
          Event.saved place (.file rendered.text.toUTF8 mode) ∈ (generateAll files banner false paths).events := by
  induction paths generalizing generated files report with
  | nil =>
      rw [← Except.ok.inj hreport]
      exact ⟨h, fun rendered hmem => absurd hmem List.not_mem_nil⟩
  | cons path rest ih =>
      have hcourse := course_generate files banner path false
      have halike := FileSystem.alike_symm start files (alike_of_written start files banner generated houtputs h)
      rcases report_cons_cases files banner false path rest report hreport with
        ⟨logged, add, others, hadds, hothers, hreport, hevents, hfiles⟩
      have hlater : ∀ event, event ∈ (generateAll (generate files banner path false).files banner false rest).events →
          event ∈ (generateAll files banner false (path :: rest)).events := by
        intro event hmem
        rw [hevents]
        exact List.mem_append_right _ (List.mem_append_right _ hmem)
      rw [hfiles, hreport]
      cases hadds with
      | file rendered hresult =>
          -- The path leads to the same place as at the start, and it is the place at the start that is recorded.
          rcases wrote_of_course files banner path _ hcourse rendered hresult with
            ⟨hrendered, place, mode, hwrites, hwrote, hsaved⟩
          have hwrites := FileSystem.writesTo_congr files start halike _ _ _ hwrites
          have hnext := written_cons start files banner generated houtputs h path rendered place mode hrendered hwrites
          have houtputs' : ∀ other ∈ rendered :: generated, ∃ path, synthesize path banner = .ok other :=
            List.forall_mem_cons.mpr ⟨⟨path, hrendered⟩, houtputs⟩
          rw [← hwrote] at hnext
          rcases ih (rendered :: generated) _ houtputs' hnext others hothers with ⟨hwritten, htold⟩
          refine ⟨written_cons_append start _ rendered _ _ hwritten, fun other hmem => ?_⟩
          rcases List.mem_cons.mp hmem with heq | hmem
          · rw [heq, hevents]
            exact ⟨⟨path, hrendered⟩, place, mode, hwrites, List.mem_append_left _ hsaved⟩
          · rcases htold other hmem with ⟨hsource, place', mode', hother, htold⟩
            exact ⟨hsource, place', mode', hother, hlater _ htold⟩
      | failure failure problem hresult _ =>
          -- A failure leaves the tree as it is, so what is known of it is known in front of the others.
          rw [← (failure_of_course files banner path false _ hcourse failure hresult).1] at h
          rcases ih generated _ houtputs h others hothers with ⟨hwritten, htold⟩
          refine ⟨hwritten, fun other hmem => ?_⟩
          rcases htold other hmem with ⟨hsource, place', mode', hother, htold⟩
          exact ⟨hsource, place', mode', hother, hlater _ htold⟩

end Generation

end CodeBehind
