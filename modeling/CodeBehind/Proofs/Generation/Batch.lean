import CodeBehind.Proofs.FileSystem.Alike
import CodeBehind.Proofs.Generation.Course

/-!
# Batches

Generating many documents comes to the same as generating each of them in the tree as it was at the start.

A batch goes through its documents one after the other, and each of them finds the tree as those before have
left it. `Written` is what is known of the tree in between: the files generated so far are in place, with their
texts and with the modes that a file written there at the start would have had, and everything else is as it
was. This has two consequences, and together they carry the induction along the batch.

The tree in between is saved to like the one at the start, because generated files are never called like scratch
files and keep the modes. So whether the next document succeeds does not depend on those before it
(`outcome_congr`). And a file that is written where one was written before gets the same text, because the name
of a generated file determines the text in it. So writing it keeps what is known (`written_cons`).

Hence neither the outcome of a document nor the tree at the end depends on the order of the batch.

## Main definitions

* `Written`: A tree in which some generated files were written, and nothing else.
* `outcome`: What becomes of a document on its own.

## Main results

* `generateAll_written`: What a batch leaves behind, in whatever order it is done.

## Theorems

* `generateAll_cons`: What a batch does with its first document.
* `generate_cases`: What generating one document does.
* `alike_of_written`, `written_cons`: What is known of the tree in between.
* `alike_generate`: A run leaves a tree that is saved to like the one it found.
* `generateAll_run`: A batch takes every document as if it were alone.
-/

namespace CodeBehind

namespace Generation

/-- A tree in which some generated files were written where their paths lead at the start, with the modes that
    files written there at the start would have had, and in which everything else is as it was. -/
structure Written (start : FileSystem) (generated : List Rendered) (files : FileSystem) : Prop where
  workdir : files.workdir = start.workdir
  umask : files.umask = start.umask
  holds : ∀ rendered ∈ generated, ∀ place mode, start.WritesTo rendered.path place mode →
    files.get? place = some (.file rendered.text.toUTF8 mode)
  keeps : ∀ place, (∀ rendered ∈ generated, ∀ mode, ¬ start.WritesTo rendered.path place mode) →
    files.get? place = start.get? place

/-- A batch is a run for its first document and then a batch of the others, unless the run ends it. -/
theorem generateAll_cons (files : FileSystem) (banner : Banner) (dryRun : Bool) (path : String) (rest : List String) :
    generateAll files banner dryRun (path :: rest) =
      let first := generate files banner path dryRun
      let others := generateAll first.files banner dryRun rest
      match first.result with
      | .ok rendered =>
        ⟨first.events ++ others.events, others.files,
          others.result.map fun report => { report with generated := rendered :: report.generated }⟩
      | .error failure =>
        match failure.problem? with
        | none => ⟨first.events, first.files, .error failure⟩
        | some problem =>
          ⟨first.events ++ .logged (Log.generationFailed component path problem.message) :: others.events,
            others.files, others.result.map fun report =>
              { report with failures := (path, problem.message) :: report.failures }⟩ := by
  -- Not by the equations of the function: to derive them unfolds what one run does.
  cases hresult : (generate files banner path dryRun).result with
  | ok rendered =>
      conv_lhs =>
        unfold generateAll
        simp only [hresult]
      simp only [hresult]
  | error failure =>
      conv_lhs =>
        unfold generateAll
        simp only [hresult]
      cases hproblem : failure.problem? <;> simp only [hresult, hproblem]

/-- What becomes of a document on its own: the generated file, if there is one. -/
def outcome (files : FileSystem) (banner : Banner) (path : String) : Option Rendered :=
  (generate files banner path false).result.toOption

/-- A generated file lies at a place with its name. -/
theorem getLast?_of_writesTo (files : FileSystem) (banner : Banner) (path : String) (rendered : Rendered)
    (place : Place) (mode : Nat) (h : synthesize path banner = .ok rendered)
    (hwrites : files.WritesTo rendered.path place mode) : place.getLast? = some (Document.outputName path) := by
  have hleads := ((FileSystem.writesTo_iff files rendered.path place mode).mp hwrites).1
  rw [path_eq_of_synthesize path banner rendered h] at hleads
  rw [FileSystem.getLast?_of_leadsTo files _ place hleads, Document.pathSteps_outputPath, List.getLast?_concat]

/-- Generated files at the same place have the same text. -/
theorem text_eq_of_writesTo (files : FileSystem) (banner : Banner) (path path' : String)
    (rendered rendered' : Rendered) (place : Place) (mode mode' : Nat) (h : synthesize path banner = .ok rendered)
    (h' : synthesize path' banner = .ok rendered') (hwrites : files.WritesTo rendered.path place mode)
    (hwrites' : files.WritesTo rendered'.path place mode') : rendered.text = rendered'.text := by
  have hname := getLast?_of_writesTo files banner path rendered place mode h hwrites
  rw [getLast?_of_writesTo files banner path' rendered' place mode' h' hwrites', Option.some.injEq] at hname
  exact text_eq_of_outputName_eq path path' banner rendered rendered' h h' hname.symm

/-- A generated file is not called like a scratch file. -/
theorem outputName_ne_scratchName (path : String) (n : Nat) :
    Document.outputName path ≠ FileSystem.scratchName n := by
  intro heq
  -- One ends like a source file and the other does not.
  have hscratch : (FileSystem.scratchName n).toList.getLast? = some 'p' :=
    Text.getLast?_append _ _ _ (by decide)
  rw [← heq, Document.getLast?_outputName] at hscratch
  exact absurd hscratch (by decide)

theorem written_refl (start : FileSystem) : Written start [] start :=
  ⟨rfl, rfl, fun _ hmem => absurd hmem List.not_mem_nil, fun _ _ => rfl⟩

/-- The order in which files were written does not show. -/
theorem written_congr (start files : FileSystem) (generated generated' : List Rendered)
    (hsame : ∀ rendered, rendered ∈ generated ↔ rendered ∈ generated') (h : Written start generated files) :
    Written start generated' files :=
  ⟨h.workdir, h.umask, fun rendered hmem => h.holds rendered ((hsame rendered).mpr hmem),
    fun place hfree => h.keeps place (fun rendered hmem => hfree rendered ((hsame rendered).mp hmem))⟩

/-- A file that was written first may as well be named first. -/
theorem written_cons_append (start files : FileSystem) (rendered : Rendered) (later generated : List Rendered)
    (h : Written start (later ++ rendered :: generated) files) : Written start (rendered :: later ++ generated) files :=
  written_congr start files _ _ (fun _ => List.perm_middle.mem_iff) h

/-- A place at which a file was written, or at which everything is as it was. -/
theorem written_cases (start files : FileSystem) (generated : List Rendered) (h : Written start generated files)
    (place : Place) :
    (∃ rendered ∈ generated, ∃ mode, start.WritesTo rendered.path place mode ∧
      files.get? place = some (.file rendered.text.toUTF8 mode)) ∨ files.get? place = start.get? place := by
  by_cases hwritten : ∃ rendered ∈ generated, ∃ mode, start.WritesTo rendered.path place mode
  · rcases hwritten with ⟨rendered, hmem, mode, hwrites⟩
    exact Or.inl ⟨rendered, hmem, mode, hwrites, h.holds rendered hmem place mode hwrites⟩
  · refine Or.inr (h.keeps place (fun rendered hmem mode hwrites => hwritten ⟨rendered, hmem, mode, hwrites⟩))

/-- Two trees in which the same files were written are the same tree. -/
theorem sameTree_of_written (start files files' : FileSystem) (generated : List Rendered)
    (h : Written start generated files) (h' : Written start generated files') : files.SameTree files' := by
  refine ⟨by rw [h.workdir, h'.workdir], by rw [h.umask, h'.umask], fun place => ?_⟩
  -- Whichever tree was written to at a place, the other has the same file there.
  rcases written_cases start files generated h place with ⟨rendered, hmem, mode, hwrites, hentry⟩ | hkept
  · rw [hentry, h'.holds rendered hmem place mode hwrites]
  · rcases written_cases start files' generated h' place with ⟨rendered, hmem, mode, hwrites, hentry⟩ | hkept'
    · rw [hentry, h.holds rendered hmem place mode hwrites]
    · rw [hkept, hkept']

section

variable (start files : FileSystem) (banner : Banner) (generated : List Rendered)
  (houtputs : ∀ rendered ∈ generated, ∃ path, synthesize path banner = .ok rendered)
include houtputs

/-- The tree in between is saved to like the tree at the start. -/
theorem alike_of_written (h : Written start generated files) : start.Alike files := by
  refine ⟨h.workdir, fun place => ?_, fun place n hlast => ?_⟩
  · rcases written_cases start files generated h place with ⟨rendered, _, mode, hwrites, hentry⟩ | hkept
    · rw [((FileSystem.writesTo_iff start _ place mode).mp hwrites).2, FileSystem.fileMode?, hentry]
    · rw [FileSystem.fileMode?, FileSystem.fileMode?, hkept, FileSystem.createdMode, FileSystem.createdMode, h.umask]
  · refine h.keeps place (fun rendered hmem mode hwrites => ?_)
    rcases houtputs rendered hmem with ⟨path, hpath⟩
    rw [getLast?_of_writesTo start banner path rendered place mode hpath hwrites, Option.some.injEq] at hlast
    exact outputName_ne_scratchName path n hlast

/-- One more generated file may be written, also where there is one already. -/
theorem written_cons (h : Written start generated files) (path : String) (rendered : Rendered) (place : Place)
    (mode : Nat) (hpath : synthesize path banner = .ok rendered) (hwrites : start.WritesTo rendered.path place mode) :
    Written start (rendered :: generated) (files.set place (.file rendered.text.toUTF8 mode)) := by
  have hne : place ≠ [] :=
    FileSystem.leadsTo_ne_nil start _ place ((FileSystem.writesTo_iff start _ place mode).mp hwrites).1
  refine ⟨h.workdir, h.umask, fun other hmem place' mode' hother => ?_, fun place' hfree => ?_⟩
  · by_cases hplace : place' = place
    · -- A file written here before has the same name, so it has the same text.
      rw [hplace] at hother ⊢
      have hmode := ((FileSystem.writesTo_iff start _ place mode).mp hwrites).2
      rw [((FileSystem.writesTo_iff start _ place mode').mp hother).2, Option.some.injEq] at hmode
      have htext : rendered.text = other.text := by
        rcases List.mem_cons.mp hmem with heq | hmem
        · rw [heq]
        · rcases houtputs other hmem with ⟨path', hpath'⟩
          exact text_eq_of_writesTo start banner path path' rendered other place mode mode' hpath hpath' hwrites hother
      rw [FileSystem.get?_set_self files place _ hne, htext, hmode]
    · rw [FileSystem.get?_set_ne files place place' _ hplace]
      rcases List.mem_cons.mp hmem with heq | hmem
      · rw [heq] at hother
        exact absurd (FileSystem.writesTo_unique start rendered.path place' place mode' mode hother hwrites).1 hplace
      · exact h.holds other hmem place' mode' hother
  · have hplace : place' ≠ place := by
      intro heq
      rw [heq] at hfree
      exact hfree rendered (List.mem_cons_self ..) mode hwrites
    rw [FileSystem.get?_set_ne files place place' _ hplace]
    exact h.keeps place' (fun other hmem => hfree other (List.mem_cons_of_mem rendered hmem))

end

/-- The tree that a run leaves is saved to like the one it found, whatever becomes of its document. -/
theorem alike_generate (files : FileSystem) (banner : Banner) (path : String) (dryRun : Bool) :
    files.Alike (generate files banner path dryRun).files := by
  have hcourse := course_generate files banner path dryRun
  generalize generate files banner path dryRun = run at hcourse ⊢
  cases hcourse with
  | refused _ _ => exact FileSystem.alike_refl files
  | synthesized _ _ => exact FileSystem.alike_refl files
  | unwritten _ _ _ _ => exact FileSystem.alike_refl files
  | written rendered place mode hrendered hwrites _ =>
      have hwritten := written_cons files files banner [] (fun _ hmem => absurd hmem List.not_mem_nil)
        (written_refl files) path rendered place mode hrendered hwrites
      refine alike_of_written files _ banner [rendered] (fun other hmem => ?_) hwritten
      exact ⟨path, List.mem_singleton.mp hmem ▸ hrendered⟩

section

variable (files : FileSystem) (banner : Banner) (path : String) (hpath : '\x00' ∉ path.toList)
  (hworkdir : '\x00' ∉ files.workdirPath.toList)
include hpath hworkdir

/-- Generating one document synthesizes its code-behind and writes it where its path leads, or it reports a
    problem and leaves the tree alone. Which of the two happens is decided by the name of the document and by
    the tree. -/
theorem generate_cases :
    (∃ rendered place mode, synthesize path banner = .ok rendered ∧ files.CanSave rendered.path ∧
      files.WritesTo rendered.path place mode ∧ (generate files banner path false).result = .ok rendered ∧
      (generate files banner path false).files = files.set place (.file rendered.text.toUTF8 mode)) ∨
    ∃ problem, (∀ rendered, synthesize path banner = .ok rendered → ¬ files.CanSave rendered.path) ∧
      (generate files banner path false).result = .error (.problem problem) ∧
      (generate files banner path false).files = files := by
  have hcourse := course_generate files banner path false
  generalize generate files banner path false = run at hcourse ⊢
  cases hcourse with
  | refused _ hname =>
      refine Or.inr ⟨.invalidRequest path "document file name is empty", ?_, rfl, rfl⟩
      intro rendered hrendered _
      exact hname (synthesize_eq_ok path banner rendered hrendered).1
  | written rendered place mode hrendered hwrites hsave =>
      have hcan := (FileSystem.save_eq_ok_iff files _ _).mp ⟨_, _, hsave⟩
      exact Or.inl ⟨rendered, place, mode, hrendered, hcan, hwrites, rfl, rfl⟩
  | unwritten rendered error hrendered hsave =>
      have hproblem := writeFailure_eq_problem files files banner path rendered error hpath hworkdir hrendered hsave
      refine Or.inr ⟨.persistence rendered.path error.message rendered.text, ?_, congrArg Except.error hproblem, rfl⟩
      intro other hother hcan
      rw [hrendered, Except.ok.injEq] at hother
      rcases (FileSystem.save_eq_ok_iff files other.path other.text).mpr hcan with ⟨tree, result, hsaved⟩
      rw [← hother, hsave] at hsaved
      simp only [Prod.mk.injEq, reduceCtorEq, and_false] at hsaved

/-- A document that is generated has its code-behind written. -/
theorem outcome_eq_some (rendered : Rendered) (h : outcome files banner path = some rendered) :
    synthesize path banner = .ok rendered ∧ files.CanSave rendered.path := by
  rw [outcome] at h
  rcases generate_cases files banner path hpath hworkdir with
    ⟨found, _, _, hfound, hcan, _, hresult, _⟩ | ⟨problem, _, hresult, _⟩
  · rw [hresult, Except.toOption, Option.some.injEq] at h
    rw [← h]
    exact ⟨hfound, hcan⟩
  · rw [hresult, Except.toOption] at h
    simp only [reduceCtorEq] at h

/-- A document whose code-behind can be saved is generated. -/
theorem outcome_of_canSave (rendered : Rendered) (h : synthesize path banner = .ok rendered)
    (hcan : files.CanSave rendered.path) : outcome files banner path = some rendered := by
  rcases generate_cases files banner path hpath hworkdir with
    ⟨found, _, _, hfound, _, _, hresult, _⟩ | ⟨problem, hcannot, _, _⟩
  · rw [h, Except.ok.injEq] at hfound
    rw [outcome, hresult, ← hfound, Except.toOption]
  · exact absurd hcan (hcannot rendered h)

end

/-- What becomes of a document is the same in trees that are saved to alike. -/
theorem outcome_congr (files other : FileSystem) (banner : Banner) (path : String) (h : files.Alike other)
    (hpath : '\x00' ∉ path.toList) (hworkdir : '\x00' ∉ files.workdirPath.toList) :
    outcome other banner path = outcome files banner path := by
  have hworkdir' : '\x00' ∉ other.workdirPath.toList := by
    rwa [FileSystem.workdirPath, h.workdir]
  have hone : ∀ a b : FileSystem, a.Alike b → '\x00' ∉ a.workdirPath.toList → '\x00' ∉ b.workdirPath.toList →
      ∀ rendered, outcome a banner path = some rendered → outcome b banner path = some rendered := by
    intro a b hab ha hb rendered hsome
    rcases outcome_eq_some a banner path hpath ha rendered hsome with ⟨hrendered, hcan⟩
    exact outcome_of_canSave b banner path hpath hb rendered hrendered
      ((FileSystem.canSave_congr a b hab rendered.path).mpr hcan)
  refine Option.ext (fun rendered => ⟨?_, ?_⟩)
  · exact hone other files (FileSystem.alike_symm files other h) hworkdir' hworkdir rendered
  · exact hone files other h hworkdir hworkdir' rendered

/-- A batch takes every document as if it were alone in the tree at the start, also when some files have been
    generated before. -/
theorem generateAll_run (start : FileSystem) (banner : Banner) (hworkdir : '\x00' ∉ start.workdirPath.toList)
    (paths : List String) (hpaths : ∀ path ∈ paths, '\x00' ∉ path.toList) (generated : List Rendered)
    (files : FileSystem) (houtputs : ∀ rendered ∈ generated, ∃ path, synthesize path banner = .ok rendered)
    (h : Written start generated files) :
    ∃ report, (generateAll files banner false paths).result = .ok report ∧
      report.generated = paths.filterMap (outcome start banner) ∧
      report.failures.map Prod.fst = paths.filter (fun path => (outcome start banner path).isNone) ∧
      Written start (report.generated ++ generated) (generateAll files banner false paths).files := by
  induction paths generalizing generated files with
  | nil => exact ⟨{}, rfl, rfl, rfl, h⟩
  | cons path rest ih =>
      have hpath := hpaths path (List.mem_cons_self ..)
      have hrest := fun other hmem => hpaths other (List.mem_cons_of_mem path hmem)
      have halike := alike_of_written start files banner generated houtputs h
      have hworkdir' : '\x00' ∉ files.workdirPath.toList := by
        rwa [FileSystem.workdirPath, h.workdir]
      have hsame := outcome_congr start files banner path halike hpath hworkdir
      rcases generate_cases files banner path hpath hworkdir' with
        ⟨rendered, place, mode, hrendered, _, hwrites, hresult, hfiles⟩ | ⟨problem, _, hresult, hfiles⟩
      · -- One more file is written, and the others are generated in the tree with it.
        have hwrites' := FileSystem.writesTo_congr files start (FileSystem.alike_symm start files halike) _ _ _ hwrites
        have hnext := written_cons start files banner generated houtputs h path rendered place mode hrendered hwrites'
        have houtputs' : ∀ other ∈ rendered :: generated, ∃ path, synthesize path banner = .ok other :=
          List.forall_mem_cons.mpr ⟨⟨path, hrendered⟩, houtputs⟩
        have hsome : outcome start banner path = some rendered := by
          rw [← hsame, outcome, hresult, Except.toOption]
        rw [← hfiles] at hnext
        rcases ih hrest (rendered :: generated) _ houtputs' hnext with ⟨report, hreport, hgenerated, hfailures, hall⟩
        refine ⟨{ report with generated := rendered :: report.generated }, ?_, ?_, ?_, ?_⟩
        · simp only [generateAll_cons, hresult, hreport, Except.map]
        · rw [List.filterMap_cons, hsome, hgenerated]
        · rw [List.filter_cons_of_neg (by rw [hsome]; exact Bool.false_ne_true), hfailures]
        · have hfinal : (generateAll files banner false (path :: rest)).files =
              (generateAll (generate files banner path false).files banner false rest).files := by
            simp only [generateAll_cons, hresult]
          rw [hfinal]
          exact written_cons_append start _ rendered _ _ hall
      · -- Nothing is written, and the problem is reported.
        have hnone : outcome start banner path = none := by
          rw [← hsame, outcome, hresult, Except.toOption]
        rcases ih hrest generated files houtputs h with ⟨report, hreport, hgenerated, hfailures, hall⟩
        refine ⟨{ report with failures := (path, problem.message) :: report.failures }, ?_, ?_, ?_, ?_⟩
        · simp only [generateAll_cons, hresult, Failure.problem?, hfiles, hreport, Except.map]
        · rw [List.filterMap_cons, hnone, hgenerated]
        · rw [List.filter_cons_of_pos (by rw [hnone]; rfl), List.map_cons, hfailures]
        · simp only [generateAll_cons, hresult, Failure.problem?, hfiles]
          exact hall

/-- The path of a generated file leads to its text. -/
theorem stat_of_written (start files : FileSystem) (banner : Banner) (generated : List Rendered)
    (houtputs : ∀ rendered ∈ generated, ∃ path, synthesize path banner = .ok rendered)
    (h : Written start generated files) (rendered : Rendered) (hmem : rendered ∈ generated) (place : Place)
    (mode : Nat) (hwrites : start.WritesTo rendered.path place mode) :
    files.stat rendered.path = .ok (place, .file rendered.text.toUTF8 mode) := by
  have halike := alike_of_written start files banner generated houtputs h
  have hleads := FileSystem.leadsTo_congr start files (FileSystem.sameDirectories_of_alike start files halike)
    rendered.path place ((FileSystem.writesTo_iff start _ place mode).mp hwrites).1
  have hfollow := FileSystem.follow_of_leadsTo files rendered.path place hleads
  rw [FileSystem.destination, h.holds rendered hmem place mode hwrites] at hfollow
  rw [FileSystem.stat, hfollow]

/-- What a batch leaves behind. It always comes to its end. The tree is the one at the start, except that the
    path of each generated file leads to its text, with the mode that the file had at the start or that a new
    file gets; in particular no scratch file is left. Files that are generated at the same place have the same
    text. And in any other order the batch generates the same files, fails for the same documents and leaves
    the same tree. -/
theorem generateAll_written (start : FileSystem) (banner : Banner) (paths : List String)
    (hpaths : ∀ path ∈ paths, '\x00' ∉ path.toList) (hworkdir : ∀ name ∈ start.workdir, '\x00' ∉ name.toList) :
    ∃ report, (generateAll start banner false paths).result = .ok report ∧
      Written start report.generated (generateAll start banner false paths).files ∧
      (∀ rendered ∈ report.generated, ∃ path ∈ paths, synthesize path banner = .ok rendered) ∧
      (∀ path rendered, synthesize path banner = .ok rendered → rendered ∈ report.generated →
        ∃ place mode, start.WritesTo (Document.outputPath path) place mode ∧
          (generateAll start banner false paths).files.stat (Document.outputPath path) =
            .ok (place, .file rendered.text.toUTF8 mode)) ∧
      (∀ place n, place.getLast? = some (FileSystem.scratchName n) →
        (generateAll start banner false paths).files.get? place = start.get? place) ∧
      (∀ rendered ∈ report.generated, ∀ rendered' ∈ report.generated, ∀ place mode mode',
        start.WritesTo rendered.path place mode → start.WritesTo rendered'.path place mode' →
          rendered.text = rendered'.text) ∧
      ∀ paths', paths'.Perm paths → ∃ report', (generateAll start banner false paths').result = .ok report' ∧
        (generateAll start banner false paths).files.SameTree (generateAll start banner false paths').files ∧
        (report'.generated.map Rendered.path).Perm (report.generated.map Rendered.path) ∧
        (report'.failures.map Prod.fst).Perm (report.failures.map Prod.fst) := by
  have hworkdirPath := FileSystem.nullByte_notMem_workdirPath start hworkdir
  -- Both orders are runs from the start, so what becomes of a document is the same in both.
  have hrun := fun batch hbatch => generateAll_run start banner hworkdirPath batch hbatch [] start
    (fun _ hmem => absurd hmem List.not_mem_nil) (written_refl start)
  rcases hrun paths hpaths with ⟨report, hresult, hgenerated, hfailures, hwritten⟩
  rw [List.append_nil] at hwritten
  have hsource : ∀ rendered ∈ report.generated, ∃ path ∈ paths, synthesize path banner = .ok rendered ∧
      start.CanSave rendered.path := by
    intro rendered hmem
    rw [hgenerated] at hmem
    rcases List.mem_filterMap.mp hmem with ⟨path, hpath, hsome⟩
    exact ⟨path, hpath, outcome_eq_some start banner path (hpaths path hpath) hworkdirPath rendered hsome⟩
  have houtputs : ∀ rendered ∈ report.generated, ∃ path, synthesize path banner = .ok rendered := by
    intro rendered hmem
    rcases hsource rendered hmem with ⟨path, _, hpath, _⟩
    exact ⟨path, hpath⟩
  refine ⟨report, hresult, hwritten, fun rendered hmem => ?_, fun path rendered hpath hmem => ?_, ?_, ?_, ?_⟩
  · rcases hsource rendered hmem with ⟨path, hpath, hrendered, _⟩
    exact ⟨path, hpath, hrendered⟩
  · rcases hsource rendered hmem with ⟨_, _, _, _, place, mode, hwrites⟩
    rw [← path_eq_of_synthesize path banner rendered hpath]
    exact ⟨place, mode, hwrites, stat_of_written start _ banner _ houtputs hwritten rendered hmem place mode hwrites⟩
  · exact (alike_of_written start _ banner _ houtputs hwritten).scratch
  · intro rendered hmem rendered' hmem' place mode mode' hwrites hwrites'
    rcases houtputs rendered hmem with ⟨path, hpath⟩
    rcases houtputs rendered' hmem' with ⟨path', hpath'⟩
    exact text_eq_of_writesTo start banner path path' rendered rendered' place mode mode' hpath hpath' hwrites hwrites'
  · intro paths' hperm
    rcases hrun paths' (fun path hmem => hpaths path (hperm.mem_iff.mp hmem)) with
      ⟨report', hresult', hgenerated', hfailures', hwritten'⟩
    rw [List.append_nil] at hwritten'
    -- The same files were written, and a tree in which they were is determined by them.
    have hsame : report'.generated.Perm report.generated := by
      rw [hgenerated, hgenerated']
      exact hperm.filterMap _
    refine ⟨report', hresult', ?_, hsame.map _, ?_⟩
    · exact sameTree_of_written start _ _ _ hwritten
        (written_congr start _ _ _ (fun rendered => hsame.mem_iff) hwritten')
    · rw [hfailures, hfailures']
      exact hperm.filter _

/-- A tree in which one generated file is there already and another cannot be written. -/
def sharedTree : FileSystem where
  entries := [
    (["home"], .directory), (["home", "ui"], .directory), (["home", "ui", "Foo.g.cs"], .file "old".toUTF8 0o600),
    (["home", "ui", "Bar.g.cs"], .directory)]
  workdir := ["home"]
  umask := 0o022

/-- Documents that share a generated file, and some that fail. -/
def sharedPaths : List String :=
  ["ui/Foo.uxml", "ui/Bar.uxml", "ui//Foo.UXML", "none/New.uxml", "ui/New.uxml", "ui/.uxml"]

theorem generateAll_sharedTree :
    (∀ path ∈ sharedPaths, '\x00' ∉ path.toList) ∧ (∀ name ∈ sharedTree.workdir, '\x00' ∉ name.toList) ∧
      ∃ report, (generateAll sharedTree .standard false sharedPaths).result = .ok report ∧
        report.generated.map Rendered.path = ["ui/Foo.g.cs", "ui/Foo.g.cs", "ui/New.g.cs"] ∧
        report.failures.map Prod.fst = ["ui/Bar.uxml", "none/New.uxml", "ui/.uxml"] ∧
        Written sharedTree report.generated (generateAll sharedTree .standard false sharedPaths).files ∧
        (generateAll sharedTree .standard false sharedPaths).files.SameTree
          (generateAll sharedTree .standard false sharedPaths.reverse).files := by
  have hpaths : ∀ path ∈ sharedPaths, '\x00' ∉ path.toList := by decide
  have hworkdir : ∀ name ∈ sharedTree.workdir, '\x00' ∉ name.toList := by decide
  rcases generateAll_written sharedTree .standard sharedPaths hpaths hworkdir with
    ⟨report, hresult, hwritten, _, _, _, _, hperm⟩
  rcases hperm sharedPaths.reverse (List.reverse_perm sharedPaths) with ⟨_, _, hsame, _, _⟩
  have hnames : (generateAll sharedTree .standard false sharedPaths).result.toOption.map
      (fun report => (report.generated.map Rendered.path, report.failures.map Prod.fst)) =
        some (["ui/Foo.g.cs", "ui/Foo.g.cs", "ui/New.g.cs"], ["ui/Bar.uxml", "none/New.uxml", "ui/.uxml"]) := by
    decide +kernel
  rw [hresult, Except.toOption, Option.map_some, Option.some.injEq, Prod.mk.injEq] at hnames
  exact ⟨hpaths, hworkdir, report, hresult, hnames.1, hnames.2, hwritten, hsame⟩

end Generation

end CodeBehind
