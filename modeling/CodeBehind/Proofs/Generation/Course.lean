import CodeBehind.Proofs.Events
import CodeBehind.Proofs.Generation.Write
import CodeBehind.Proofs.Synthesis

/-!
# The course of a run

Generating one document is synthesis followed by writing, and what is told on the way is told whatever happens.

A run can end in four ways. Its document is refused, its code-behind is only synthesized, it is written, or writing
it fails. `Course` has one constructor for each of them, and each constructor gives the whole run: the events, the
tree and the result. Everything else is read off the four, so the function that generates is opened only once.

Two of the ways are failures, and they leave a run between the first thing that is shown to the operator and the
last one. That the progress is taken back all the same, and that nothing is called done that was not written, is
what `Told` is about. What is said there of the lines of the log holds of every line that begins with certain words
and not only of those that are expected.

The tree after a run is told twice, once by the run and once by its events, and a session only goes by the events.
Both are the same.

## Main definitions

* `Course`: The four ways in which a run can end.
* `Told`: What the events of a run tell.
* `warnings`, `Ending`: The parts of the events in which the ways differ.

## Main results

* `generate_refines`: A run is synthesis followed by writing, and what it tells.

## Theorems

* `course_generate`: Every run takes one of the four courses.
* `told_of_ending`, `told_of_course`: What is told on each of them.
* `result_of_course`, `files_of_course`, `failure_of_course`, `saved_of_course`: What comes out of each of them.
* `writeFailure_eq_problem`: Writing a code-behind fails with a problem.
-/

namespace CodeBehind

namespace Generation

/-! ## The four courses -/

/-- How a run begins. -/
def opening (path : String) : List Event :=
  [.logged (Log.generationStarted component path), progress]

/-- The four ways in which a run for a document can end, each with the whole run: the document is refused, its
    code-behind is only synthesized, it is written, or writing it fails. -/
inductive Course (files : FileSystem) (banner : Banner) (path : String) : Bool → Run Rendered → Prop
  | refused (dryRun : Bool) (hname : ¬ Document.hasName path = true) :
      Course files banner path dryRun
        ⟨opening path ++ [.progressCleared], files,
          .error (.problem (.invalidRequest path "document file name is empty"))⟩
  | synthesized (rendered : Rendered) (hrendered : synthesize path banner = .ok rendered) :
      Course files banner path true
        ⟨opening path ++ nameWarning ⟨path⟩ ++ [.progressCleared, closing true rendered.path], files, .ok rendered⟩
  | written (rendered : Rendered) (place : Place) (mode : Nat) (hrendered : synthesize path banner = .ok rendered)
      (hwrites : files.WritesTo rendered.path place mode)
      (hsave : files.save rendered.path rendered.text =
        (files.set place (.file rendered.text.toUTF8 mode), .ok (place, .file rendered.text.toUTF8 mode))) :
      Course files banner path false
        ⟨opening path ++ nameWarning ⟨path⟩ ++
            [.saved place (.file rendered.text.toUTF8 mode), .progressCleared, closing false rendered.path],
          files.set place (.file rendered.text.toUTF8 mode), .ok rendered⟩
  | unwritten (rendered : Rendered) (error : FileError) (hrendered : synthesize path banner = .ok rendered)
      (hsave : files.save rendered.path rendered.text = (files, .error error)) :
      Course files banner path false
        ⟨opening path ++ nameWarning ⟨path⟩ ++ [.progressCleared], files, .error (writeFailure rendered error)⟩

/-- What is done for a document whose code-behind is synthesized. -/
theorem attempt_of_synthesize (files : FileSystem) (banner : Banner) (path : String) (dryRun : Bool)
    (rendered : Rendered) (h : synthesize path banner = .ok rendered) :
    attempt files banner path dryRun =
      if dryRun then ⟨nameWarning ⟨path⟩, files, .ok rendered⟩
      else
        ⟨nameWarning ⟨path⟩ ++ (write files rendered).events, (write files rendered).files,
          (write files rendered).result.map fun _ => rendered⟩ := by
  rcases synthesize_eq_ok path banner rendered h with ⟨hname, hrequest⟩
  simp only [attempt, ofPath_of_hasName path hname, hrequest]

/-- A document that is accepted is not written, or it is, or that fails. -/
theorem course_of_synthesize (files : FileSystem) (banner : Banner) (path : String) (dryRun : Bool)
    (rendered : Rendered) (h : synthesize path banner = .ok rendered) :
    Course files banner path dryRun (generate files banner path dryRun) := by
  have hattempt := fun dryRun => attempt_of_synthesize files banner path dryRun rendered h
  cases dryRun with
  | true =>
      have hrun : generate files banner path true = ⟨opening path ++ nameWarning ⟨path⟩ ++
          [.progressCleared, closing true rendered.path], files, .ok rendered⟩ := by
        simp only [generate, hattempt, if_true, opening]
      rw [hrun]
      exact .synthesized rendered h
  | false =>
      -- Saving ends with the file in place, or everything it has done is undone.
      rcases files.save_cases rendered.path rendered.text {} with ⟨place, mode, hwrites, hsave⟩ | ⟨error, hsave⟩
      · have hwrite := write_of_save_eq_ok files _ rendered {} place _ hsave
        have hrun : generate files banner path false = ⟨opening path ++ nameWarning ⟨path⟩ ++
            [.saved place (.file rendered.text.toUTF8 mode), .progressCleared, closing false rendered.path],
            files.set place (.file rendered.text.toUTF8 mode), .ok rendered⟩ := by
          simp only [generate, hattempt, Bool.false_eq_true, if_false, hwrite, Except.map, opening, List.append_assoc,
            List.singleton_append]
        rw [hrun]
        exact .written rendered place mode h hwrites hsave
      · have hwrite := write_of_save_eq_error files _ rendered {} error hsave
        have hrun : generate files banner path false = ⟨opening path ++ nameWarning ⟨path⟩ ++
            [.progressCleared], files, .error (writeFailure rendered error)⟩ := by
          simp only [generate, hattempt, Bool.false_eq_true, if_false, hwrite, Except.map, opening, List.append_nil]
        rw [hrun]
        exact .unwritten rendered error h hsave

/-- Every run takes one of the four courses. -/
theorem course_generate (files : FileSystem) (banner : Banner) (path : String) (dryRun : Bool) :
    Course files banner path dryRun (generate files banner path dryRun) := by
  by_cases hname : Document.hasName path = true
  · rcases exists_synthesize_of_ofPath path banner _ (ofPath_of_hasName path hname) with ⟨text, hrendered⟩
    exact course_of_synthesize files banner path dryRun _ hrendered
  · have hrun : generate files banner path dryRun = ⟨opening path ++ [.progressCleared], files,
        .error (.problem (.invalidRequest path "document file name is empty"))⟩ := by
      simp only [generate, attempt, ofPath_of_not_hasName path hname, opening, List.append_nil]
    rw [hrun]
    exact .refused dryRun hname

/-! ## What is told -/

/-- What the events of a run for a document tell. First of all and once, which document it is. Then the operator is
    shown one thing, and it is taken back. There is one warning if the document is accepted and its type name is no
    identifier, and none otherwise. And for every file that is put in place, and for nothing else, it is told that
    the file is done. -/
structure Told (path : String) (events : List Event) : Prop where
  first : events.head? = some (.logged (Log.generationStarted component path))
  started : (events.filterMap Event.record?).filter (Log.Record.opens Log.startWords) =
    [Log.generationStarted component path]
  shown : events.filter Event.isProgress = [progress, .progressCleared]
  warned : (events.filterMap Event.record?).filter (fun record => record.level = .warning) =
    if (Request.ofPath path).isOk && !Identifier.isIdentifier (Document.typeName path) then
      [Log.invalidIdentifier component (Document.typeName path) path]
    else []
  done : (events.filterMap Event.record?).filter (Log.Record.opens Log.doneWords) =
    (events.filterMap Event.saved?).map fun _ => Log.generationDone component (Document.outputPath path)

/-- The warning that is due for a document. -/
def warnings (path : String) : List Event :=
  if (Request.ofPath path).isOk && !Identifier.isIdentifier (Document.typeName path) then
    [.logged (Log.invalidIdentifier component (Document.typeName path) path)]
  else []

theorem opens_closing_dry (words output : String)
    (hwords : words.toList.isPrefixOf "Dry run, not writing ".toList = false)
    (hother : "Dry run, not writing ".toList.isPrefixOf words.toList = false) :
    (Log.record moduleLogger .info ("Dry run, not writing " ++ output)).opens words = false :=
  Log.opens_eq_false words _ _ (Log.opens_append _ _ _ _) hwords hother

theorem record_warnings (path : String) :
    (warnings path).filterMap Event.record? =
      if (Request.ofPath path).isOk && !Identifier.isIdentifier (Document.typeName path) then
        [Log.invalidIdentifier component (Document.typeName path) path]
      else [] := by
  unfold warnings
  split <;> rfl

theorem saved_nameWarning (request : Request) : (nameWarning request).filterMap Event.saved? = [] := by
  unfold nameWarning
  split <;> rfl

/-- What stands before the first file of a run puts nothing in place. -/
theorem saved_opening_append (path : String) (middle rest : List Event) (h : middle.filterMap Event.saved? = []) :
    (opening path ++ middle ++ rest).filterMap Event.saved? = rest.filterMap Event.saved? := by
  have hopening : (opening path).filterMap Event.saved? = [] := rfl
  rw [List.filterMap_append, List.filterMap_append, hopening, h, List.nil_append, List.nil_append]

theorem saved_warnings (path : String) : (warnings path).filterMap Event.saved? = [] := by
  unfold warnings
  split <;> rfl

theorem isProgress_warnings (path : String) : (warnings path).filter Event.isProgress = [] := by
  unfold warnings
  split <;> rfl

/-- Whoever does not listen to warnings hears none. -/
theorem filter_record_warnings (path : String) (keep : Log.Record → Bool)
    (h : keep (Log.invalidIdentifier component (Document.typeName path) path) = false) :
    ((warnings path).filterMap Event.record?).filter keep = [] := by
  rw [record_warnings]
  split
  · rw [List.filter_cons_of_neg (Bool.eq_false_iff.mp h), List.filter_nil]
  · rfl

/-- How the events of a run can end: no file is put in place and the run has failed, no file is put in place because
    it is a dry run, or a file is put in place. -/
inductive Ending (path : String) : List Event → Prop
  | failed : Ending path [.progressCleared]
  | dry : Ending path [.progressCleared, closing true (Document.outputPath path)]
  | done (place : Place) (entry : Entry) :
      Ending path [.saved place entry, .progressCleared, closing false (Document.outputPath path)]

section

variable (path : String) (ending : List Event) (h : Ending path ending)
include h

theorem isProgress_of_ending : ending.filter Event.isProgress = [.progressCleared] := by
  cases h with
  | failed => rfl
  | dry => rfl
  | done place entry => rfl

theorem started_of_ending :
    (ending.filterMap Event.record?).filter (Log.Record.opens Log.startWords) = [] := by
  cases h with
  | failed => rfl
  | dry =>
      have hdry := opens_closing_dry Log.startWords (Document.outputPath path) (by decide) (by decide)
      exact List.filter_cons_of_neg (Bool.eq_false_iff.mp hdry)
  | done place entry =>
      exact List.filter_cons_of_neg (Bool.eq_false_iff.mp (Log.startWords_generationDone ..))

theorem warned_of_ending :
    (ending.filterMap Event.record?).filter (fun record => record.level = .warning) = [] := by
  cases h with
  | failed => rfl
  | dry => rfl
  | done place entry => rfl

/-- Only a file that was put in place is said to be done. -/
theorem done_of_ending :
    (ending.filterMap Event.record?).filter (Log.Record.opens Log.doneWords) =
      (ending.filterMap Event.saved?).map fun _ => Log.generationDone component (Document.outputPath path) := by
  cases h with
  | failed => rfl
  | dry =>
      have hdry := opens_closing_dry Log.doneWords (Document.outputPath path) (by decide) (by decide)
      exact List.filter_cons_of_neg (Bool.eq_false_iff.mp hdry)
  | done place entry =>
      have hrecords : [Event.saved place entry, .progressCleared,
          closing false (Document.outputPath path)].filterMap Event.record? =
            [Log.generationDone component (Document.outputPath path)] := rfl
      rw [hrecords, List.filter_cons_of_pos (Log.doneWords_generationDone ..)]
      rfl

/-- A run tells what it should if the warning is given when it is due. -/
theorem told_of_ending : Told path (opening path ++ warnings path ++ ending) := by
  have hrecords : (opening path ++ warnings path ++ ending).filterMap Event.record? =
      Log.generationStarted component path :: ((warnings path).filterMap Event.record? ++
        ending.filterMap Event.record?) := by
    have hopening : (opening path).filterMap Event.record? = [Log.generationStarted component path] := rfl
    rw [List.filterMap_append, List.filterMap_append, hopening, List.append_assoc, List.singleton_append]
  constructor
  · rfl
  · rw [hrecords, List.filter_cons_of_pos (Log.startWords_generationStarted ..), List.filter_append,
      filter_record_warnings path _ (Log.startWords_invalidIdentifier ..), started_of_ending path ending h,
      List.append_nil]
  · rw [List.filter_append, List.filter_append, isProgress_warnings, isProgress_of_ending path ending h,
      List.append_nil]
    rfl
  -- The record of the start is no warning, and the ending has none.
  · rw [hrecords, record_warnings, List.filter_cons_of_neg Bool.false_ne_true, List.filter_append,
      warned_of_ending path ending h, List.append_nil]
    split <;> rfl
  · have hsaved := saved_opening_append path _ ending (saved_warnings path)
    rw [hrecords, hsaved, List.filter_cons_of_neg (Bool.eq_false_iff.mp (Log.doneWords_generationStarted ..)),
      List.filter_append, filter_record_warnings path _ (Log.doneWords_invalidIdentifier ..), List.nil_append,
      done_of_ending path ending h]

end

theorem warnings_of_not_hasName (path : String) (h : ¬ Document.hasName path = true) : warnings path = [] := by
  rw [warnings, ofPath_of_not_hasName path h]
  rfl

theorem warnings_of_hasName (path : String) (h : Document.hasName path = true) :
    warnings path = nameWarning ⟨path⟩ := by
  have hname : Request.typeName ⟨path⟩ = Document.typeName path := rfl
  rw [warnings, ofPath_of_hasName path h, nameWarning, hname]
  cases Identifier.isIdentifier (Document.typeName path) <;> rfl

/-- What is told on each of the courses. -/
theorem told_of_course (files : FileSystem) (banner : Banner) (path : String) (dryRun : Bool) (run : Run Rendered)
    (h : Course files banner path dryRun run) : Told path run.events := by
  cases h with
  | refused _ hname =>
      have htold := told_of_ending path _ .failed
      rw [warnings_of_not_hasName path hname, List.append_nil] at htold
      exact htold
  | synthesized rendered hrendered =>
      have htold := told_of_ending path _ .dry
      -- A document that is synthesized has a name, so the warning depends on its type only.
      rw [warnings_of_hasName path (synthesize_eq_ok path banner rendered hrendered).1] at htold
      rw [path_eq_of_synthesize path banner rendered hrendered]
      exact htold
  | written rendered place mode hrendered _ _ =>
      have htold := told_of_ending path _ (.done place (.file rendered.text.toUTF8 mode))
      rw [warnings_of_hasName path (synthesize_eq_ok path banner rendered hrendered).1] at htold
      rw [path_eq_of_synthesize path banner rendered hrendered]
      exact htold
  | unwritten rendered error hrendered _ =>
      have htold := told_of_ending path _ .failed
      rw [warnings_of_hasName path (synthesize_eq_ok path banner rendered hrendered).1] at htold
      exact htold

/-- Writing a code-behind fails with a problem, since neither the document nor the working directory has a null
    byte. -/
theorem writeFailure_eq_problem (files left : FileSystem) (banner : Banner) (path : String) (rendered : Rendered)
    (error : FileError) (hpath : '\x00' ∉ path.toList) (hworkdir : '\x00' ∉ files.workdirPath.toList)
    (hrendered : synthesize path banner = .ok rendered)
    (hsave : files.save rendered.path rendered.text = (left, .error error)) :
    writeFailure rendered error = .problem (.persistence rendered.path error.message rendered.text) := by
  have hfault : error.fault ≠ .nullByte := by
    intro hnull
    rcases FileSystem.save_eq_nullByte files left _ _ {} error hsave hnull with hbad | hbad
    · exact hworkdir hbad
    · rw [path_eq_of_synthesize path banner rendered hrendered] at hbad
      exact Document.nullByte_notMem_outputPath path hpath hbad
  rw [writeFailure, if_neg hfault]

section

variable (files : FileSystem) (banner : Banner) (path : String) (dryRun : Bool) (run : Run Rendered)
  (h : Course files banner path dryRun run)
include h

/-- The result is that of synthesis followed by writing. -/
theorem result_of_course :
    run.result = synthesize path banner >>= fun rendered =>
      if dryRun then .ok rendered else (write files rendered).result.map fun _ => rendered := by
  cases h with
  | refused _ hname =>
      rw [synthesize_of_not_hasName path banner hname]
      simp only [bind, Except.bind]
  | synthesized rendered hrendered =>
      rw [hrendered]
      simp only [bind, Except.bind, if_true]
  | written rendered place mode hrendered _ hsave =>
      have hwrite := write_of_save_eq_ok files _ rendered {} place _ hsave
      rw [hrendered]
      simp only [bind, Except.bind, Bool.false_eq_true, if_false, hwrite, Except.map]
  | unwritten rendered error hrendered hsave =>
      have hwrite := write_of_save_eq_error files _ rendered {} error hsave
      rw [hrendered]
      simp only [bind, Except.bind, Bool.false_eq_true, if_false, hwrite, Except.map]

/-- A run that returns has left the tree that writing its result leaves. -/
theorem files_of_course (rendered : Rendered) (hresult : run.result = .ok rendered) :
    synthesize path banner = .ok rendered ∧ run.files = if dryRun then files else (write files rendered).files := by
  cases h with
  | refused _ hname => simp only [reduceCtorEq] at hresult
  | synthesized found hfound =>
      rw [Except.ok.injEq] at hresult
      rw [← hresult]
      exact ⟨hfound, rfl⟩
  | written found place mode hfound _ hsave =>
      have hwrite := write_of_save_eq_ok files _ found {} place _ hsave
      rw [Except.ok.injEq] at hresult
      rw [← hresult, hwrite]
      exact ⟨hfound, rfl⟩
  | unwritten found error hfound hsave => simp only [reduceCtorEq] at hresult

/-- A run that fails has left the tree alone, and the failure is that of the request or that of writing. -/
theorem failure_of_course (failure : Failure) (hresult : run.result = .error failure) :
    run.files = files ∧
      ((Request.ofPath path = .error failure ∧
          failure = .problem (.invalidRequest path "document file name is empty")) ∨
        (dryRun = false ∧ ∃ rendered error, synthesize path banner = .ok rendered ∧
          files.save rendered.path rendered.text = (files, .error error) ∧ failure = writeFailure rendered error)) := by
  cases h with
  | refused _ hname =>
      rw [Except.error.injEq] at hresult
      rw [← hresult]
      exact ⟨rfl, Or.inl ⟨ofPath_of_not_hasName path hname, rfl⟩⟩
  | synthesized found hfound => simp only [reduceCtorEq] at hresult
  | written found place mode hfound _ hsave => simp only [reduceCtorEq] at hresult
  | unwritten found error hfound hsave =>
      rw [Except.error.injEq] at hresult
      exact ⟨rfl, Or.inr ⟨rfl, found, error, hfound, hsave, hresult.symm⟩⟩

/-- A run puts one file in place if it is no dry run and returns, and none otherwise. -/
theorem saved_of_course :
    (∃ place entry, run.events.filterMap Event.saved? = [(place, entry)] ∧ run.files = files.set place entry ∧
        dryRun = false ∧ ∃ rendered, run.result = .ok rendered) ∨
      (run.events.filterMap Event.saved? = [] ∧ run.files = files ∧
        ¬ (dryRun = false ∧ ∃ rendered, run.result = .ok rendered)) := by
  -- Of the four courses only one puts something in place.
  cases h with
  | refused _ hname =>
      refine Or.inr ⟨rfl, rfl, ?_⟩
      rintro ⟨_, rendered, hresult⟩
      simp only [reduceCtorEq] at hresult
  | synthesized found hfound =>
      refine Or.inr ⟨?_, rfl, ?_⟩
      · exact saved_opening_append path _ _ (saved_nameWarning ⟨path⟩)
      · rintro ⟨hdry, _⟩
        exact Bool.noConfusion hdry
  | written found place mode hfound _ hsave =>
      refine Or.inl ⟨place, _, ?_, rfl, rfl, found, rfl⟩
      exact saved_opening_append path _ _ (saved_nameWarning ⟨path⟩)
  | unwritten found error hfound hsave =>
      refine Or.inr ⟨?_, rfl, ?_⟩
      · exact saved_opening_append path _ _ (saved_nameWarning ⟨path⟩)
      · rintro ⟨_, rendered, hresult⟩
        simp only [reduceCtorEq] at hresult

end

/-- Generating a document is synthesis followed by writing, and nothing else. The result is that of the two, a run
    that returns leaves the tree that writing leaves, and a run that fails leaves the tree alone; then either the
    request was refused or writing has failed with a problem. What is told is the same on each way, the file is put
    in place if and only if it is no dry run and the run returns, and the tree that a session gets from the events is
    the tree of the run. -/
theorem generate_refines (files : FileSystem) (banner : Banner) (path : String) (dryRun : Bool)
    (hpath : '\x00' ∉ path.toList) (hworkdir : ∀ name ∈ files.workdir, '\x00' ∉ name.toList) :
    (generate files banner path dryRun).result =
        (synthesize path banner >>= fun rendered =>
          if dryRun then .ok rendered else (write files rendered).result.map fun _ => rendered) ∧
      (∀ rendered, (generate files banner path dryRun).result = .ok rendered →
        synthesize path banner = .ok rendered ∧
          (generate files banner path dryRun).files = if dryRun then files else (write files rendered).files) ∧
      (∀ failure, (generate files banner path dryRun).result = .error failure →
        (generate files banner path dryRun).files = files ∧
          ((Request.ofPath path = .error failure ∧
              failure = .problem (.invalidRequest path "document file name is empty")) ∨
            (dryRun = false ∧ ∃ rendered message, synthesize path banner = .ok rendered ∧
              (write files rendered).result = .error failure ∧
              failure = .problem (.persistence rendered.path message rendered.text)))) ∧
      Told path (generate files banner path dryRun).events ∧
      ((generate files banner path dryRun).events.filterMap Event.saved? ≠ [] ↔
        dryRun = false ∧ ∃ rendered, (generate files banner path dryRun).result = .ok rendered) ∧
      ∀ session : Session, session.files = files → session.log.file = .none →
        (session.performAll (generate files banner path dryRun).events).files =
          (generate files banner path dryRun).files := by
  have hcourse := course_generate files banner path dryRun
  have hsaved := saved_of_course files banner path dryRun _ hcourse
  refine ⟨result_of_course files banner path dryRun _ hcourse, ?_, ?_,
    told_of_course files banner path dryRun _ hcourse, ?_, ?_⟩
  · intro rendered hresult
    exact files_of_course files banner path dryRun _ hcourse rendered hresult
  · intro failure hresult
    rcases failure_of_course files banner path dryRun _ hcourse failure hresult with ⟨hfiles, hcause⟩
    refine ⟨hfiles, ?_⟩
    rcases hcause with hrefused | ⟨hdry, rendered, error, hrendered, hsave, hfailure⟩
    · exact Or.inl hrefused
    · -- The fault is no null byte, so it is reported as a problem that keeps the text.
      have hproblem := writeFailure_eq_problem files files banner path rendered error hpath
        (FileSystem.nullByte_notMem_workdirPath files hworkdir) hrendered hsave
      have hwrite := write_of_save_eq_error files files rendered {} error hsave
      refine Or.inr ⟨hdry, rendered, error.message, hrendered, ?_, ?_⟩
      · rw [hwrite, hfailure]
      · rw [hfailure, hproblem]
  · -- One file is put in place or none, and it is none in a dry run and where the run fails.
    rcases hsaved with ⟨place, entry, hevents, _, hwritten⟩ | ⟨hevents, _, hnot⟩
    · rw [hevents]
      exact iff_of_true (List.cons_ne_nil _ _) hwritten
    · rw [hevents]
      exact iff_of_false (fun hne => hne rfl) hnot
  · intro session hfiles hlog
    rw [Session.files_performAll _ session hlog, hfiles]
    rcases hsaved with ⟨place, entry, hevents, htree, _⟩ | ⟨hevents, htree, _⟩
    · rw [hevents, htree]
      rfl
    · rw [hevents, htree]
      rfl

/-- A tree in which a directory lies where the file of one document is to be generated. -/
def blockedTree : FileSystem where
  entries := [(["home"], .directory), (["home", "ui"], .directory), (["home", "ui", "2nd.g.cs"], .directory)]
  workdir := ["home"]
  umask := 0o022

theorem generate_blockedTree :
    '\x00' ∉ "ui/2nd.uxml".toList ∧ (∀ name ∈ blockedTree.workdir, '\x00' ∉ name.toList) ∧
      (∃ rendered message, synthesize "ui/2nd.uxml" .standard = .ok rendered ∧
        (generate blockedTree .standard "ui/2nd.uxml" false).result =
          .error (.problem (.persistence rendered.path message rendered.text))) ∧
      (generate blockedTree .standard "ui/2nd.uxml" false).files = blockedTree ∧
      (generate blockedTree .standard "ui/2nd.uxml" false).events.filter Event.isProgress =
        [progress, .progressCleared] ∧
      ((generate blockedTree .standard "ui/2nd.uxml" false).events.filterMap Event.record?).filter
          (fun record => record.level = .warning) = [Log.invalidIdentifier component "2nd" "ui/2nd.uxml"] ∧
      (generate blockedTree .standard "ui/2nd.uxml" false).events.filterMap Event.saved? = [] ∧
      '\x00' ∉ "ui/Menu.uxml".toList ∧
      ∃ rendered, synthesize "ui/Menu.uxml" .standard = .ok rendered ∧
        (generate blockedTree .standard "ui/Menu.uxml" false).result = .ok rendered ∧
        (generate blockedTree .standard "ui/Menu.uxml" false).files = (write blockedTree rendered).files ∧
        (generate blockedTree .standard "ui/Menu.uxml" false).events.filterMap Event.saved? ≠ [] ∧
        (generate blockedTree .standard "ui/Menu.uxml" true).result = .ok rendered ∧
        (generate blockedTree .standard "ui/Menu.uxml" true).files = blockedTree ∧
        (generate blockedTree .standard "ui/Menu.uxml" true).events.filterMap Event.saved? = [] := by
  have hpath : '\x00' ∉ "ui/2nd.uxml".toList := by decide
  have hother : '\x00' ∉ "ui/Menu.uxml".toList := by decide
  have hworkdir : ∀ name ∈ blockedTree.workdir, '\x00' ∉ name.toList := by decide
  have haccepted : ((Request.ofPath "ui/2nd.uxml").isOk &&
      !Identifier.isIdentifier (Document.typeName "ui/2nd.uxml")) = true := by decide
  have hblocked : (generate blockedTree .standard "ui/2nd.uxml" false).result.isOk = false := by decide +kernel
  have hwritten : (generate blockedTree .standard "ui/Menu.uxml" false).result.isOk = true := by decide +kernel
  rcases generate_refines blockedTree .standard "ui/2nd.uxml" false hpath hworkdir with
    ⟨_, _, hfailure, htold, hsaved, _⟩
  rcases generate_refines blockedTree .standard "ui/Menu.uxml" false hother hworkdir with
    ⟨_, hreturned, _, _, hput, _⟩
  rcases generate_refines blockedTree .standard "ui/Menu.uxml" true hother hworkdir with
    ⟨hdry, hdryReturned, _, _, hdryPut, _⟩
  have hmenu : ∃ menu, (generate blockedTree .standard "ui/Menu.uxml" false).result = .ok menu := by
    cases hresult : (generate blockedTree .standard "ui/Menu.uxml" false).result with
    | ok menu => exact ⟨menu, rfl⟩
    | error failure =>
        rw [hresult] at hwritten
        exact Bool.noConfusion hwritten
  rcases hmenu with ⟨menu, hmenu⟩
  rcases hreturned menu hmenu with ⟨hsynthesized, hmenuFiles⟩
  -- The dry run renders the same, and it leaves the tree alone.
  rw [hsynthesized] at hdry
  have hnothing : (generate blockedTree .standard "ui/Menu.uxml" true).events.filterMap Event.saved? = [] := by
    by_contra hne
    exact Bool.noConfusion (hdryPut.mp hne).1
  have hwarned := htold.warned
  rw [if_pos haccepted] at hwarned
  cases hresult : (generate blockedTree .standard "ui/2nd.uxml" false).result with
  | ok rendered =>
      rw [hresult] at hblocked
      exact Bool.noConfusion hblocked
  | error failure =>
      rcases hfailure failure hresult with ⟨hfiles, ⟨hrefused, _⟩ | ⟨_, rendered, message, hrendered, _, hproblem⟩⟩
      · rw [hrefused] at haccepted
        exact Bool.noConfusion haccepted
      · refine ⟨hpath, hworkdir, ⟨rendered, message, hrendered, congrArg _ hproblem⟩, hfiles, htold.shown, hwarned, ?_,
          hother, menu, hsynthesized, hmenu, hmenuFiles, hput.mpr ⟨rfl, menu, hmenu⟩, hdry, (hdryReturned menu hdry).2,
          hnothing⟩
        by_contra hne
        rcases hsaved.mp hne with ⟨_, found, hfound⟩
        rw [hresult] at hfound
        simp only [reduceCtorEq] at hfound

end Generation

end CodeBehind
