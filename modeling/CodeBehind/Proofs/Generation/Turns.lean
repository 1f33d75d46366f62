import CodeBehind.Proofs.Generation.Saved

/-!
# Turns and reports

What a report says about every turn of its batch.

Where a batch has a report, no turn has ended it, whatever the paths are. So every turn has returned a file or has failed
with a problem, and the report has the files and the failures in their order. A turn fails for one of two reasons only:
the document has no name, or its code-behind is to be written and writing it fails. The second depends on the turn, but
whether it happens does not, since the trees in between are saved to alike.

## Main definitions

* `WriteFails`: Writing the code-behind of a document fails when it is its turn.

## Theorems

* `turns_of_report`: The turns of a batch with a report.
* `exists_error_turn_iff`: Why a turn fails.
* `exists_ok_turn_iff`: A turn succeeds if the document would on its own.
* `failures_eq_nil_iff`: When no failure is reported.
-/

namespace CodeBehind

namespace Generation

/-- Writing the code-behind of a document fails when it is its turn, in the tree that the documents before it leave. -/
def WriteFails (start : FileSystem) (banner : Banner) (paths : List String) (i : Nat) (path : String) : Prop :=
  ∃ rendered error, synthesize path banner = .ok rendered ∧
    ((generateAll start banner false (paths.take i)).files.save rendered.path rendered.text).2 = .error error

/-- A failure that reports a problem is that problem. -/
theorem eq_problem_of_problem? (failure : Failure) (problem : Problem) (h : failure.problem? = some problem) :
    failure = .problem problem := by
  cases failure with
  | problem found => exact congrArg Failure.problem (Option.some.inj h)
  | _ => exact absurd h.symm (Option.some_ne_none problem)

/-! ## One run -/

section

variable (files : FileSystem) (banner : Banner) (path : String) (dryRun : Bool)

/-- A run fails if the document has no name, or if its code-behind is to be written and cannot be. -/
theorem exists_error_iff :
    (∃ failure, (generate files banner path dryRun).result = .error failure) ↔
      Document.hasName path = false ∨ (dryRun = false ∧ ∃ rendered error, synthesize path banner = .ok rendered ∧
        (files.save rendered.path rendered.text).2 = .error error) := by
  have hcourse := course_generate files banner path dryRun
  -- What has a code-behind has a name.
  have hnamed : ∀ rendered, synthesize path banner = .ok rendered → Document.hasName path ≠ false := by
    intro rendered hrendered hname
    have hshown := (synthesize_eq_ok path banner rendered hrendered).1
    rw [hname] at hshown
    exact Bool.noConfusion hshown
  generalize generate files banner path dryRun = run at hcourse ⊢
  cases hcourse with
  | refused _ hname => exact iff_of_true ⟨_, rfl⟩ (Or.inl (Bool.eq_false_iff.mpr hname))
  | synthesized rendered hrendered =>
      refine iff_of_false ?_ ?_
      · rintro ⟨failure, hfailure⟩
        simp only [reduceCtorEq] at hfailure
      · rintro (hname | ⟨hwet, _⟩)
        · exact hnamed rendered hrendered hname
        · exact Bool.noConfusion hwet
  | written rendered place mode hrendered _ hsave =>
      refine iff_of_false ?_ ?_
      · rintro ⟨failure, hfailure⟩
        simp only [reduceCtorEq] at hfailure
      · rintro (hname | ⟨_, found, error, hfound, hfails⟩)
        · exact hnamed rendered hrendered hname
        · rw [hrendered, Except.ok.injEq] at hfound
          rw [← hfound, hsave] at hfails
          simp only [reduceCtorEq] at hfails
  | unwritten rendered error hrendered hsave =>
      exact iff_of_true ⟨_, rfl⟩ (Or.inr ⟨rfl, rendered, error, hrendered, by rw [hsave]⟩)

/-- A run succeeds if its code-behind is synthesized and, where it is to be written, can be saved. -/
theorem exists_ok_iff :
    (∃ rendered, (generate files banner path dryRun).result = .ok rendered) ↔
      ∃ rendered, synthesize path banner = .ok rendered ∧ (dryRun = false → files.CanSave rendered.path) := by
  have hcourse := course_generate files banner path dryRun
  generalize generate files banner path dryRun = run at hcourse ⊢
  cases hcourse with
  | refused _ hname =>
      refine iff_of_false ?_ ?_
      · rintro ⟨rendered, hresult⟩
        simp only [reduceCtorEq] at hresult
      · rintro ⟨rendered, hrendered, _⟩
        exact hname (synthesize_eq_ok path banner rendered hrendered).1
  | synthesized rendered hrendered =>
      -- A dry run asks for no more than a text.
      exact iff_of_true ⟨_, rfl⟩ ⟨rendered, hrendered, fun hwet => Bool.noConfusion hwet⟩
  | written rendered place mode hrendered _ hsave =>
      refine iff_of_true ⟨_, rfl⟩ ⟨rendered, hrendered, fun _ => ?_⟩
      exact (FileSystem.save_eq_ok_iff files rendered.path rendered.text).mp ⟨_, _, hsave⟩
  | unwritten rendered error hrendered hsave =>
      refine iff_of_false ?_ ?_
      · rintro ⟨found, hresult⟩
        simp only [reduceCtorEq] at hresult
      · rintro ⟨found, hfound, hcan⟩
        rw [hrendered, Except.ok.injEq] at hfound
        rcases (FileSystem.save_eq_ok_iff files found.path found.text).mpr (hcan rfl) with ⟨tree, result, hsaved⟩
        rw [← hfound, hsave] at hsaved
        simp only [Prod.mk.injEq, reduceCtorEq, and_false] at hsaved

end

/-! ## The turns of a batch -/

/-- No turn has ended a batch that has a report. -/
theorem problem_of_turn (files : FileSystem) (banner : Banner) (dryRun : Bool) (paths : List String) (report : Report)
    (hreport : (generateAll files banner dryRun paths).result = .ok report) (i : Nat) (path : String)
    (hpath : paths[i]? = some path) (failure : Failure)
    (hturn : turn files banner dryRun paths i path = .error failure) : failure.problem? ≠ none := by
  -- The first turn is that of the first document, and the others are turns of the batch behind it.
  induction paths generalizing files i report with
  | nil => simp only [List.getElem?_nil, reduceCtorEq] at hpath
  | cons first rest ih =>
      rcases report_cons_cases files banner dryRun first rest report hreport with ⟨_, add, others, hadds, hothers, _⟩
      have hgoes : ∀ found, (generate files banner first dryRun).result = .error found → found.problem? ≠ none := by
        intro found hfound
        cases hadds with
        | file rendered hresult =>
            rw [hresult] at hfound
            simp only [reduceCtorEq] at hfound
        | failure failure problem hresult hproblem =>
            rw [hresult, Except.error.injEq] at hfound
            rw [← hfound, hproblem]
            exact Option.some_ne_none problem
      cases i with
      | zero =>
          rw [List.getElem?_cons_zero, Option.some.injEq] at hpath
          rw [← hpath] at hturn
          exact hgoes failure hturn
      | succ i =>
          rw [turn_succ files banner dryRun first rest hgoes] at hturn
          exact ih _ others hothers i hpath hturn

section

variable (start : FileSystem) (banner : Banner) (dryRun : Bool) (paths : List String)

/-- A report collects the turns, and every turn returns a file or fails with a problem. -/
theorem turns_of_report (report : Report) (hreport : (generateAll start banner dryRun paths).result = .ok report) :
    report.generated = paths.zipIdx.filterMap
        (fun entry => (turn start banner dryRun paths entry.2 entry.1).toOption) ∧
      report.failures = paths.zipIdx.filterMap
        (fun entry => failureOf entry.1 (turn start banner dryRun paths entry.2 entry.1)) ∧
      ∀ i path, paths[i]? = some path →
        (∃ rendered, turn start banner dryRun paths i path = .ok rendered ∧ synthesize path banner = .ok rendered ∧
          rendered ∈ report.generated) ∨
        ∃ problem, turn start banner dryRun paths i path = .error (.problem problem) := by
  have hgoes := problem_of_turn start banner dryRun paths report hreport
  -- The report that the turns make up is the one that the batch has.
  rcases report_of_turns start banner dryRun paths hgoes with ⟨found, hfound, hgenerated, hfailures⟩
  rw [hreport, Except.ok.injEq] at hfound
  rw [← hfound] at hgenerated hfailures
  refine ⟨hgenerated, hfailures, fun i path hpath => ?_⟩
  cases hturn : turn start banner dryRun paths i path with
  | ok rendered =>
      have hcourse := course_generate (generateAll start banner dryRun (paths.take i)).files banner path dryRun
      refine Or.inl ⟨rendered, rfl, (files_of_course _ _ _ _ _ hcourse rendered hturn).1, ?_⟩
      rw [hgenerated]
      exact List.mem_filterMap.mpr ⟨(path, i), List.mk_mem_zipIdx_iff_getElem?.mpr hpath, by rw [hturn]; rfl⟩
  | error failure =>
      rcases Option.ne_none_iff_exists'.mp (hgoes i path hpath failure hturn) with ⟨problem, hproblem⟩
      exact Or.inr ⟨problem, congrArg Except.error (eq_problem_of_problem? failure problem hproblem)⟩

variable (i : Nat) (path : String)

/-- A turn fails if the document has no name, or if its code-behind is to be written and writing it fails. -/
theorem exists_error_turn_iff :
    (∃ failure, turn start banner dryRun paths i path = .error failure) ↔
      Document.hasName path = false ∨ (dryRun = false ∧ WriteFails start banner paths i path) := by
  unfold turn
  rw [exists_error_iff]
  cases dryRun with
  | true => simp only [Bool.true_eq_false, false_and]
  | false => exact Iff.rfl

/-- A turn succeeds if and only if the document would succeed on its own. -/
theorem exists_ok_turn_iff :
    (∃ rendered, turn start banner dryRun paths i path = .ok rendered) ↔
      succeeds start banner dryRun path = true := by
  have halike := alike_generateAll start banner dryRun (paths.take i)
  -- The documents before a turn leave a tree that is saved to like the one at the start.
  have halone : succeeds start banner dryRun path = true ↔
      ∃ rendered, (generate start banner path dryRun).result = .ok rendered := by
    unfold succeeds
    cases (generate start banner path dryRun).result with
    | ok rendered => exact iff_of_true rfl ⟨rendered, rfl⟩
    | error failure =>
        refine iff_of_false Bool.false_ne_true ?_
        rintro ⟨rendered, hrendered⟩
        simp only [reduceCtorEq] at hrendered
  unfold turn
  rw [halone, exists_ok_iff, exists_ok_iff]
  refine exists_congr (fun rendered => and_congr_right (fun _ => imp_congr_right (fun _ => ?_)))
  exact FileSystem.canSave_congr start _ halike rendered.path

end

/-- No failure is reported if and only if no turn fails. -/
theorem failures_eq_nil_iff (start : FileSystem) (banner : Banner) (dryRun : Bool) (paths : List String)
    (report : Report) (hreport : (generateAll start banner dryRun paths).result = .ok report) :
    report.failures = [] ↔ ∀ i path, paths[i]? = some path → ∀ failure,
      turn start banner dryRun paths i path ≠ .error failure := by
  rcases turns_of_report start banner dryRun paths report hreport with ⟨_, hfailures, hturns⟩
  rw [hfailures, List.filterMap_eq_nil_iff]
  constructor
  · intro hnone i path hpath failure hturn
    rcases hturns i path hpath with ⟨rendered, hok, _⟩ | ⟨problem, herror⟩
    · rw [hok] at hturn
      simp only [reduceCtorEq] at hturn
    -- A turn with a problem would leave its failure in the report.
    · have hfailure := hnone (path, i) (List.mk_mem_zipIdx_iff_getElem?.mpr hpath)
      rw [herror] at hfailure
      exact Option.some_ne_none _ hfailure
  · intro hnone entry hmem
    rcases hturns entry.2 entry.1 (List.mk_mem_zipIdx_iff_getElem?.mp hmem) with ⟨rendered, hok, _⟩ | ⟨problem, herror⟩
    · rw [hok]
      rfl
    · exact absurd herror (hnone entry.2 entry.1 (List.mk_mem_zipIdx_iff_getElem?.mp hmem) _)

end Generation

end CodeBehind
