import CodeBehind.Proofs.Generation.Isolation
import Mathlib.Data.Nat.Find

/-!
# Batches that come to their end

Which documents end a batch, and what is left of it then.

A batch goes on after every problem. The one failure that is no problem is that of a path with a null byte, and it has
to get through a gate: the code-behind has to be synthesized, so the document has a name, and the scratch file comes
first, so a directory that is missing or in the way is reported before anyone looks at the path. Where the scratch file
can be made, or its directory has the null byte in it, the path is refused and the batch is over (`Fatal`).

Being fatal is a matter of the document and of the tree at the start. The documents before it leave a tree that is
saved to like the one at the start, and that has the scratch file in the same directory (`fatal_congr`). So a batch has
a report if and only if none of its documents is fatal. If there is one, the first of them takes everything with it:
the files before it stay, the documents behind it are not looked at, and there is no report of either.

## Main definitions

* `Fatal`: A document that ends a batch.

## Main results

* `generateAll_complete`: Which batches have a report, that it accounts for every document, and what the others leave.

## Theorems

* `result_of_fatal`, `result_of_not_fatal`: One run for a fatal document, and for any other.
* `turn_cases_of_not_fatal`, `turn_of_fatal`: The turns in a batch.
* `generateAll_stops`: A batch ends at the first turn that fails without a problem.
-/

namespace CodeBehind

namespace Generation

/-- A document that ends a batch: it has a name, there is a null byte in the path of its code-behind, and the path is
    come to, because the scratch file can be made or because its directory has the null byte too. -/
def Fatal (files : FileSystem) (path : String) : Prop :=
  Document.hasName path = true ∧ '\x00' ∈ (Document.outputPath path).toList ∧
    ('\x00' ∈ (files.scratchDirectory (Document.outputPath path)).toList ∨
      ∃ made, files.createScratch (Document.outputPath path) = .ok made)

/-- A document without a null byte is not fatal. -/
theorem not_fatal_of_notMem (files : FileSystem) (path : String) (hpath : '\x00' ∉ path.toList) :
    ¬ Fatal files path :=
  fun hfatal => Document.nullByte_notMem_outputPath path hpath hfatal.2.1

/-- A document is fatal in trees that are saved to alike, or in none of them. -/
theorem fatal_congr (files other : FileSystem) (h : files.Alike other) (path : String) :
    Fatal other path ↔ Fatal files path := by
  rw [Fatal, Fatal, FileSystem.scratchDirectory_congr files other h, FileSystem.createScratch_congr files other h]

/-! ## One run -/

section

variable (files : FileSystem) (banner : Banner) (path : String) (dryRun : Bool)
  (hworkdir : '\x00' ∉ files.workdirPath.toList)
include hworkdir

/-- The save for a synthesized document is refused for a null byte if and only if the document is fatal. -/
theorem save_refused_iff (rendered : Rendered) (hrendered : synthesize path banner = .ok rendered) :
    (∃ error, (files.save rendered.path rendered.text).2 = .error error ∧ error.fault = .nullByte) ↔
      Fatal files path := by
  rw [FileSystem.save_eq_nullByte_iff files _ _ hworkdir, path_eq_of_synthesize path banner rendered hrendered, Fatal,
    and_iff_right (synthesize_eq_ok path banner rendered hrendered).1]

/-- A fatal document that is to be written fails for its null byte and leaves the tree alone. -/
theorem result_of_fatal (hfatal : Fatal files path) :
    ∃ error : FileError, error.fault = .nullByte ∧
      (generate files banner path false).result = .error (.file error) ∧
      (generate files banner path false).files = files := by
  have hcourse := course_generate files banner path false
  generalize generate files banner path false = run at hcourse ⊢
  cases hcourse with
  | refused _ hname => exact absurd hfatal.1 hname
  | written rendered place mode hrendered _ hsave =>
      rcases (save_refused_iff files banner path hworkdir rendered hrendered).mpr hfatal with ⟨error, hrefused, _⟩
      rw [hsave] at hrefused
      simp only [reduceCtorEq] at hrefused
  | unwritten rendered error hrendered hsave =>
      rcases (save_refused_iff files banner path hworkdir rendered hrendered).mpr hfatal with ⟨found, hrefused, hnull⟩
      rw [hsave, Except.error.injEq] at hrefused
      rw [← hrefused] at hnull
      exact ⟨error, hnull, congrArg Except.error (if_pos hnull), rfl⟩

/-- A run for any other document returns what is synthesized or reports a problem; so does every dry run. -/
theorem result_of_not_fatal (hfatal : ¬ (dryRun = false ∧ Fatal files path)) :
    (∃ rendered, (generate files banner path dryRun).result = .ok rendered ∧ synthesize path banner = .ok rendered) ∨
      ∃ problem, (generate files banner path dryRun).result = .error (.problem problem) := by
  have hcourse := course_generate files banner path dryRun
  generalize generate files banner path dryRun = run at hcourse ⊢
  cases hcourse with
  | refused _ _ => exact Or.inr ⟨_, rfl⟩
  | synthesized rendered hrendered => exact Or.inl ⟨rendered, rfl, hrendered⟩
  | written rendered _ _ hrendered _ _ => exact Or.inl ⟨rendered, rfl, hrendered⟩
  | unwritten rendered error hrendered hsave =>
      -- The save was not refused for a null byte, so its fault is reported.
      have hfault : error.fault ≠ .nullByte := by
        intro hnull
        refine hfatal ⟨rfl, (save_refused_iff files banner path hworkdir rendered hrendered).mp ⟨error, ?_, hnull⟩⟩
        rw [hsave]
      exact Or.inr ⟨_, congrArg Except.error (if_neg hfault)⟩

end

/-! ## Turns -/

section

variable (start : FileSystem) (banner : Banner) (dryRun : Bool) (paths : List String)
  (hworkdir : '\x00' ∉ start.workdirPath.toList) (i : Nat) (path : String)
include hworkdir

/-- The tree at a turn is used from the directory of the tree at the start. -/
theorem workdirPath_of_turn :
    '\x00' ∉ (generateAll start banner dryRun (paths.take i)).files.workdirPath.toList := by
  rwa [FileSystem.workdirPath, (alike_generateAll start banner dryRun (paths.take i)).workdir]

theorem turn_cases_of_not_fatal (hfatal : ¬ (dryRun = false ∧ Fatal start path)) :
    (∃ rendered, turn start banner dryRun paths i path = .ok rendered ∧ synthesize path banner = .ok rendered) ∨
      ∃ problem, turn start banner dryRun paths i path = .error (.problem problem) := by
  have halike := alike_generateAll start banner dryRun (paths.take i)
  refine result_of_not_fatal _ banner path dryRun (workdirPath_of_turn start banner dryRun paths hworkdir i) ?_
  rintro ⟨hwet, hturn⟩
  exact hfatal ⟨hwet, (fatal_congr start _ halike path).mp hturn⟩

theorem turn_of_fatal (hfatal : Fatal start path) :
    ∃ error : FileError, error.fault = .nullByte ∧ turn start banner false paths i path = .error (.file error) ∧
      (generate (generateAll start banner false (paths.take i)).files banner path false).files =
        (generateAll start banner false (paths.take i)).files := by
  have halike := alike_generateAll start banner false (paths.take i)
  exact result_of_fatal _ banner path (workdirPath_of_turn start banner false paths hworkdir i)
    ((fatal_congr start _ halike path).mpr hfatal)

end

/-- A batch ends at the first turn that fails without a problem: with that failure, and with the tree that the run at
    this turn leaves. -/
theorem generateAll_stops (files : FileSystem) (banner : Banner) (dryRun : Bool) (paths : List String) (i : Nat)
    (path : String) (failure : Failure) (hpath : paths[i]? = some path)
    (hbefore : ∀ j other, j < i → paths[j]? = some other → ∀ found,
      turn files banner dryRun paths j other = .error found → found.problem? ≠ none)
    (hturn : turn files banner dryRun paths i path = .error failure) (hfailure : failure.problem? = none) :
    (generateAll files banner dryRun paths).result = .error failure ∧
      (generateAll files banner dryRun paths).files =
        (generate (generateAll files banner dryRun (paths.take i)).files banner path dryRun).files := by
  induction paths generalizing files i with
  | nil => simp only [List.getElem?_nil, reduceCtorEq] at hpath
  | cons first rest ih =>
      cases i with
      | zero =>
          simp only [List.getElem?_cons_zero, Option.some.injEq] at hpath
          rw [hpath]
          have hresult : (generate files banner path dryRun).result = .error failure := hturn
          simp only [generateAll_cons, hresult, hfailure, List.take_zero]
          exact ⟨trivial, rfl⟩
      | succ i =>
          -- The first document does not end the batch, so the end is an end of the rest.
          have hgoes : ∀ found, (generate files banner first dryRun).result = .error found → found.problem? ≠ none :=
            hbefore 0 first (Nat.succ_pos i) rfl
          have hturns := turn_succ files banner dryRun first rest hgoes
          rw [hturns] at hturn
          have hrest := ih (generate files banner first dryRun).files i hpath (fun j other hj hother found hfound =>
            hbefore (j + 1) other (Nat.succ_lt_succ hj) hother found ((hturns j other).trans hfound)) hturn
          rw [List.take_succ_cons, files_generateAll_cons files banner dryRun first _ hgoes,
            files_generateAll_cons files banner dryRun first _ hgoes]
          refine ⟨?_, hrest.2⟩
          cases hresult : (generate files banner first dryRun).result with
          | ok rendered => simp only [generateAll_cons, hresult, hrest.1, Except.map]
          | error found =>
              rcases Option.ne_none_iff_exists'.mp (hgoes found hresult) with ⟨problem, hproblem⟩
              simp only [generateAll_cons, hresult, hproblem, hrest.1, Except.map]

/-! ## The end of a batch -/

/-- A batch without a fatal document has a report. -/
theorem exists_report (start : FileSystem) (banner : Banner) (dryRun : Bool) (paths : List String)
    (hworkdir : '\x00' ∉ start.workdirPath.toList)
    (hfatal : ∀ path ∈ paths, ¬ (dryRun = false ∧ Fatal start path)) :
    ∃ report, (generateAll start banner dryRun paths).result = .ok report ∧
      report.generated = paths.zipIdx.filterMap
        (fun entry => (turn start banner dryRun paths entry.2 entry.1).toOption) ∧
      report.failures = paths.zipIdx.filterMap
        (fun entry => failureOf entry.1 (turn start banner dryRun paths entry.2 entry.1)) := by
  refine report_of_turns start banner dryRun paths (fun i path hpath failure hfailure => ?_)
  have hmem := List.mem_of_getElem? hpath
  rcases turn_cases_of_not_fatal start banner dryRun paths hworkdir i path (hfatal path hmem) with
    ⟨_, hturn, _⟩ | ⟨problem, hturn⟩
  · rw [hturn] at hfailure
    simp only [reduceCtorEq] at hfailure
  · rw [hturn, Except.error.injEq] at hfailure
    rw [← hfailure]
    exact Option.some_ne_none problem

/-- A batch with a fatal document ends at the first of them, without a report. -/
theorem stops_at_fatal (start : FileSystem) (banner : Banner) (paths : List String)
    (hworkdir : '\x00' ∉ start.workdirPath.toList) (hfatal : ∃ path ∈ paths, Fatal start path) :
    ∃ i path, ∃ error : FileError, paths[i]? = some path ∧ Fatal start path ∧
      (∀ j other, j < i → paths[j]? = some other → ¬ Fatal start other) ∧ error.fault = .nullByte ∧
      (generateAll start banner false paths).result = .error (.file error) ∧
      (generateAll start banner false paths).files = (generateAll start banner false (paths.take i)).files := by
  -- Of all positions at which a fatal document stands, the first one counts.
  have hsome : ∃ i : Nat, ∃ path, paths[i]? = some path ∧ Fatal start path := by
    rcases hfatal with ⟨path, hmem, hpath⟩
    rcases List.mem_iff_getElem?.mp hmem with ⟨i, hi⟩
    exact ⟨i, path, hi, hpath⟩
  classical
  rcases Nat.find_spec hsome with ⟨path, hpath, hfirst⟩
  have hbefore : ∀ j other, j < Nat.find hsome → paths[j]? = some other → ¬ Fatal start other :=
    fun j other hj hother hbad => Nat.find_min hsome hj ⟨other, hother, hbad⟩
  rcases turn_of_fatal start banner paths hworkdir (Nat.find hsome) path hfirst with ⟨error, hnull, hturn, hfiles⟩
  have hstops := generateAll_stops start banner false paths (Nat.find hsome) path (.file error) hpath ?_ hturn rfl
  · exact ⟨_, path, error, hpath, hfirst, hbefore, hnull, hstops.1, hstops.2.trans hfiles⟩
  · -- The turns before it return or report a problem.
    intro j other hj hother found hfound
    have hnot : ¬ (false = false ∧ Fatal start other) := fun hbad => hbefore j other hj hother hbad.2
    rcases turn_cases_of_not_fatal start banner false paths hworkdir j other hnot with ⟨_, hok, _⟩ | ⟨problem, herror⟩
    · rw [hok] at hfound
      simp only [reduceCtorEq] at hfound
    · rw [herror, Except.error.injEq] at hfound
      rw [← hfound]
      exact Option.some_ne_none problem

/-- Every entry is kept by one of two filters if each of them drops what the other keeps. -/
theorem length_filterMap_add {α β γ : Type} (f : α → Option β) (g : α → Option γ) (xs : List α)
    (h : ∀ x ∈ xs, (f x).isSome = !(g x).isSome) :
    (xs.filterMap f).length + (xs.filterMap g).length = xs.length := by
  induction xs with
  | nil => rfl
  | cons x rest ih =>
      have hx := h x (List.mem_cons_self ..)
      have hrest := ih (fun y hmem => h y (List.mem_cons_of_mem x hmem))
      cases hf : f x with
      | none =>
          rw [hf] at hx
          cases hg : g x with
          | none => simp only [hg, Option.isSome_none, Bool.not_false, reduceCtorEq] at hx
          | some _ => simp only [List.filterMap_cons, hf, hg, List.length_cons]; omega
      | some _ =>
          rw [hf] at hx
          cases hg : g x with
          | none => simp only [List.filterMap_cons, hf, hg, List.length_cons]; omega
          | some _ => simp only [hg, Option.isSome_some, Bool.not_true, reduceCtorEq] at hx

/-- A batch has a report if and only if it is a dry run or none of its documents is fatal. A report accounts for every
    document: each turn has returned the synthesized file or has failed with a problem, the report has the files and
    the failures of the turns in their order, and they are as many as the documents. Where there is no report, the
    first fatal document has ended the batch: the failure is its null byte, and the tree is the one that the documents
    before it leave. -/
theorem generateAll_complete (start : FileSystem) (banner : Banner) (dryRun : Bool) (paths : List String)
    (hworkdir : ∀ name ∈ start.workdir, '\x00' ∉ name.toList) :
    ((∃ report, (generateAll start banner dryRun paths).result = .ok report) ↔
        dryRun = true ∨ ∀ path ∈ paths, ¬ Fatal start path) ∧
      (∀ report, (generateAll start banner dryRun paths).result = .ok report →
        report.generated = paths.zipIdx.filterMap
            (fun entry => (turn start banner dryRun paths entry.2 entry.1).toOption) ∧
          report.failures = paths.zipIdx.filterMap
            (fun entry => failureOf entry.1 (turn start banner dryRun paths entry.2 entry.1)) ∧
          report.generated.length + report.failures.length = paths.length ∧
          ∀ i path, paths[i]? = some path →
            (∃ rendered, turn start banner dryRun paths i path = .ok rendered ∧
              synthesize path banner = .ok rendered) ∨
            ∃ problem, turn start banner dryRun paths i path = .error (.problem problem)) ∧
      ∀ failure, (generateAll start banner dryRun paths).result = .error failure →
        ∃ i path, ∃ error : FileError, paths[i]? = some path ∧ Fatal start path ∧
          (∀ j other, j < i → paths[j]? = some other → ¬ Fatal start other) ∧ error.fault = .nullByte ∧
          failure = .file error ∧
          (generateAll start banner dryRun paths).files = (generateAll start banner dryRun (paths.take i)).files := by
  have hworkdirPath := FileSystem.nullByte_notMem_workdirPath start hworkdir
  by_cases hsafe : dryRun = true ∨ ∀ path ∈ paths, ¬ Fatal start path
  · have hnot : ∀ path ∈ paths, ¬ (dryRun = false ∧ Fatal start path) := by
      rintro path hmem ⟨hwet, hfatal⟩
      rcases hsafe with hdry | hnone
      · rw [hdry] at hwet
        exact Bool.noConfusion hwet
      · exact hnone path hmem hfatal
    have hturns := fun i path (hpath : paths[i]? = some path) => turn_cases_of_not_fatal start banner dryRun paths
      hworkdirPath i path (hnot path (List.mem_of_getElem? hpath))
    rcases exists_report start banner dryRun paths hworkdirPath hnot with ⟨report, hreport, hgenerated, hfailures⟩
    refine ⟨iff_of_true ⟨report, hreport⟩ hsafe, fun found hfound => ?_, fun failure hfailure => ?_⟩
    · rw [hreport, Except.ok.injEq] at hfound
      rw [← hfound]
      refine ⟨hgenerated, hfailures, ?_, hturns⟩
      rw [hgenerated, hfailures, length_filterMap_add, List.length_zipIdx]
      -- A turn gives a file or a failure, and not both.
      intro entry hmem
      rcases hturns entry.2 entry.1 (List.mk_mem_zipIdx_iff_getElem?.mp hmem) with ⟨_, hturn, _⟩ | ⟨_, hturn⟩
      · rw [hturn]
        rfl
      · rw [hturn]
        rfl
    · rw [hreport] at hfailure
      simp only [reduceCtorEq] at hfailure
  · rcases not_or.mp hsafe with ⟨hdry, hnone⟩
    rw [Bool.not_eq_true] at hdry
    have hfatal : ∃ path ∈ paths, Fatal start path := by
      by_contra hno
      exact hnone (fun path hmem hpath => hno ⟨path, hmem, hpath⟩)
    subst hdry
    rcases stops_at_fatal start banner paths hworkdirPath hfatal with
      ⟨i, path, error, hpath, hfirst, hbefore, hnull, hresult, hfiles⟩
    refine ⟨iff_of_false ?_ hsafe, fun report hreport => ?_, fun failure hfailure => ?_⟩
    · rintro ⟨report, hreport⟩
      rw [hresult] at hreport
      simp only [reduceCtorEq] at hreport
    · rw [hresult] at hreport
      simp only [reduceCtorEq] at hreport
    · rw [hresult, Except.error.injEq] at hfailure
      exact ⟨i, path, error, hpath, hfirst, hbefore, hnull, hfailure.symm, hfiles⟩

/-- Documents of which the second has a null byte in its name. -/
def brokenPaths : List String :=
  ["ui/Foo.uxml", "ui/a\x00b.uxml", "ui/Baz.uxml"]

/-- The second of these documents ends the batch, although nothing is wrong with the third: the first is written, the
    third is not, and nothing is reported. -/
theorem generateAll_brokenPaths :
    (generateAll plainTree .standard false brokenPaths).result.isOk = false ∧
      ((generateAll plainTree .standard false brokenPaths).files.pathExists "ui/Foo.g.cs" = true) ∧
      ((generateAll plainTree .standard false brokenPaths).files.pathExists "ui/Baz.g.cs" = false) ∧
      succeeds plainTree .standard false "ui/Baz.uxml" = true := by
  decide +kernel

/-- Nothing is wrong with a null byte in the extension, which the code-behind does not have, nor with one in a
    directory that is missing: the batch goes on, and the second document is reported. -/
theorem generateAll_spared :
    (∀ name ∈ plainTree.workdir, '\x00' ∉ name.toList) ∧
      ∃ report, (generateAll plainTree .standard false ["ui/Foo.u\x00xml", "none/a\x00/../b.uxml"]).result = .ok report ∧
        report.generated.length + report.failures.length = 2 := by
  have hworkdir : ∀ name ∈ plainTree.workdir, '\x00' ∉ name.toList := by decide
  rcases generateAll_complete plainTree .standard false ["ui/Foo.u\x00xml", "none/a\x00/../b.uxml"] hworkdir with
    ⟨_, haccounts, _⟩
  have hreturns : (generateAll plainTree .standard false ["ui/Foo.u\x00xml", "none/a\x00/../b.uxml"]).result.isOk =
      true := by decide +kernel
  cases hresult : (generateAll plainTree .standard false ["ui/Foo.u\x00xml", "none/a\x00/../b.uxml"]).result with
  | ok report => exact ⟨hworkdir, report, rfl, (haccounts report hresult).2.2.1⟩
  | error failure =>
      rw [hresult] at hreturns
      exact Bool.noConfusion hreturns

end Generation

end CodeBehind
