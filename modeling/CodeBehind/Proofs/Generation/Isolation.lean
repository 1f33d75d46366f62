import CodeBehind.Proofs.Generation.Batch

/-!
# Isolation of documents in a batch

No document of a batch decides about another.

A batch is one run after the other, and each of them finds the tree as those before it have left it. So what becomes of
a document is, by definition, a matter of its turn: the run on the tree that the documents before it leave. The report
collects the turns in their order (`report_generateAll`); it sorts each of them to the files or to the failures and
drops none.

That the turn of a document ends like a run on the tree at the start is a fact about the trees in between. They differ
from the one at the start only in generated files, and these are saved to alike. It is success that is the same, and
with it the file. The reason for a failure need not be: a document in a directory that is missing fails for that, and
if a document before it has put a file where the directory would be, it fails because the file is no directory.

## Main definitions

* `turn`: What becomes of a document when it is its turn.
* `succeeds`: Whether a document is generated on its own.
* `failureOf`: What a report says about a failure.

## Main results

* `generateAll_isolated`: How a report splits a batch, and that documents do not decide about each other.

## Theorems

* `result_cases`: A run returns the synthesized file or reports a problem.
* `isOk_result_congr`: A run succeeds in trees that are saved to alike.
* `generateAll_keeps`: What is kept by every run is kept by a batch.
* `alike_generateAll`: The tree after a batch is saved to like the one before.
* `report_of_turns`: A report collects the turns.
-/

namespace CodeBehind

namespace Generation

/-- What becomes of a document of a batch when it is its turn, in the tree that the documents before it leave. -/
def turn (start : FileSystem) (banner : Banner) (dryRun : Bool) (paths : List String) (i : Nat) (path : String) :
    Except Failure Rendered :=
  (generate (generateAll start banner dryRun (paths.take i)).files banner path dryRun).result

/-- Whether a document is generated on its own. -/
def succeeds (start : FileSystem) (banner : Banner) (dryRun : Bool) (path : String) : Bool :=
  (generate start banner path dryRun).result.isOk

/-- What a report says about a document that has a result, if that is a problem. -/
def failureOf (path : String) (result : Except Failure Rendered) : Option (String × String) :=
  match result with
  | .ok _ => none
  | .error failure => failure.problem?.map fun problem => (path, problem.message)

/-! ## One run -/

section

variable (files : FileSystem) (banner : Banner) (path : String) (dryRun : Bool)

/-- A dry run leaves the tree alone and returns what is synthesized. -/
theorem generate_dry :
    (generate files banner path true).result = synthesize path banner ∧
      (generate files banner path true).files = files := by
  have hcourse := course_generate files banner path true
  generalize generate files banner path true = run at hcourse ⊢
  cases hcourse with
  | refused _ hname =>
      rw [synthesize_of_not_hasName path banner hname]
      exact ⟨rfl, rfl⟩
  | synthesized rendered hrendered => exact ⟨hrendered.symm, rfl⟩

/-- A run returns the synthesized file or reports a problem. -/
theorem result_cases (hpath : '\x00' ∉ path.toList) (hworkdir : '\x00' ∉ files.workdirPath.toList) :
    (∃ rendered, (generate files banner path dryRun).result = .ok rendered ∧
        synthesize path banner = .ok rendered) ∨
      ∃ problem, (generate files banner path dryRun).result = .error (.problem problem) := by
  have hcourse := course_generate files banner path dryRun
  cases hresult : (generate files banner path dryRun).result with
  | ok rendered => exact Or.inl ⟨rendered, rfl, (files_of_course _ _ _ _ _ hcourse rendered hresult).1⟩
  | error failure =>
      rcases (failure_of_course _ _ _ _ _ hcourse failure hresult).2 with
        ⟨_, hfailure⟩ | ⟨_, rendered, error, hrendered, hsave, hfailure⟩
      · exact Or.inr ⟨_, congrArg Except.error hfailure⟩
      · have hproblem := writeFailure_eq_problem files files banner path rendered error hpath hworkdir hrendered hsave
        exact Or.inr ⟨_, congrArg Except.error (hfailure.trans hproblem)⟩

/-- A run succeeds in trees that are saved to alike, or in none of them. -/
theorem succeeds_congr (other : FileSystem) (h : files.Alike other) (hpath : '\x00' ∉ path.toList)
    (hworkdir : '\x00' ∉ files.workdirPath.toList) :
    succeeds other banner dryRun path = succeeds files banner dryRun path := by
  -- A dry run does not look at the tree. Any other run succeeds where there is an outcome.
  cases dryRun with
  | true => rw [succeeds, succeeds, (generate_dry other banner path).1, (generate_dry files banner path).1]
  | false =>
      have houtcome : ∀ tree : FileSystem, succeeds tree banner false path = (outcome tree banner path).isSome := by
        intro tree
        unfold succeeds outcome
        cases (generate tree banner path false).result <;> rfl
      rw [houtcome, houtcome, outcome_congr files other banner path h hpath hworkdir]

end

/-! ## Turns -/

section

variable (files : FileSystem) (banner : Banner) (dryRun : Bool) (path : String) (rest : List String)
  (h : ∀ failure, (generate files banner path dryRun).result = .error failure → failure.problem? ≠ none)
include h

/-- A batch with one more document in front is that document and the batch, unless the document ends it. -/
theorem files_generateAll_cons :
    (generateAll files banner dryRun (path :: rest)).files =
      (generateAll (generate files banner path dryRun).files banner dryRun rest).files := by
  simp only [generateAll_cons]
  cases hresult : (generate files banner path dryRun).result with
  | ok rendered => rfl
  | error failure =>
      cases hproblem : failure.problem? with
      | none => exact absurd hproblem (h failure hresult)
      | some problem => simp only [hproblem]

/-- A turn in the batch behind a document is the next turn in the batch with it. -/
theorem turn_succ (i : Nat) (other : String) :
    turn files banner dryRun (path :: rest) (i + 1) other =
      turn (generate files banner path dryRun).files banner dryRun rest i other := by
  have hfiles := files_generateAll_cons files banner dryRun path (rest.take i) h
  unfold turn
  rw [List.take_succ_cons, hfiles]

end

theorem filterMap_zipIdx_cons {α β : Type} (f : α × Nat → Option β) (x : α) (rest : List α) :
    (x :: rest).zipIdx.filterMap f =
      (f (x, 0)).toList ++ rest.zipIdx.filterMap (fun entry => f (entry.1, entry.2 + 1)) := by
  have hrest : (rest.zipIdx 1).filterMap f = rest.zipIdx.filterMap (fun entry => f (entry.1, entry.2 + 1)) := by
    rw [List.zipIdx_succ, List.filterMap_map]
    rfl
  rw [List.zipIdx_cons, List.filterMap_eq_flatMap_toList, List.flatMap_cons, ← List.filterMap_eq_flatMap_toList,
    hrest]

/-- A report collects the turns in their order: the files of those that return, and what is to be said about those
    that fail. There is a report unless a turn fails with something else than a problem. -/
theorem report_of_turns (files : FileSystem) (banner : Banner) (dryRun : Bool) (paths : List String)
    (hturns : ∀ i path, paths[i]? = some path → ∀ failure, turn files banner dryRun paths i path = .error failure →
      failure.problem? ≠ none) :
    ∃ report, (generateAll files banner dryRun paths).result = .ok report ∧
      report.generated = paths.zipIdx.filterMap
        (fun entry => (turn files banner dryRun paths entry.2 entry.1).toOption) ∧
      report.failures = paths.zipIdx.filterMap
        (fun entry => failureOf entry.1 (turn files banner dryRun paths entry.2 entry.1)) := by
  induction paths generalizing files with
  | nil => exact ⟨{}, rfl, rfl, rfl⟩
  | cons path rest ih =>
      have hfirst : turn files banner dryRun (path :: rest) 0 path = (generate files banner path dryRun).result := rfl
      have hgoes := hturns 0 path rfl
      rw [hfirst] at hgoes
      -- The first turn does not end the batch, so the other turns are those of the rest.
      have hothers : ∀ i other, turn files banner dryRun (path :: rest) (i + 1) other =
          turn (generate files banner path dryRun).files banner dryRun rest i other :=
        turn_succ files banner dryRun path rest hgoes
      have hrest : ∀ i other, rest[i]? = some other → ∀ failure,
          turn (generate files banner path dryRun).files banner dryRun rest i other = .error failure →
            failure.problem? ≠ none := by
        intro i other hother failure hfailure
        exact hturns (i + 1) other hother failure ((hothers i other).trans hfailure)
      rcases ih _ hrest with ⟨report, hreport, hgenerated, hfailures⟩
      cases hresult : (generate files banner path dryRun).result with
      | ok rendered =>
          refine ⟨{ report with generated := rendered :: report.generated }, ?_, ?_, ?_⟩
          · simp only [generateAll_cons, hresult, hreport, Except.map]
          · simp only [filterMap_zipIdx_cons, hothers, hfirst, hresult, Except.toOption, Option.toList_some,
              List.singleton_append, hgenerated]
          · simp only [filterMap_zipIdx_cons, hothers, hfirst, hresult, failureOf, Option.toList_none, List.nil_append,
              hfailures]
      | error failure =>
          rcases Option.ne_none_iff_exists'.mp (hgoes failure hresult) with ⟨problem, hproblem⟩
          refine ⟨{ report with failures := (path, problem.message) :: report.failures }, ?_, ?_, ?_⟩
          · simp only [generateAll_cons, hresult, hproblem, hreport, Except.map]
          · simp only [filterMap_zipIdx_cons, hothers, hfirst, hresult, Except.toOption, Option.toList_none,
              List.nil_append, hgenerated]
          · simp only [filterMap_zipIdx_cons, hothers, hfirst, hresult, failureOf, hproblem, Option.map_some,
              Option.toList_some, List.singleton_append, hfailures]

/-! ## Isolation -/

/-- What every run keeps is kept by a batch, however far the batch comes. -/
theorem generateAll_keeps (banner : Banner) (dryRun : Bool) (kept : FileSystem → Prop)
    (hrun : ∀ files path, kept files → kept (generate files banner path dryRun).files) (paths : List String)
    (files : FileSystem) (h : kept files) : kept (generateAll files banner dryRun paths).files := by
  induction paths generalizing files with
  | nil => exact h
  | cons path rest ih =>
      have hfirst := hrun files path h
      have hall := ih _ hfirst
      simp only [generateAll_cons]
      cases (generate files banner path dryRun).result with
      | ok rendered => exact hall
      | error failure =>
          -- The run that ends a batch has kept it too.
          cases hproblem : failure.problem? with
          | none =>
              simp only [hproblem]
              exact hfirst
          | some problem =>
              simp only [hproblem]
              exact hall

/-- The tree after a batch is saved to like the one before. -/
theorem alike_generateAll (start : FileSystem) (banner : Banner) (dryRun : Bool) (paths : List String) :
    start.Alike (generateAll start banner dryRun paths).files :=
  generateAll_keeps banner dryRun start.Alike
    (fun files path h => FileSystem.alike_trans start files _ h (alike_generate files banner path dryRun)) paths start
    (FileSystem.alike_refl start)

/-- The turn of a document ends like a run for it on its own. -/
theorem turn_cases (start : FileSystem) (banner : Banner) (dryRun : Bool) (paths : List String)
    (hpaths : ∀ path ∈ paths, '\x00' ∉ path.toList) (hworkdir : '\x00' ∉ start.workdirPath.toList) (i : Nat)
    (path : String) (hpath : paths[i]? = some path) :
    (∃ rendered, turn start banner dryRun paths i path = .ok rendered ∧
        (generate start banner path dryRun).result = .ok rendered ∧ synthesize path banner = .ok rendered) ∨
      ∃ problem problem', turn start banner dryRun paths i path = .error (.problem problem) ∧
        (generate start banner path dryRun).result = .error (.problem problem') := by
  have hnull := hpaths path (List.mem_of_getElem? hpath)
  have halike := alike_generateAll start banner dryRun (paths.take i)
  have hworkdir' : '\x00' ∉ (generateAll start banner dryRun (paths.take i)).files.workdirPath.toList := by
    rwa [FileSystem.workdirPath, halike.workdir]
  -- Success is the same in both trees, so it cannot be that one run returns and the other fails.
  have hsame := succeeds_congr start banner path dryRun _ halike hnull hworkdir
  unfold succeeds at hsame
  unfold turn
  rcases result_cases start banner path dryRun hnull hworkdir with ⟨rendered, hresult, hrendered⟩ | ⟨problem, hresult⟩
  · rcases result_cases _ banner path dryRun hnull hworkdir' with ⟨found, hturn, hfound⟩ | ⟨problem, hturn⟩
    · rw [hrendered, Except.ok.injEq] at hfound
      exact Or.inl ⟨rendered, hfound ▸ hturn, hresult, hrendered⟩
    · rw [hturn, hresult] at hsame
      exact Bool.noConfusion hsame
  · rcases result_cases _ banner path dryRun hnull hworkdir' with ⟨found, hturn, hfound⟩ | ⟨problem', hturn⟩
    · rw [hturn, hresult] at hsame
      exact Bool.noConfusion hsame
    · exact Or.inr ⟨problem', problem, hturn, hresult⟩

/-- No turn ends the batch if there is no null byte to end it. -/
theorem report_generateAll (start : FileSystem) (banner : Banner) (dryRun : Bool) (paths : List String)
    (hpaths : ∀ path ∈ paths, '\x00' ∉ path.toList) (hworkdir : '\x00' ∉ start.workdirPath.toList) :
    ∃ report, (generateAll start banner dryRun paths).result = .ok report ∧
      report.generated = paths.zipIdx.filterMap
        (fun entry => (turn start banner dryRun paths entry.2 entry.1).toOption) ∧
      report.failures = paths.zipIdx.filterMap
        (fun entry => failureOf entry.1 (turn start banner dryRun paths entry.2 entry.1)) := by
  refine report_of_turns start banner dryRun paths (fun i path hpath failure hfailure => ?_)
  rcases turn_cases start banner dryRun paths hpaths hworkdir i path hpath with
    ⟨_, hturn, _, _⟩ | ⟨problem, _, hturn, _⟩
  · rw [hturn] at hfailure
    simp only [reduceCtorEq] at hfailure
  · rw [hturn, Except.error.injEq] at hfailure
    rw [← hfailure]
    exact Option.some_ne_none problem

theorem filterMap_zipIdx_fst {α β : Type} (f : α → Option β) (xs : List α) :
    xs.zipIdx.filterMap (fun entry => f entry.1) = xs.filterMap f := by
  have hmap : (xs.zipIdx.map Prod.fst).filterMap f = xs.zipIdx.filterMap (fun entry => f entry.1) :=
    List.filterMap_map
  rw [← hmap, List.zipIdx_map_fst]

/-- The files of the documents that are generated on their own are what is synthesized for them. -/
theorem map_ok_filterMap_result (start : FileSystem) (banner : Banner) (dryRun : Bool) (paths : List String)
    (hpaths : ∀ path ∈ paths, '\x00' ∉ path.toList) (hworkdir : '\x00' ∉ start.workdirPath.toList) :
    (paths.filterMap (fun path => (generate start banner path dryRun).result.toOption)).map Except.ok =
      (paths.filter (succeeds start banner dryRun)).map (fun path => synthesize path banner) := by
  induction paths with
  | nil => rfl
  | cons path rest ih =>
      have hpath := hpaths path (List.mem_cons_self ..)
      -- Each document adds to both sides or to none.
      have hrest := ih (fun other hmem => hpaths other (List.mem_cons_of_mem path hmem))
      rcases result_cases start banner path dryRun hpath hworkdir with ⟨rendered, hresult, hrendered⟩ | ⟨_, hresult⟩
      · have hsucceeds : succeeds start banner dryRun path = true := by
          rw [succeeds, hresult]
          rfl
        have hsome : (generate start banner path dryRun).result.toOption = some rendered := by
          rw [hresult, Except.toOption]
        simp only [List.filterMap_cons, hsome, List.filter_cons_of_pos hsucceeds, List.map_cons, hrest, hrendered]
      · have hfails : ¬ succeeds start banner dryRun path = true := by
          rw [succeeds, hresult]
          exact Bool.false_ne_true
        have hnone : (generate start banner path dryRun).result.toOption = none := by
          rw [hresult, Except.toOption]
        simp only [List.filterMap_cons, hnone, List.filter_cons_of_neg hfails, hrest]

/-- A report splits a batch. A batch always comes to its end. In the order of the batch, its report has what is
    synthesized for the documents that are generated on their own, and names the others. Each document contributes at
    its turn, either its file or one failure with the reason at that turn; and whether the turn succeeds, and with
    which file, is as if the document were alone in the tree at the start. -/
theorem generateAll_isolated (start : FileSystem) (banner : Banner) (dryRun : Bool) (paths : List String)
    (hpaths : ∀ path ∈ paths, '\x00' ∉ path.toList) (hworkdir : ∀ name ∈ start.workdir, '\x00' ∉ name.toList) :
    ∃ report, (generateAll start banner dryRun paths).result = .ok report ∧
      report.generated.map Except.ok =
        (paths.filter (succeeds start banner dryRun)).map (fun path => synthesize path banner) ∧
      report.failures.map Prod.fst = paths.filter (fun path => !succeeds start banner dryRun path) ∧
      report.generated = paths.zipIdx.filterMap
        (fun entry => (turn start banner dryRun paths entry.2 entry.1).toOption) ∧
      report.failures = paths.zipIdx.filterMap
        (fun entry => failureOf entry.1 (turn start banner dryRun paths entry.2 entry.1)) ∧
      ∀ i path, paths[i]? = some path →
        (∃ rendered, turn start banner dryRun paths i path = .ok rendered ∧
          (generate start banner path dryRun).result = .ok rendered ∧ synthesize path banner = .ok rendered) ∨
        ∃ problem problem', turn start banner dryRun paths i path = .error (.problem problem) ∧
          (generate start banner path dryRun).result = .error (.problem problem') := by
  have hworkdirPath := FileSystem.nullByte_notMem_workdirPath start hworkdir
  have hturns := turn_cases start banner dryRun paths hpaths hworkdirPath
  rcases report_generateAll start banner dryRun paths hpaths hworkdirPath with
    ⟨report, hreport, hgenerated, hfailures⟩
  refine ⟨report, hreport, ?_, ?_, hgenerated, hfailures, hturns⟩
  · -- At every place of the batch the turn gives the file that a run on its own gives.
    have hsame : ∀ entry ∈ paths.zipIdx, (turn start banner dryRun paths entry.2 entry.1).toOption =
        (generate start banner entry.1 dryRun).result.toOption := by
      intro entry hmem
      rcases hturns entry.2 entry.1 (List.mk_mem_zipIdx_iff_getElem?.mp hmem) with
        ⟨rendered, hturn, hresult, _⟩ | ⟨_, _, hturn, hresult⟩
      · rw [hturn, hresult]
      · rw [hturn, hresult, Except.toOption, Except.toOption]
    rw [hgenerated, List.filterMap_congr hsame,
      filterMap_zipIdx_fst (fun path => (generate start banner path dryRun).result.toOption),
      map_ok_filterMap_result start banner dryRun paths hpaths hworkdirPath]
  · -- And it gives a failure with the path where such a run fails.
    have hsame : ∀ entry ∈ paths.zipIdx,
        (failureOf entry.1 (turn start banner dryRun paths entry.2 entry.1)).map Prod.fst =
          Option.guard (fun path => !succeeds start banner dryRun path) entry.1 := by
      intro entry hmem
      rcases hturns entry.2 entry.1 (List.mk_mem_zipIdx_iff_getElem?.mp hmem) with
        ⟨rendered, hturn, hresult, _⟩ | ⟨_, _, hturn, hresult⟩
      · rw [hturn, Option.guard, succeeds, hresult]
        rfl
      · rw [hturn, Option.guard, succeeds, hresult]
        rfl
    rw [hfailures, List.map_filterMap, List.filterMap_congr hsame,
      filterMap_zipIdx_fst (Option.guard fun path => !succeeds start banner dryRun path), List.filterMap_eq_filter]

/-- A tree with one directory for documents. -/
def plainTree : FileSystem where
  entries := [(["home"], .directory), (["home", "ui"], .directory)]
  workdir := ["home"]
  umask := 0o022

/-- Documents of which the second is looked for in what is generated for the first. -/
def crossedPaths : List String :=
  ["ui/Foo.uxml", "ui/Foo.g.cs/Bar.uxml", "ui/Baz.uxml"]

/-- The second document fails in any case, but for another reason when it is its turn. -/
theorem generateAll_crossedPaths :
    (∀ path ∈ crossedPaths, '\x00' ∉ path.toList) ∧ (∀ name ∈ plainTree.workdir, '\x00' ∉ name.toList) ∧
      (∃ report, (generateAll plainTree .standard false crossedPaths).result = .ok report ∧
        report.generated.map Except.ok = [synthesize "ui/Foo.uxml" .standard, synthesize "ui/Baz.uxml" .standard] ∧
        report.failures.map Prod.fst = ["ui/Foo.g.cs/Bar.uxml"]) ∧
      failureOf "ui/Foo.g.cs/Bar.uxml" (turn plainTree .standard false crossedPaths 1 "ui/Foo.g.cs/Bar.uxml") ≠
        failureOf "ui/Foo.g.cs/Bar.uxml" (generate plainTree .standard "ui/Foo.g.cs/Bar.uxml" false).result := by
  have hpaths : ∀ path ∈ crossedPaths, '\x00' ∉ path.toList := by decide
  have hworkdir : ∀ name ∈ plainTree.workdir, '\x00' ∉ name.toList := by decide
  have halone : succeeds plainTree .standard false "ui/Foo.uxml" = true ∧
      succeeds plainTree .standard false "ui/Foo.g.cs/Bar.uxml" = false ∧
      succeeds plainTree .standard false "ui/Baz.uxml" = true := by
    decide +kernel
  rcases halone with ⟨hfoo, hbar, hbaz⟩
  rcases generateAll_isolated plainTree .standard false crossedPaths hpaths hworkdir with
    ⟨report, hresult, hgenerated, hfailures, _⟩
  simp only [crossedPaths, List.filter_cons, hfoo, hbar, hbaz, Bool.false_eq_true, if_true, if_false,
    List.filter_nil, List.map_cons, List.map_nil] at hgenerated
  simp only [crossedPaths, List.filter_cons, hfoo, hbar, hbaz, Bool.not_true, Bool.not_false, Bool.false_eq_true,
    if_true, if_false, List.filter_nil] at hfailures
  exact ⟨hpaths, hworkdir, ⟨report, hresult, hgenerated, hfailures⟩, by decide +kernel⟩

end Generation

end CodeBehind
