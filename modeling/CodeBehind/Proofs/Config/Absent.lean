import CodeBehind.Config.File
import CodeBehind.Proofs.Discovery.Sources

/-!
# Working directories without a configuration

What is loaded where no configuration file is.

The usual names are looked at one after the other. Where nothing is found under any of them, the last one is taken, is
missing, and stands for the defaults; or one of the paths cannot be looked at, which is a fault of that path. Either way
no file has been read.

None of the usual names is that of a generated file. So in a tree with the same sources the same is found, and what is
loaded is the same.

## Main definitions

* `Absent`: There is no configuration in the working directory.

## Theorems

* `discover_of_absent`, `load_of_absent`: What is found and loaded where there is no configuration.
* `isOutput_of_usualNames`: No usual name is that of a generated file.
* `absent_congr`, `load_congr`: Trees with the same sources.
-/

namespace CodeBehind

namespace Config

open FileSystem (isOutput pathSteps)

/-- No file with one of the usual names is in the working directory. -/
def Absent (files : FileSystem) : Prop :=
  ∀ name ∈ usualNames, files.pathExists (Path.below files.workdirPath [name]) = false

/-! ## Loading -/

/-- Where nothing is, a path is found to be free or cannot be looked at. -/
theorem find?_of_not_pathExists (files : FileSystem) (path : String) (h : files.pathExists path = false) :
    files.find? path = .ok none ∨ ∃ error, files.find? path = .error error := by
  cases hfound : files.find? path with
  | error error => exact Or.inr ⟨error, rfl⟩
  | ok found =>
      cases found with
      | none => exact Or.inl rfl
      | some entry =>
          -- Whatever is found there, the path leads to it.
          rcases (FileSystem.find?_eq_some_iff files path entry).mp hfound with ⟨place, hstat⟩
          rw [FileSystem.pathExists, hstat] at h
          exact Bool.noConfusion h

/-- A search that goes on where nothing is, and ends where a path cannot be looked at, comes to its end or to such a
    path. -/
theorem foldr_search_of_absent (files : FileSystem) (search : String → Except Failure String → Except Failure String)
    (hfree : ∀ file rest, files.find? file = .ok none → search file rest = rest)
    (hfault : ∀ file rest error, files.find? file = .error error → search file rest = .error (.file error))
    (candidates : List String) (last : String) (h : ∀ file ∈ candidates, files.pathExists file = false) :
    (candidates.foldr search (.ok last) = .ok last ∧ ∀ file ∈ candidates, files.find? file = .ok none) ∨
      ∃ error, candidates.foldr search (.ok last) = .error (.file error) := by
  induction candidates with
  | nil => exact Or.inl ⟨rfl, fun _ hmem => absurd hmem List.not_mem_nil⟩
  | cons file rest ih =>
      rw [List.foldr_cons]
      -- The search is a fold from the right, so the first name is looked at before the others.
      rcases find?_of_not_pathExists files file (h file (List.mem_cons_self ..)) with hfound | ⟨error, hfound⟩
      · rw [hfree file _ hfound]
        refine (ih (fun other hmem => h other (List.mem_cons_of_mem file hmem))).imp (fun hrest => ?_) id
        exact ⟨hrest.1, List.forall_mem_cons.mpr ⟨hfound, hrest.2⟩⟩
      · exact Or.inr ⟨error, hfault file _ error hfound⟩

/-- Without a configuration, a path is taken at which nothing is, or one of the paths cannot be looked at. -/
theorem discover_of_absent (files : FileSystem) (h : Absent files) :
    (∃ file, discover files = .ok file ∧ files.find? file = .ok none) ∨
      ∃ error, discover files = .error (.file error) := by
  have hcandidates : ∀ file ∈ usualNames.map (fun name => Path.below files.workdirPath [name]),
      files.pathExists file = false := by
    intro file hmem
    rcases List.mem_map.mp hmem with ⟨name, hname, rfl⟩
    exact h name hname
  have hlast : (usualNames.map fun name => Path.below files.workdirPath [name]).getLast?.getD "" ∈
      usualNames.map fun name => Path.below files.workdirPath [name] :=
    List.mem_of_getLast? rfl
  unfold discover
  refine (foldr_search_of_absent files _ ?_ ?_ _ _ hcandidates).imp (fun hend => ?_) id
  · exact fun file rest hfound => by simp only [hfound]
  · exact fun file rest error hfound => by simp only [hfound]
  · exact ⟨_, hend.1, hend.2 _ hlast⟩

/-- Without a configuration the defaults are loaded, with one record about it, or the search for one has failed. -/
theorem load_of_absent (files : FileSystem) (h : Absent files) :
    (∃ record file, load files none = ([record], .ok { file })) ∨
      ∃ error, discover files = .error (.file error) ∧ load files none = ([], .error (.file error)) := by
  rcases discover_of_absent files h with ⟨file, hfound, hfree⟩ | ⟨error, hfault⟩
  · exact Or.inl ⟨_, file, by simp only [load, chooseFile, hfound, hfree]; rfl⟩
  · exact Or.inr ⟨error, hfault, by simp only [load, chooseFile, hfault]⟩

/-! ## Trees with the same sources -/

/-- No usual name is that of a generated file. -/
theorem isOutput_of_usualNames (workdir name : String) (h : name ∈ usualNames) :
    isOutput (pathSteps (Path.below workdir [name])) = false := by
  -- The last letter is enough to tell them apart.
  have hlast : ∀ other ∈ usualNames, other.toList.getLast?.any (· ≠ 's') = true := by decide
  rcases (Option.any_eq_true _ _).mp (hlast name h) with ⟨c, hc, hne⟩
  have hend := Discovery.getLast?_below workdir [name] name c rfl hc
  rw [Bool.eq_false_iff]
  intro houtput
  rw [Document.getLast?_of_isOutput _ houtput, Option.some.injEq] at hend
  exact absurd hend.symm (of_decide_eq_true hne)

section

variable (files other : FileSystem) (h : files.SameSources other)
include h

theorem find?_usualNames_congr (name : String) (hname : name ∈ usualNames) :
    other.find? (Path.below other.workdirPath [name]) = files.find? (Path.below files.workdirPath [name]) := by
  rw [FileSystem.workdirPath_of_sameSources files other h]
  exact FileSystem.find?_congr files other h _ (isOutput_of_usualNames _ name hname)

theorem absent_congr (habsent : Absent files) : Absent other := by
  intro name hname
  rw [Bool.eq_false_iff]
  intro hthere
  -- The two trees need not agree on why nothing is found; so go through what is found.
  rcases FileSystem.stat_of_pathExists other _ hthere with ⟨⟨place, entry⟩, hstat⟩
  have hfound := (FileSystem.find?_eq_some_iff other _ entry).mpr ⟨place, hstat⟩
  rw [find?_usualNames_congr files other h name hname] at hfound
  rcases find?_of_not_pathExists files _ (habsent name hname) with hfree | ⟨error, hfault⟩
  · rw [hfree] at hfound
    simp only [Except.ok.injEq, reduceCtorEq] at hfound
  · rw [hfault] at hfound
    simp only [reduceCtorEq] at hfound

/-- The search goes the same way. -/
theorem discover_congr : discover other = discover files := by
  have hsearch : ∀ name ∈ usualNames, other.find? (Path.below files.workdirPath [name]) =
      files.find? (Path.below files.workdirPath [name]) := by
    intro name hname
    rw [← find?_usualNames_congr files other h name hname, FileSystem.workdirPath_of_sameSources files other h]
  unfold discover
  rw [FileSystem.workdirPath_of_sameSources files other h]
  refine List.foldr_ext _ _ _ (fun file hmem rest => ?_)
  rcases List.mem_map.mp hmem with ⟨name, hname, rfl⟩
  rw [hsearch name hname]

/-- What is loaded without a configuration is the same. -/
theorem load_congr (habsent : Absent files) : load other none = load files none := by
  have hsame := discover_congr files other h
  rcases discover_of_absent files habsent with ⟨file, hfound, hfree⟩ | ⟨error, hfault⟩
  · rcases discover_of_absent other (absent_congr files other h habsent) with
      ⟨file', hfound', hfree'⟩ | ⟨error, hfault'⟩
    · rw [hsame, hfound, Except.ok.injEq] at hfound'
      rw [← hfound'] at hfree'
      simp only [load, chooseFile, hsame, hfound, hfree, hfree']
    · rw [hsame, hfound] at hfault'
      simp only [reduceCtorEq] at hfault'
  · simp only [load, chooseFile, hsame, hfault]

end

end Config

end CodeBehind
