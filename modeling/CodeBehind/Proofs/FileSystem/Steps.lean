import CodeBehind.FileSystem.Basic
import CodeBehind.Proofs.Path.Parts

/-!
# The steps of a path

How the steps of a path come about from those of its parts.

A path is split at its slashes and the empty pieces are dropped, so a slash can be put between two paths, or be
missing there, and the steps are those of the first and then those of the second. What is used of it are three
cases. A relative path joined to another one adds its steps, whatever the other looks like. A name is such a path and
adds itself; this holds of a name without a slash only, and of no empty one. And a path has the steps of its directory
and then its base name, because the slashes that the directory has lost add no step.

## Theorems

* `mem_pathNames`, `mem_pathSteps`: What the names and the steps of a path can be.
* `pathNames_append_slash`: The names before a slash and those after it.
* `pathNames_join_relative`: The names of a joined path.
* `pathNames_join`, `pathSteps_join`: A name joined to a directory is the last step.
* `pathNames_parts`: The names of a path are those of its directory and its base name.
-/

namespace CodeBehind

namespace FileSystem

theorem mem_pathNames (path name : String) (h : name ∈ pathNames path) : name ≠ "" ∧ '/' ∉ name.toList := by
  rcases List.mem_filter.mp h with ⟨hpiece, hne⟩
  rcases List.mem_map.mp hpiece with ⟨chars, hchars, rfl⟩
  refine ⟨of_decide_eq_true hne, ?_⟩
  rw [String.toList_ofList]
  exact Text.notMem_of_mem_splitOn '/' _ chars hchars

/-- The steps of a path are dots, or names without slashes. -/
theorem mem_pathSteps (path name : String) (h : name ∈ pathSteps path) :
    name = "." ∨ name ≠ "" ∧ '/' ∉ name.toList := by
  rw [pathSteps] at h
  split at h
  · rcases List.mem_append.mp h with hname | hdot
    · exact Or.inr (mem_pathNames path name hname)
    · exact Or.inl (List.mem_singleton.mp hdot)
  · exact Or.inr (mem_pathNames path name h)

/-- The names before a slash and those after it. -/
theorem pathNames_append_slash (base rest : List Char) :
    pathNames (String.ofList (base ++ '/' :: rest)) =
      pathNames (String.ofList base) ++ pathNames (String.ofList rest) := by
  simp only [pathNames, String.toList_ofList, List.splitOn_append_cons_self, List.map_append, List.filter_append]

/-- A slash at the end adds no name. -/
theorem pathNames_append_slash_nil (base : List Char) :
    pathNames (String.ofList (base ++ ['/'])) = pathNames (String.ofList base) := by
  rw [pathNames_append_slash]
  exact List.append_nil _

theorem pathNames_append_slashes (base : List Char) (n : Nat) :
    pathNames (String.ofList (base ++ List.replicate n '/')) = pathNames (String.ofList base) := by
  induction n with
  | zero => rw [List.replicate_zero, List.append_nil]
  | succ n ih => rw [List.replicate_succ', ← List.append_assoc, pathNames_append_slash_nil, ih]

/-- The names of a path are those of its directory and its base name, if it has one. -/
theorem pathNames_parts (path : String) :
    pathNames path = pathNames (Path.directory path) ++ pathNames (Path.baseName path) := by
  rcases Path.exists_parts path.toList with ⟨head, name, hpath, hhead, hname⟩
  rcases Path.exists_trimSlashes_append head with ⟨n, hslashes⟩
  -- The slashes that a directory has lost name nothing.
  have hdirectory : pathNames (Path.directory path) = pathNames (String.ofList head) := by
    rw [Path.directory, hpath, Path.directoryChars_append head name hhead hname,
      ← pathNames_append_slashes (Path.trimSlashes head) n, ← hslashes]
  have hwhole : path = String.ofList (head ++ name) := by
    rw [← hpath, String.ofList_toList]
  rw [hdirectory, Path.baseName, hpath, Path.baseNameChars_append head name hhead hname, hwhole]
  rcases hhead with hnil | hlast
  · rw [hnil]
    rfl
  · rcases List.getLast?_eq_some_iff.mp hlast with ⟨before, hbefore⟩
    rw [hbefore, pathNames_append_slash_nil, List.append_assoc, List.singleton_append, pathNames_append_slash]

/-- A text without a slash is one name. -/
theorem pathNames_of_slash_notMem (name : String) (hslash : '/' ∉ name.toList) (hne : name ≠ "") :
    pathNames name = [name] := by
  rw [pathNames, List.splitOn_eq_singleton hslash, List.map_singleton, String.ofList_toList,
    List.filter_cons_of_pos (by simpa only [decide_eq_true_eq] using hne), List.filter_nil]

/-- Joining puts a slash between two paths, or finds one there. -/
theorem pathNames_join_relative (base rest : String) (hrest : Path.isAbsolute rest = false) :
    pathNames (Path.join base rest) = pathNames base ++ pathNames rest := by
  have hhead : rest.toList.head? ≠ some '/' := beq_eq_false_iff_ne.mp hrest
  rw [Path.join]
  rcases Path.joinChars_cases base.toList rest.toList hhead with ⟨hbase, hjoin⟩ | ⟨_, _, hjoin⟩
  · rw [hjoin]
    rcases hbase with hnil | hlast
    · -- Nothing is put between an empty directory and a path.
      rw [hnil, List.nil_append, String.ofList_toList, String.toList_eq_nil_iff.mp hnil]
      rfl
    · -- The directory ends with a slash already.
      rcases List.getLast?_eq_some_iff.mp hlast with ⟨init, hinit⟩
      have hbaseNames : pathNames base = pathNames (String.ofList init) := by
        rw [← pathNames_append_slash_nil, ← hinit, String.ofList_toList]
      rw [hbaseNames, hinit, List.append_assoc, List.singleton_append, pathNames_append_slash, String.ofList_toList]
  · -- A slash is put between them.
    rw [hjoin, pathNames_append_slash, String.ofList_toList, String.ofList_toList]

theorem isAbsolute_of_slash_notMem (name : String) (hslash : '/' ∉ name.toList) : Path.isAbsolute name = false :=
  beq_eq_false_iff_ne.mpr (fun h => hslash (List.mem_of_head? h))

/-- A name joined to a directory adds itself. -/
theorem pathNames_join (base name : String) (hslash : '/' ∉ name.toList) (hne : name ≠ "") :
    pathNames (Path.join base name) = pathNames base ++ [name] := by
  rw [pathNames_join_relative base name (isAbsolute_of_slash_notMem name hslash),
    pathNames_of_slash_notMem name hslash hne]

/-- A joined path ends as the name does. -/
theorem getLast?_join (base name : String) (hslash : '/' ∉ name.toList) (hne : name ≠ "") :
    (Path.join base name).toList.getLast? = name.toList.getLast? := by
  have hchars : name.toList ≠ [] := fun h => hne (String.toList_eq_nil_iff.mp h)
  have hlast : name.toList.getLast? = some (name.toList.getLast hchars) := List.getLast?_eq_some_getLast hchars
  rcases Path.exists_joinChars base.toList name.toList hslash with ⟨head, hjoin, _⟩
  rw [Path.join, String.toList_ofList, hjoin, List.getLast?_append, hlast, Option.some_or]

/-- A name joined to a directory is the last step of the path. -/
theorem pathSteps_join (base name : String) (hslash : '/' ∉ name.toList) (hne : name ≠ "") :
    pathSteps (Path.join base name) = pathNames base ++ [name] := by
  have hend : ¬ (Path.join base name).toList.getLast? = some '/' := by
    rw [getLast?_join base name hslash hne]
    exact fun h => hslash (List.mem_of_getLast? h)
  rw [pathSteps, if_neg hend, pathNames_join base name hslash hne]

end FileSystem

end CodeBehind
