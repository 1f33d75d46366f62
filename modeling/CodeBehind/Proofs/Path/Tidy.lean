import CodeBehind.Proofs.FileSystem.Tidy

/-!
# Tidy paths and joined paths

Tidying a path and taking it apart, or joining something to it, can be done in either order.

A tidy path is told by two things: how many slashes its path begins with, and the steps. Joining a relative path to
another one leaves the first as it is, whatever is put between the two, and adds to the second. So does taking the
directory of a path, where the base name is the step that is left out. Hence the tidy form of a joined path is put
together from the steps of both, and that is how a search shows what it has found below a directory
(`below_eq_tidy_join`). Nothing of the names that lead there is lost (`pathNames_below`).

In the other direction, a path put together from steps can be taken apart by hand. Its last step is its base name. What
comes before is nothing but the leading slashes, or it has a single slash at its end, and in both cases a join with the
directory puts back what the division has taken away (`join_directory_intercalate`).

## Main results

* `below_eq_tidy_join`: What is found below a directory is shown as the tidy form of the joined path.
* `join_directory_intercalate`: A name beside the last step of a path takes the place of that step.

## Theorems

* `root_append`, `root_join`, `root_directory`, `isAbsolute_join`: Leading slashes.
* `steps_join`, `steps_parts`: The steps of a joined path, and of the parts of a path.
* `tidy_of_steps`: The tidy form of a path with steps.
* `pathNames_below`: The names of what is found can be read off.
* `baseName_intercalate`: The last step of a path is its base name.
-/

namespace CodeBehind

namespace Path

/-! ## Leading slashes -/

/-- The leading slashes of a text are not touched by what comes later, unless that goes on with slashes and there is
    nothing else before. -/
theorem root_append (front rest : List Char) (h : (∃ c ∈ front, c ≠ '/') ∨ rest.head? ≠ some '/') :
    root (String.ofList (front ++ rest)) = root (String.ofList front) := by
  -- Only the number of slashes counts.
  have hlength : ((front ++ rest).takeWhile (· = '/')).length = (front.takeWhile (· = '/')).length := by
    rw [List.takeWhile_append]
    split
    · next hall =>
        -- Nothing but slashes in front, so none behind.
        have hrest : rest.takeWhile (· = '/') = [] := by
          rcases h with ⟨c, hc, hne⟩ | hhead
          · have hwhole := (List.takeWhile_prefix (· = '/')).eq_of_length hall
            rw [← hwhole] at hc
            have hslash := List.mem_takeWhile_imp hc
            exact absurd (of_decide_eq_true hslash) hne
          · cases rest with
            | nil => rfl
            | cons d later =>
                refine List.takeWhile_cons_of_neg (fun hd => hhead ?_)
                rw [List.head?_cons, of_decide_eq_true hd]
        rw [hrest, List.append_nil, hall]
    · rfl
  rw [root, root, String.toList_ofList, String.toList_ofList, hlength]

theorem exists_mem_ne_of_getLast? (front : List Char) (hne : front ≠ []) (hlast : front.getLast? ≠ some '/') :
    ∃ c ∈ front, c ≠ '/' := by
  refine ⟨front.getLast hne, List.getLast_mem hne, fun heq => hlast ?_⟩
  rw [List.getLast?_eq_some_getLast hne, heq]

/-- A joined path begins with the slashes of the first path. -/
theorem root_join (base rest : String) (hrest : isAbsolute rest = false) : root (join base rest) = root base := by
  have hhead : rest.toList.head? ≠ some '/' := beq_eq_false_iff_ne.mp hrest
  rw [join]
  rcases joinChars_cases base.toList rest.toList hhead with ⟨_, hjoin⟩ | ⟨hnil, hlast, hjoin⟩
  · rw [hjoin, root_append _ _ (Or.inr hhead), String.ofList_toList]
  · rw [hjoin, root_append _ _ (Or.inl (exists_mem_ne_of_getLast? _ hnil hlast)), String.ofList_toList]

/-- A joined path begins where the first path does. -/
theorem isAbsolute_join (base rest : String) (hrest : isAbsolute rest = false) :
    isAbsolute (join base rest) = isAbsolute base := by
  have hhead : rest.toList.head? ≠ some '/' := beq_eq_false_iff_ne.mp hrest
  rw [isAbsolute, isAbsolute, join, String.toList_ofList]
  by_cases hbase : base.toList = []
  · rw [hbase]
    rcases joinChars_cases [] rest.toList hhead with ⟨_, hjoin⟩ | ⟨hne, _⟩
    · rw [hjoin, List.nil_append]
      exact hrest
    · exact absurd rfl hne
  · -- Whatever is put behind it, the first character stays the first.
    have hfirst := List.head?_eq_some_head hbase
    rcases joinChars_cases base.toList rest.toList hhead with ⟨_, hjoin⟩ | ⟨_, _, hjoin⟩
    · rw [hjoin, List.head?_append, hfirst, Option.some_or]
    · rw [hjoin, List.head?_append, hfirst, Option.some_or]

/-- The directory of a path begins with the slashes of the path. -/
theorem root_directory (path : String) : root (directory path) = root path := by
  rcases exists_parts path.toList with ⟨head, name, hpath, hhead, hname⟩
  have hslash : name.head? ≠ some '/' := fun h => hname (List.mem_of_head? h)
  have hwhole : path = String.ofList (head ++ name) := by rw [← hpath, String.ofList_toList]
  have hhead' : root (String.ofList (trimSlashes head)) = root (String.ofList head) := by
    rcases trimSlashes_cases head with ⟨_, hkept⟩ | ⟨hne, hlast⟩
    · rw [hkept]
    · rcases exists_trimSlashes_append head with ⟨n, hslashes⟩
      have happend := root_append (trimSlashes head) (List.replicate n '/')
        (Or.inl (exists_mem_ne_of_getLast? _ hne hlast))
      rw [← hslashes] at happend
      exact happend.symm
  rw [directory, hpath, directoryChars_append head name hhead hname, hhead', hwhole,
    root_append head name (Or.inr hslash)]

/-! ## Steps -/

/-- The steps of a joined path are those of the first path and then those of the second. -/
theorem steps_join (base rest : String) (hrest : isAbsolute rest = false) :
    steps (join base rest) = steps base ++ steps rest := by
  rw [FileSystem.steps_eq, FileSystem.steps_eq, FileSystem.steps_eq, FileSystem.pathNames_join_relative base rest hrest,
    List.filter_append]

theorem forall_mem_steps (path : String) : ∀ name ∈ steps path, '/' ∉ name.toList ∧ name ≠ "" := by
  intro name hname
  rcases FileSystem.slash_notMem_of_mem_steps path name hname with ⟨hslash, hne, _⟩
  exact ⟨hslash, hne⟩

/-- Proper names put together with slashes are the steps of the path. -/
theorem steps_intercalate (names : List String)
    (hnames : ∀ name ∈ names, '/' ∉ name.toList ∧ name ≠ "" ∧ name ≠ ".") : steps ("/".intercalate names) = names := by
  rw [FileSystem.steps_eq,
    FileSystem.pathNames_intercalate names (fun name hname => ⟨(hnames name hname).1, (hnames name hname).2.1⟩),
    List.filter_eq_self]
  intro name hname
  exact decide_eq_true (hnames name hname).2.2

/-- A name that is no dot is one step. -/
theorem steps_of_slash_notMem (name : String) (hslash : '/' ∉ name.toList) (hempty : name ≠ "") (hdot : name ≠ ".") :
    steps name = [name] := by
  rw [FileSystem.steps_eq, FileSystem.pathNames_of_slash_notMem name hslash hempty,
    List.filter_cons_of_pos (by simpa only [decide_eq_true_eq] using hdot), List.filter_nil]

theorem slash_notMem_baseName (path : String) : '/' ∉ (baseName path).toList := by
  rcases exists_parts path.toList with ⟨head, name, hpath, hhead, hname⟩
  rw [baseName, String.toList_ofList, hpath, baseNameChars_append head name hhead hname]
  exact hname

/-- The base name of a path, if it is a step, is the last one. -/
theorem steps_parts (path : String) (hempty : baseName path ≠ "") (hdot : baseName path ≠ ".") :
    steps path = steps (directory path) ++ [baseName path] := by
  rw [← steps_of_slash_notMem _ (slash_notMem_baseName path) hempty hdot, FileSystem.steps_eq, FileSystem.steps_eq,
    FileSystem.steps_eq, ← List.filter_append, ← FileSystem.pathNames_parts]

/-! ## Tidy forms -/

/-- The tidy form of a path with steps. -/
theorem tidy_of_steps (path : String) (h : steps path ≠ []) :
    tidy path = root path ++ "/".intercalate (steps path) := by
  rcases FileSystem.tidy_cases path with ⟨_, hnone, _⟩ | ⟨htidy, _⟩
  · exact absurd hnone h
  · exact htidy

/-- A relative path put together from names. -/
theorem isAbsolute_intercalate (names : List String) (hnames : ∀ name ∈ names, '/' ∉ name.toList ∧ name ≠ "") :
    isAbsolute ("/".intercalate names) = false := by
  cases names with
  | nil => rfl
  | cons name rest =>
      rcases hnames name (List.mem_cons_self ..) with ⟨hslash, hne⟩
      have hchars : name.toList ≠ [] := fun h => hne (String.toList_eq_nil_iff.mp h)
      have hfirst : ("/".intercalate (name :: rest)).toList.head? = name.toList.head? := by
        rw [String.toList_intercalate, List.map_cons]
        by_cases hrest : rest.map String.toList = []
        · rw [hrest, List.intercalate_singleton]
        · rw [List.intercalate_cons_of_ne_nil hrest, List.append_assoc, List.head?_append,
            List.head?_eq_some_head hchars, Option.some_or]
      rw [isAbsolute, hfirst]
      exact FileSystem.isAbsolute_of_slash_notMem name hslash

/-- What is found below a directory is shown as the tidy form of the joined path. -/
theorem below_eq_tidy_join (base : String) (names : List String)
    (hnames : ∀ name ∈ names, '/' ∉ name.toList ∧ name ≠ "" ∧ name ≠ ".") :
    below base names = tidy (join base ("/".intercalate names)) := by
  have hrest := isAbsolute_intercalate names (fun name hname => ⟨(hnames name hname).1, (hnames name hname).2.1⟩)
  rw [below, tidy, root_join base _ hrest, steps_join base _ hrest, steps_intercalate names hnames]

/-- What is found below a directory keeps its names in the path that is shown. -/
theorem pathNames_below (base : String) (names : List String) (hne : names ≠ [])
    (hnames : ∀ name ∈ names, '/' ∉ name.toList ∧ name ≠ "") :
    FileSystem.pathNames (below base names) = steps base ++ names := by
  have hall : ∀ name ∈ steps base ++ names, '/' ∉ name.toList ∧ name ≠ "" :=
    List.forall_mem_append.mpr ⟨forall_mem_steps base, hnames⟩
  have hwhole := FileSystem.pathNames_root_append base ("/".intercalate (steps base ++ names))
  rw [FileSystem.pathNames_intercalate _ hall] at hwhole
  rw [below]
  split
  · next hempty =>
      rw [hempty] at hwhole
      exact absurd hwhole.symm (List.append_ne_nil_of_right_ne_nil _ hne)
  · exact hwhole

/-! ## Taking a tidy path apart -/

/-- A directory of slashes only is kept, and a name is put right behind it. -/
theorem joinChars_trimSlashes_root (base : String) (name : List Char) (hname : '/' ∉ name) :
    joinChars (trimSlashes (root base).toList) name = (root base).toList ++ name := by
  have hhead : ¬ name.head? = some '/' := fun h => hname (List.mem_of_head? h)
  rw [joinChars, if_neg hhead]
  rcases FileSystem.root_cases base with ⟨heq, _⟩ | ⟨heq | heq, _⟩
  · rw [heq]
    rfl
  · rw [heq]
    rfl
  · rw [heq]
    rfl

theorem getLast?_root (base : String) : (root base).toList = [] ∨ (root base).toList.getLast? = some '/' := by
  rcases FileSystem.root_cases base with ⟨heq, _⟩ | ⟨heq | heq, _⟩
  · exact Or.inl (congrArg String.toList heq)
  · rw [heq]
    exact Or.inr rfl
  · rw [heq]
    exact Or.inr rfl

/-- What comes before the last step of a path put together from names. A join of its directory with a name puts back
    the slash that the directory has lost. -/
theorem exists_head_intercalate (base : String) (names : List String)
    (hnames : ∀ name ∈ names, '/' ∉ name.toList ∧ name ≠ "") :
    ∃ head, (head = [] ∨ head.getLast? = some '/') ∧
      (∀ name, (root base ++ "/".intercalate (names ++ [name])).toList = head ++ name.toList) ∧
      ∀ name, '/' ∉ name → joinChars (trimSlashes head) name = head ++ name := by
  by_cases hnil : names = []
  · -- The last step is the only one.
    refine ⟨(root base).toList, getLast?_root base, fun name => ?_, joinChars_trimSlashes_root base⟩
    rw [hnil, List.nil_append, String.intercalate_singleton, String.toList_append]
  · have hmap : names.map String.toList ≠ [] := fun h => hnil (List.map_eq_nil_iff.mp h)
    have hpieces : ∀ piece ∈ names.map String.toList, piece ≠ [] ∧ '/' ∉ piece := by
      intro piece hpiece
      rcases List.mem_map.mp hpiece with ⟨name, hname, rfl⟩
      exact ⟨fun h => (hnames name hname).2 (String.toList_eq_nil_iff.mp h), (hnames name hname).1⟩
    -- What is before the slash does not end with one itself, so it is the directory.
    rcases Text.getLast?_intercalate_ne '/' _ hmap hpieces with ⟨c, hc, hne⟩
    have hlast : (root base ++ "/".intercalate names).toList.getLast? = some c := by
      refine Text.getLast?_append _ _ c ?_
      rw [String.toList_intercalate]
      exact hc
    have hdirectory : (root base ++ "/".intercalate names).toList ≠ [] := by
      intro h
      rw [h] at hlast
      exact absurd hlast.symm (Option.some_ne_none c)
    have hslash : (root base ++ "/".intercalate names).toList.getLast? ≠ some '/' := by
      rw [hlast]
      exact fun heq => hne (Option.some.inj heq)
    refine ⟨(root base ++ "/".intercalate names).toList ++ ['/'], Or.inr List.getLast?_concat, fun name => ?_,
      fun name hname => ?_⟩
    · rw [String.intercalate_append_of_ne_nil hnil (List.cons_ne_nil name []), String.intercalate_singleton,
        String.toList_append, String.toList_append, String.toList_append, String.toList_append, List.append_assoc,
        List.append_assoc, List.append_assoc]
      rfl
    · have hhead : name.head? ≠ some '/' := fun h => hname (List.mem_of_head? h)
      rw [trimSlashes_concat _ hdirectory hslash, List.append_assoc, List.singleton_append]
      rcases joinChars_cases _ name hhead with ⟨hends, _⟩ | ⟨_, _, hjoin⟩
      · exact absurd hends (not_or_intro hdirectory hslash)
      · exact hjoin

/-- The last step of a path is its base name. -/
theorem baseName_intercalate (base : String) (names : List String) (last : String)
    (hnames : ∀ name ∈ names, '/' ∉ name.toList ∧ name ≠ "") (hlast : '/' ∉ last.toList) :
    baseName (root base ++ "/".intercalate (names ++ [last])) = last := by
  rcases exists_head_intercalate base names hnames with ⟨head, hhead, hchars, _⟩
  rw [baseName, hchars, baseNameChars_append head _ hhead hlast, String.ofList_toList]

/-- A name in the directory of a path takes the place of the last step. -/
theorem join_directory_intercalate (base : String) (names : List String) (last name : String)
    (hnames : ∀ name ∈ names, '/' ∉ name.toList ∧ name ≠ "") (hlast : '/' ∉ last.toList) (hname : '/' ∉ name.toList) :
    join (directory (root base ++ "/".intercalate (names ++ [last]))) name =
      root base ++ "/".intercalate (names ++ [name]) := by
  rcases exists_head_intercalate base names hnames with ⟨head, hhead, hchars, hjoin⟩
  rw [join, directory, hchars, String.toList_ofList, directoryChars_append head _ hhead hlast, hjoin _ hname, ← hchars,
    String.ofList_toList]

end Path

end CodeBehind
