import CodeBehind.Path.Basic
import CodeBehind.Proofs.Text.Pieces
import Mathlib.Data.List.TakeWhile

/-!
# The two parts of a path

What a path is divided into, and that joining the parts undoes it.

A path is a head, which is empty or ends with a slash, and a name without slashes. There is one such division, so
whoever has a path in this form knows its base name (`baseNameChars_append`) and its directory
(`directoryChars_append`).

The directory is the head without the slashes at its end, as long as something is left. That makes two kinds of
directories, and a join treats them differently. One that was nothing but slashes is kept as it is and needs no slash
between itself and a name; any other does not end with a slash and needs one. Either way the head of the joined path
has the same directory again, because the slash that was put in is the one that is trimmed (`directoryChars_joinChars`).

## Main definitions

* `trimSlashes`: A head without the slashes at its end, unless it has nothing else.

## Theorems

* `takeWhile_ne_reverse`, `dropWhile_ne_reverse`: What a search from the end for a mark finds.
* `exists_parts`: Every path is a head and a name.
* `baseNameChars_append`, `directoryChars_append`: The parts of a path in this form.
* `eq_empty_or_getLast?`: A path without a base name.
* `trimSlashes_cases`: The two kinds of directories.
* `joinChars_cases`: Where a join puts a slash.
* `baseName_join`, `directory_join`: The parts of a joined path.
* `isAbsolute_join_directory`: A name in the directory of a path starts where the path does.
-/

namespace CodeBehind

namespace Path

/-! ## Searching from the end -/

section

variable (mark : Char) (before after : List Char)

theorem forall_ne_of_notMem (hafter : mark ∉ after) : ∀ c ∈ after.reverse, decide (c ≠ mark) = true := by
  intro c hc
  rw [decide_eq_true_eq]
  intro heq
  rw [heq] at hc
  exact hafter (List.mem_reverse.mp hc)

/-- Nothing is taken from a text that ends with the mark. -/
theorem takeWhile_ne_reverse_of_getLast? (hbefore : before = [] ∨ before.getLast? = some mark) :
    before.reverse.takeWhile (· ≠ mark) = [] := by
  rcases hbefore with hnil | hlast
  · rw [hnil]
    rfl
  · rcases List.getLast?_eq_some_iff.mp hlast with ⟨rest, hrest⟩
    rw [hrest, List.reverse_append, List.reverse_singleton, List.singleton_append, List.takeWhile_cons]
    simp only [ne_eq, not_true_eq_false, decide_false, Bool.false_eq_true, if_false]

/-- What follows the last mark is found from the end. -/
theorem takeWhile_ne_reverse (hbefore : before = [] ∨ before.getLast? = some mark) (hafter : mark ∉ after) :
    (before ++ after).reverse.takeWhile (· ≠ mark) = after.reverse := by
  rw [List.reverse_append, List.takeWhile_append_of_pos (forall_ne_of_notMem mark after hafter),
    takeWhile_ne_reverse_of_getLast? mark before hbefore, List.append_nil]

/-- What is left when everything behind the last mark is dropped ends with the mark. -/
theorem dropWhile_ne_reverse (hafter : mark ∉ after) :
    (before ++ mark :: after).reverse.dropWhile (· ≠ mark) = mark :: before.reverse := by
  rw [List.reverse_append, List.reverse_cons, List.append_assoc, List.singleton_append,
    List.dropWhile_append_of_pos (forall_ne_of_notMem mark after hafter), List.dropWhile_cons]
  simp only [ne_eq, not_true_eq_false, decide_false, Bool.false_eq_true, if_false]

end

/-! ## Head and name -/

/-- A path is a head, empty or with a slash at its end, and a name without slashes. -/
theorem exists_parts (path : List Char) :
    ∃ head name, path = head ++ name ∧ (head = [] ∨ head.getLast? = some '/') ∧ '/' ∉ name := by
  by_cases hslash : '/' ∈ path
  · rcases Text.exists_last_of_mem '/' path hslash with ⟨before, name, hpath, hname⟩
    refine ⟨before ++ ['/'], name, ?_, Or.inr List.getLast?_concat, hname⟩
    rw [hpath, List.append_assoc, List.singleton_append]
  · exact ⟨[], path, rfl, Or.inl rfl, hslash⟩

theorem baseNameChars_append (head name : List Char) (hhead : head = [] ∨ head.getLast? = some '/')
    (hname : '/' ∉ name) : baseNameChars (head ++ name) = name := by
  rw [baseNameChars, takeWhile_ne_reverse '/' head name hhead hname, List.reverse_reverse]

theorem headChars_append (head name : List Char) (hhead : head = [] ∨ head.getLast? = some '/')
    (hname : '/' ∉ name) : headChars (head ++ name) = head := by
  rw [headChars]
  rcases hhead with hnil | hlast
  · rw [hnil, List.nil_append, List.dropWhile_eq_nil_iff.mpr (forall_ne_of_notMem '/' name hname)]
    rfl
  · rcases List.getLast?_eq_some_iff.mp hlast with ⟨rest, hrest⟩
    rw [hrest, List.append_assoc, List.singleton_append, dropWhile_ne_reverse '/' rest name hname, List.reverse_cons,
      List.reverse_reverse]

/-- A path without a base name is empty or ends with a slash. -/
theorem eq_empty_or_getLast? (path : String) (h : baseName path = "") :
    path = "" ∨ path.toList.getLast? = some '/' := by
  rcases exists_parts path.toList with ⟨head, name, hpath, hhead, hname⟩
  rw [baseName, hpath, baseNameChars_append head name hhead hname] at h
  have hnil : name = [] := by
    rw [← String.toList_ofList (l := name), h]
    rfl
  rw [hnil, List.append_nil] at hpath
  rcases hhead with hempty | hslash
  · exact Or.inl (String.toList_eq_nil_iff.mp (hpath.trans hempty))
  · exact Or.inr (hpath ▸ hslash)

/-! ## Directories -/

/-- A head without the slashes at its end, unless it has nothing else. -/
def trimSlashes (head : List Char) : List Char :=
  if head.all (· = '/') then head else (head.reverse.dropWhile (· = '/')).reverse

/-- The directory of a path is its head without the slashes at the end. -/
theorem directoryChars_append (head name : List Char) (hhead : head = [] ∨ head.getLast? = some '/')
    (hname : '/' ∉ name) : directoryChars (head ++ name) = trimSlashes head := by
  rw [directoryChars, headChars_append head name hhead hname, trimSlashes]

/-- Trimming takes slashes away, and nothing before them. -/
theorem exists_trimSlashes_append (head : List Char) :
    ∃ n, head = trimSlashes head ++ List.replicate n '/' := by
  rw [trimSlashes]
  split
  · exact ⟨0, (List.append_nil head).symm⟩
  · refine ⟨(head.reverse.takeWhile (· = '/')).length, ?_⟩
    have hslash : ∀ c ∈ head.reverse.takeWhile (· = '/'), c = '/' := by
      intro c hc
      have hkept := List.mem_takeWhile_imp hc
      exact of_decide_eq_true hkept
    have hslashes := List.eq_replicate_iff.mpr ⟨rfl, hslash⟩
    rw [← List.reverse_replicate, ← hslashes, ← List.reverse_append, List.takeWhile_append_dropWhile,
      List.reverse_reverse]

/-- A directory is nothing but slashes, and then the whole head, or it is not empty and has none at its end. -/
theorem trimSlashes_cases (head : List Char) :
    ((∀ c ∈ head, c = '/') ∧ trimSlashes head = head) ∨
      (trimSlashes head ≠ [] ∧ (trimSlashes head).getLast? ≠ some '/') := by
  rw [trimSlashes]
  split
  · next hall =>
      exact Or.inl ⟨fun c hc => of_decide_eq_true (List.all_eq_true.mp hall c hc), rfl⟩
  · next hall =>
      refine Or.inr ⟨fun hnil => hall ?_, fun hlast => ?_⟩
      · rw [List.reverse_eq_nil_iff, List.dropWhile_eq_nil_iff] at hnil
        exact List.all_eq_true.mpr (fun c hc => hnil c (List.mem_reverse.mpr hc))
      · -- Trimming stops at a character that is no slash.
        have hstop := List.head?_dropWhile_not (fun c => decide (c = '/')) head.reverse
        rw [List.getLast?_reverse] at hlast
        rw [hlast] at hstop
        exact absurd hstop (by decide)

/-- What is trimmed stands at the end, so the first character stays. -/
theorem head?_trimSlashes (head : List Char) : (trimSlashes head).head? = head.head? := by
  rcases trimSlashes_cases head with ⟨_, hwhole⟩ | ⟨hne, _⟩
  · rw [hwhole]
  · rcases exists_trimSlashes_append head with ⟨n, hslashes⟩
    have hfirst := congrArg List.head? hslashes
    rw [List.head?_append, List.head?_eq_some_head hne, Option.some_or] at hfirst
    rw [hfirst, List.head?_eq_some_head hne]

/-- The slash behind a directory that has none at its end is trimmed again. -/
theorem trimSlashes_concat (directory : List Char) (hne : directory ≠ []) (hlast : directory.getLast? ≠ some '/') :
    trimSlashes (directory ++ ['/']) = directory := by
  rcases List.eq_nil_or_concat directory with hnil | ⟨before, c, hconcat⟩
  · exact absurd hnil hne
  · rw [List.concat_eq_append] at hconcat
    have hc : ¬ c = '/' := by
      rw [hconcat, List.getLast?_concat] at hlast
      exact fun heq => hlast (congrArg some heq)
    have hall : ¬ (directory ++ ['/']).all (· = '/') = true := by
      intro hall
      have hmem : c ∈ directory ++ ['/'] := by
        rw [hconcat]
        exact List.mem_append_left _ (List.mem_append_right _ (List.mem_singleton_self c))
      exact hc (of_decide_eq_true (List.all_eq_true.mp hall c hmem))
    rw [trimSlashes, if_neg hall, List.reverse_append, List.reverse_singleton, List.singleton_append,
      List.dropWhile_cons_of_pos (by decide), hconcat, List.reverse_append, List.reverse_singleton,
      List.singleton_append, List.dropWhile_cons_of_neg (by rw [decide_eq_true_eq]; exact hc), List.reverse_cons,
      List.reverse_reverse]

/-! ## Joined paths -/

/-- A relative path is put right behind an empty path or a slash, and behind a slash of its own otherwise. -/
theorem joinChars_cases (base rest : List Char) (hrest : rest.head? ≠ some '/') :
    ((base = [] ∨ base.getLast? = some '/') ∧ joinChars base rest = base ++ rest) ∨
      (base ≠ [] ∧ base.getLast? ≠ some '/' ∧ joinChars base rest = base ++ '/' :: rest) := by
  rw [joinChars, if_neg hrest]
  by_cases hnil : base = []
  · rw [hnil, List.isEmpty_nil, Bool.true_or, if_pos rfl]
    exact Or.inl ⟨Or.inl rfl, rfl⟩
  by_cases hlast : base.getLast? = some '/'
  · rw [hlast, decide_eq_true rfl, Bool.or_true, if_pos rfl]
    exact Or.inl ⟨Or.inr rfl, rfl⟩
  · rw [List.isEmpty_eq_false_iff.mpr hnil, decide_eq_false hlast, Bool.or_false, if_neg Bool.false_ne_true]
    exact Or.inr ⟨hnil, hlast, rfl⟩

/-- A joined path is a head and the name. The head is the directory, or the directory and a slash if that has none at
    its end. -/
theorem exists_joinChars (base name : List Char) (hname : '/' ∉ name) :
    ∃ head, joinChars base name = head ++ name ∧ (head = [] ∨ head.getLast? = some '/') ∧
      (head = base ∨ base ≠ [] ∧ base.getLast? ≠ some '/' ∧ head = base ++ ['/']) := by
  rcases joinChars_cases base name (fun hhead => hname (List.mem_of_head? hhead)) with ⟨hbase, hjoin⟩ |
    ⟨hnil, hlast, hjoin⟩
  · exact ⟨base, hjoin, hbase, Or.inl rfl⟩
  · refine ⟨base ++ ['/'], ?_, Or.inr List.getLast?_concat, Or.inr ⟨hnil, hlast, rfl⟩⟩
    rw [hjoin, List.append_assoc, List.singleton_append]

theorem baseName_join (base name : String) (hname : '/' ∉ name.toList) : baseName (join base name) = name := by
  rcases exists_joinChars base.toList name.toList hname with ⟨head, hjoin, hhead, _⟩
  rw [baseName, join, String.toList_ofList, hjoin, baseNameChars_append head _ hhead hname, String.ofList_toList]

/-- The directory of a path is the directory of every name that is joined to it. -/
theorem directory_join (path name : String) (hname : '/' ∉ name.toList) :
    directory (join (directory path) name) = directory path := by
  rcases exists_parts path.toList with ⟨front, last, hpath, hfront, hlast⟩
  rw [directory, directory, join, String.toList_ofList, String.toList_ofList, hpath,
    directoryChars_append front last hfront hlast]
  rcases exists_joinChars (trimSlashes front) name.toList hname with ⟨head, hjoin, hhead, hkind⟩
  rw [hjoin, directoryChars_append head _ hhead hname]
  rcases hkind with heq | ⟨hne, hends, heq⟩
  · -- The head is kept, so it is nothing but slashes.
    rcases trimSlashes_cases front with ⟨_, hwhole⟩ | ⟨hne, hends⟩
    · rw [heq, hwhole, hwhole]
    · rw [heq] at hhead
      rcases hhead with hnil | hslash
      · exact absurd hnil hne
      · exact absurd hslash hends
  · rw [heq, trimSlashes_concat _ hne hends]

/-- Whether a path starts at the root is seen at its head. -/
theorem head?_append_name (head name : List Char) (hname : '/' ∉ name) :
    ((head ++ name).head? == some '/') = (head.head? == some '/') := by
  cases head with
  | nil =>
      rw [List.nil_append, List.head?_nil, beq_eq_false_iff_ne.mpr (fun h => hname (List.mem_of_head? h))]
      rfl
  | cons c rest => rfl

/-- A name in the directory of a path starts where the path does: both at the root or neither. -/
theorem isAbsolute_join_directory (path name : String) (hname : '/' ∉ name.toList) :
    isAbsolute (join (directory path) name) = isAbsolute path := by
  rcases exists_parts path.toList with ⟨front, last, hpath, hfront, hlast⟩
  rcases exists_joinChars (trimSlashes front) name.toList hname with ⟨head, hjoin, _, hkind⟩
  have hstart : head.head? = front.head? := by
    rw [← head?_trimSlashes front]
    rcases hkind with heq | ⟨hne, _, heq⟩
    · rw [heq]
    · rw [heq, List.head?_append, List.head?_eq_some_head hne, Option.some_or]
  rw [isAbsolute, isAbsolute, join, directory, String.toList_ofList, String.toList_ofList, hpath,
    directoryChars_append front last hfront hlast, hjoin, head?_append_name head _ hname, hstart,
    head?_append_name front last hlast]

end Path

end CodeBehind
