import CodeBehind.FileSystem.Save
import CodeBehind.Proofs.FileSystem.Steps
import CodeBehind.Proofs.FileSystem.Walk

/-!
# Scratch files

What is known of a scratch file: it lies at a free place, and its name is one that the target does not mention.

The first fact makes a scratch file easy to undo, and the second keeps it out of the way of the target path. A
scratch file can be had whenever its directory can be entered. There are infinitely many names, and the search
goes through one more of them than could be in use, so it stops at a free one by counting alone
(`exists_free_scratchName`). Hence the search never fails for want of names (`exists_scratchPath?`).

## Theorems

* `scratchName_injective`: Different numbers give different names.
* `exists_free_scratchName`: In every directory one of the names is free.
* `exists_scratchPath?`: There is always a path to try.
* `createScratch_eq_ok`: What a scratch file is like that has been created.
-/

namespace CodeBehind

namespace FileSystem

/-- The digits in the name of a scratch file, padded with zeros. -/
def scratchDigits (n : Nat) : List Char :=
  List.replicate (8 - (Nat.toDigits 10 n).length) '0' ++ Nat.toDigits 10 n

theorem toList_scratchName (n : Nat) :
    (scratchName n).toList = ".rosalina-".toList ++ scratchDigits n ++ ".tmp".toList := by
  simp only [scratchName, scratchDigits, String.toList_append, String.toList_ofList]

/-- Leading zeros do not change the number that digits stand for. -/
theorem ofDigitChars_replicate_zero (count : Nat) (digits : List Char) :
    Nat.ofDigitChars 10 (List.replicate count '0' ++ digits) 0 = Nat.ofDigitChars 10 digits 0 := by
  induction count with
  | zero => rfl
  | succ k ih => rw [List.replicate_succ, List.cons_append, Nat.ofDigitChars_cons]; exact ih

theorem ofDigitChars_scratchDigits (n : Nat) : Nat.ofDigitChars 10 (scratchDigits n) 0 = n := by
  rw [scratchDigits, ofDigitChars_replicate_zero, Nat.ofDigitChars_ten_toDigits]

theorem scratchName_injective (m n : Nat) (h : scratchName m = scratchName n) : m = n := by
  have hchars : (scratchName m).toList = (scratchName n).toList := by rw [h]
  rw [toList_scratchName, toList_scratchName, List.append_left_inj, List.append_right_inj] at hchars
  rw [← ofDigitChars_scratchDigits m, hchars, ofDigitChars_scratchDigits]

theorem isDigit_of_mem_scratchDigits (n : Nat) (c : Char) (h : c ∈ scratchDigits n) : c.isDigit = true := by
  rcases List.mem_append.mp h with hzero | hdigit
  · rw [List.eq_of_mem_replicate hzero]
    decide
  · exact Nat.isDigit_of_mem_toDigits (by decide) (by decide) hdigit

/-- A character that is no digit and in neither end of the name is not in the name of a scratch file. -/
theorem notMem_scratchName (n : Nat) (c : Char) (hbegin : c ∉ ".rosalina-".toList) (hdigit : c.isDigit = false)
    (hend : c ∉ ".tmp".toList) : c ∉ (scratchName n).toList := by
  rw [toList_scratchName, List.mem_append, List.mem_append, not_or, not_or]
  refine ⟨⟨hbegin, fun hmem => ?_⟩, hend⟩
  rw [isDigit_of_mem_scratchDigits n c hmem] at hdigit
  exact Bool.noConfusion hdigit

/-- The name of a scratch file is a single step. -/
theorem slash_notMem_scratchName (n : Nat) : '/' ∉ (scratchName n).toList :=
  notMem_scratchName n '/' (by decide) (by decide) (by decide)

theorem scratchName_ne_empty (n : Nat) : scratchName n ≠ "" := by
  intro h
  have hchars : (scratchName n).toList = [] := by rw [h, String.toList_empty]
  rw [toList_scratchName] at hchars
  simp only [List.append_eq_nil_iff] at hchars
  exact absurd hchars.2 (by decide)

/-- The name of a scratch file is neither dot. -/
theorem scratchName_ne_dots (n : Nat) : scratchName n ≠ "." ∧ scratchName n ≠ ".." := by
  have hmem : 'r' ∈ (scratchName n).toList := by
    rw [toList_scratchName]
    exact List.mem_append_left _ (List.mem_append_left _ (by decide))
  refine ⟨fun h => ?_, fun h => ?_⟩
  · rw [h] at hmem
    exact absurd hmem (by decide)
  · rw [h] at hmem
    exact absurd hmem (by decide)

theorem mem_scratchNames (files : FileSystem) (target name : String) :
    name ∈ files.scratchNames target ↔
      (∃ n, n < files.entries.length + (pathSteps target).length + 1 ∧ scratchName n = name) ∧
        name ∉ pathSteps target := by
  simp only [scratchNames, List.mem_filter, List.mem_map, List.mem_range, Bool.not_eq_eq_eq_not, Bool.not_true,
    List.contains_eq_mem, decide_eq_false_iff_not]

/-- In every directory one of the names is free: each of the others is a step of the target or the last name
    of an entry, and there are more names than those. -/
theorem exists_free_scratchName (files : FileSystem) (target : String) (directory : Place) :
    ∃ name ∈ files.scratchNames target, files.get? (directory ++ [name]) = none := by
  -- If none were free, all names to try would be in use, and there are more of them than that.
  refine Classical.byContradiction (fun hnone => ?_)
  have hall : ∀ name ∈ files.scratchNames target, files.get? (directory ++ [name]) ≠ none :=
    fun name hname hfree => hnone ⟨name, hname, hfree⟩
  -- A name in use is a step of the target or the last name of an entry.
  let count := files.entries.length + (pathSteps target).length + 1
  let names := (List.range count).map scratchName
  let taken := pathSteps target ++ files.entries.map fun e => e.1.getLast?.getD ""
  have hnodup : names.Nodup := by
    refine List.pairwise_map.mpr (List.nodup_range.imp (fun hne heq => ?_))
    exact hne (scratchName_injective _ _ heq)
  have hsub : names ⊆ taken := by
    intro name hname
    rcases List.mem_map.mp hname with ⟨n, hn, rfl⟩
    by_cases hstep : scratchName n ∈ pathSteps target
    · exact List.mem_append_left _ hstep
    · -- The name is tried, so an entry has it in this directory.
      have hmem := (mem_scratchNames files target (scratchName n)).mpr ⟨⟨n, List.mem_range.mp hn, rfl⟩, hstep⟩
      have hentry := hall _ hmem
      rw [get?_of_ne_nil _ _ (List.concat_ne_nil _ _)] at hentry
      rcases Option.ne_none_iff_exists'.mp hentry with ⟨entry, hlookup⟩
      refine List.mem_append_right _ (List.mem_map.mpr ⟨(directory ++ [scratchName n], entry), ?_, ?_⟩)
      · rcases List.lookup_eq_some_iff.mp hlookup with ⟨front, back, hentries, _⟩
        rw [hentries]
        exact List.mem_append_right _ (List.mem_cons_self ..)
      · simp only [List.getLast?_concat, Option.getD_some]
  have hlength := hnodup.length_le_of_subset hsub
  simp only [names, taken, count, List.length_map, List.length_range, List.length_append] at hlength
  omega

/-- The name of a scratch file is the last step of its path. -/
theorem pathSteps_join_scratchName (directory : String) (n : Nat) :
    pathSteps (Path.join directory (scratchName n)) = pathNames directory ++ [scratchName n] :=
  pathSteps_join directory (scratchName n) (slash_notMem_scratchName n) (scratchName_ne_empty n)

/-- A path to a scratch name exists if it leads to a place that is taken. -/
theorem pathExists_iff (files : FileSystem) (directory : String) (n : Nat) :
    files.pathExists (Path.join directory (scratchName n)) = true ↔
      ∃ place, files.LeadsTo (Path.join directory (scratchName n)) place ∧ files.get? place ≠ none := by
  rcases scratchName_ne_dots n with ⟨hdot, hup⟩
  constructor
  · intro h
    -- Of all that can go wrong on the way, nothing does: the path is sound, its directory is there, and the name fits.
    cases hfault : pathFault? (Path.join directory (scratchName n)) with
    | some fault =>
        simp only [pathExists, stat, follow, hfault, Except.toOption, Option.isSome_none, Bool.false_eq_true] at h
    | none =>
        simp only [pathExists, stat, follow, hfault, pathSteps_join_scratchName,
          walk_append files _ (pathNames directory) [scratchName n] (List.cons_ne_nil _ _)] at h
        cases henter : files.enter (files.base (Path.join directory (scratchName n))) (pathNames directory) with
        | error fault => simp only [henter, Except.toOption, Option.isSome_none, Bool.false_eq_true] at h
        | ok above =>
            simp only [henter] at h
            by_cases hlong : nameLimit < (scratchName n).utf8ByteSize
            · simp only [walk, if_neg hdot, if_neg hup, if_pos hlong, Except.toOption, Option.isSome_none,
                Bool.false_eq_true] at h
            · have hname : IsEntryName (scratchName n) := ⟨hdot, hup, by omega⟩
              refine ⟨above ++ [scratchName n], ⟨hfault, _, _, above, pathSteps_join_scratchName directory n, henter,
                hname, rfl⟩, fun hfree => ?_⟩
              simp only [walk_name files above _ hname, destination, hfree, Except.toOption, Option.isSome_none,
                Bool.false_eq_true] at h
  · rintro ⟨place, hleads, htaken⟩
    have hfollow := follow_of_leadsTo files _ place hleads
    rcases Option.ne_none_iff_exists'.mp htaken with ⟨entry, hentry⟩
    rw [destination, hentry] at hfollow
    simp only [pathExists, stat, hfollow, Except.toOption, Option.isSome_some]

/-- A path to a name that is free in its directory leads to nothing, also if there is no such directory. -/
theorem pathExists_join_scratchName (files : FileSystem) (directory : String) (n : Nat)
    (h : ∀ place, files.enter (files.base (Path.join directory (scratchName n))) (pathNames directory) = .ok place →
      files.get? (place ++ [scratchName n]) = none) :
    files.pathExists (Path.join directory (scratchName n)) = false := by
  refine Bool.eq_false_iff.mpr (fun hexists => ?_)
  rcases (pathExists_iff files directory n).mp hexists with
    ⟨place, ⟨_, before, name, above, hsteps, henter, _, rfl⟩, htaken⟩
  rw [pathSteps_join_scratchName] at hsteps
  rcases List.append_inj' hsteps rfl with ⟨hbefore, hname⟩
  rw [← hbefore] at henter
  rw [← hname] at htaken
  exact htaken (h above henter)

/-- The paths of the scratch files for a target are followed from the same place. -/
theorem base_join_scratchName (files : FileSystem) (directory : String) (m n : Nat) :
    files.base (Path.join directory (scratchName m)) = files.base (Path.join directory (scratchName n)) := by
  -- A path is absolute if the directory it begins with is, since no name begins with a slash.
  have hhead : ∀ k, Path.isAbsolute (Path.join directory (scratchName k)) = Path.isAbsolute directory := by
    intro k
    have hne : (scratchName k).toList ≠ [] := fun h => scratchName_ne_empty k (String.toList_eq_nil_iff.mp h)
    have hslash : ¬ (scratchName k).toList.head? = some '/' :=
      fun h => slash_notMem_scratchName k (List.mem_of_head? h)
    simp only [Path.isAbsolute, Path.join, Path.joinChars, String.toList_ofList, if_neg hslash]
    cases hchars : directory.toList with
    | nil =>
        simp only [List.isEmpty_nil, Bool.true_or, if_true, List.nil_append, List.head?_nil, beq_false_of_ne hslash]
        rfl
    | cons c rest => split <;> rfl
  rw [base, base, hhead m, hhead n]

/-- There is always a path to try. -/
theorem exists_scratchPath? (files : FileSystem) (target : String) :
    ∃ n, scratchName n ∈ files.scratchNames target ∧
      files.scratchPath? target = some (Path.join (files.scratchDirectory target) (scratchName n)) := by
  let directory := files.scratchDirectory target
  have hfree : ∃ name ∈ files.scratchNames target, files.pathExists (Path.join directory name) = false := by
    rcases exists_free_scratchName files target [] with ⟨first, hfirst, _⟩
    rcases ((mem_scratchNames files target first).mp hfirst).1 with ⟨m, _, rfl⟩
    -- Where there is no directory to enter, every name is free.
    cases henter : files.enter (files.base (Path.join directory (scratchName m))) (pathNames directory) with
    | error fault =>
        refine ⟨scratchName m, hfirst, pathExists_join_scratchName files directory m (fun place hplace => ?_)⟩
        rw [henter] at hplace
        simp only [reduceCtorEq] at hplace
    | ok place =>
        rcases exists_free_scratchName files target place with ⟨name, hname, hnone⟩
        rcases ((mem_scratchNames files target name).mp hname).1 with ⟨n, _, rfl⟩
        refine ⟨scratchName n, hname, pathExists_join_scratchName files directory n (fun other hother => ?_)⟩
        rw [base_join_scratchName files directory n m, henter, Except.ok.injEq] at hother
        rw [← hother]
        exact hnone
  rcases hfree with ⟨name, hname, hpath⟩
  have hsome : (files.scratchPath? target).isSome := by
    refine List.find?_isSome.mpr ⟨_, List.mem_map_of_mem hname, ?_⟩
    rw [hpath, Bool.not_false]
  rcases Option.isSome_iff_exists.mp hsome with ⟨path, hfound⟩
  rcases List.mem_map.mp (List.mem_of_find?_eq_some hfound) with ⟨found, hmem, rfl⟩
  rcases ((mem_scratchNames files target found).mp hmem).1 with ⟨n, _, rfl⟩
  exact ⟨n, hmem, hfound⟩

/-- A created file lies where nothing was. -/
theorem createFile_eq_ok (files created : FileSystem) (path : String) (mode : Nat) (place : Place)
    (h : files.createFile path mode = .ok (place, created)) :
    files.LeadsTo path place ∧ files.get? place = none ∧ created = files.set place (.file .empty mode) := by
  cases hfollow : files.follow path with
  | error fault => simp only [createFile, hfollow, reduceCtorEq] at h
  | ok reached =>
      cases reached with
      | entry _ _ => simp only [createFile, hfollow, reduceCtorEq] at h
      | free found =>
          simp only [createFile, hfollow, Except.ok.injEq, Prod.mk.injEq] at h
          rcases h with ⟨rfl, rfl⟩
          rcases leadsTo_of_follow_free files path found hfollow with ⟨hleads, hfree⟩
          exact ⟨hleads, hfree, rfl⟩

/-- A scratch file lies where nothing was, under a name that is no step of the target. -/
theorem createScratch_eq_ok (files created : FileSystem) (target path : String) (place : Place)
    (h : files.createScratch target = .ok (path, place, created)) :
    files.LeadsTo path place ∧ files.get? place = none ∧
      created = files.set place (.file .empty scratchMode) ∧
      ∃ n, place.getLast? = some (scratchName n) ∧ scratchName n ∉ pathSteps target := by
  rcases exists_scratchPath? files target with ⟨n, hname, hpath⟩
  have hfresh := ((mem_scratchNames files target (scratchName n)).mp hname).2
  rw [createScratch, hpath] at h
  rcases hfile : files.createFile (Path.join (files.scratchDirectory target) (scratchName n)) scratchMode with _ | made
  · simp only [hfile, Except.map, reduceCtorEq] at h
  · rcases made with ⟨found, tree⟩
    simp only [hfile, Except.map, Except.ok.injEq, Prod.mk.injEq] at h
    rcases h with ⟨rfl, rfl, rfl⟩
    rcases createFile_eq_ok files _ _ _ _ hfile with ⟨hleads, hfree, hcreated⟩
    refine ⟨hleads, hfree, hcreated, n, ?_, hfresh⟩
    rw [getLast?_of_leadsTo files _ _ hleads, pathSteps_join_scratchName, List.getLast?_concat]

end FileSystem

end CodeBehind
