import CodeBehind.Path.Tidy
import CodeBehind.Proofs.FileSystem.NullByte
import CodeBehind.Proofs.Text.Utf8
import Mathlib.Data.List.TakeWhile
import Mathlib.Data.List.Basic

/-!
# Tidy paths in a tree

A path that leads to something leads there in its tidy form too.

Tidying drops empty steps and dots. A walk passes over both, except that a dot at the end, or a slash there, asks for a
directory; so the tidy form asks for less, and where the path leads to an entry nothing is lost (`walk_filter_dots`).
What is left to see is that the tidy form is a path at all: it is not empty, and it is no longer than the path it comes
from, because its characters are some of those of the path in their order (`toList_tidy_sublist`). Only the dot that
stands for no step at all is not there before.

The converse fails. A path with a slash behind the name of a file leads nowhere, and its tidy form leads to the file.

## Main results

* `stat_tidy`: A path that leads to an entry leads there in its tidy form.

## Theorems

* `root_cases`, `tidy_cases`: What a tidy path begins with, and what follows.
* `toList_tidy_sublist`, `pathFault?_tidy`: A tidy path is a path.
* `isAbsolute_tidy`, `walk_pathSteps_tidy`: Where a walk over a tidy path begins, and its steps.
* `walk_filter_dots`, `walk_steps_of_stat`: A walk that leads to an entry passes over the dots.
-/

namespace CodeBehind

/-! ## Parts of texts -/

/-- Fewer pieces put together are a part of more pieces put together. -/
theorem Text.intercalate_sublist {α : Type} (sep : List α) (pieces more : List (List α)) (h : pieces.Sublist more) :
    (sep.intercalate pieces).Sublist (sep.intercalate more) := by
  induction h with
  | slnil => exact List.Sublist.refl _
  | @cons kept all piece hkept ih =>
      by_cases hall : all = []
      · rw [hall, List.sublist_nil] at hkept
        rw [hkept]
        exact List.nil_sublist _
      · rw [List.intercalate_cons_of_ne_nil hall]
        exact ih.trans (List.sublist_append_right _ _)
  | @cons_cons kept all piece hkept ih =>
      by_cases hnone : kept = []
      · -- The piece is the whole of one side and begins the other.
        rw [hnone, List.intercalate_singleton]
        by_cases hall : all = []
        · rw [hall, List.intercalate_singleton]
        · rw [List.intercalate_cons_of_ne_nil hall, List.append_assoc]
          exact List.sublist_append_left _ _
      · have hall : all ≠ [] := by
          intro hall
          rw [hall, List.sublist_nil] at hkept
          exact hnone hkept
        rw [List.intercalate_cons_of_ne_nil hnone, List.intercalate_cons_of_ne_nil hall]
        exact (List.Sublist.refl _).append ih

/-- Pieces without the mark, none of them empty, are not put together to a text that ends with the mark. -/
theorem Text.getLast?_intercalate_ne {α : Type} (mark : α) (pieces : List (List α)) (hne : pieces ≠ [])
    (h : ∀ piece ∈ pieces, piece ≠ [] ∧ mark ∉ piece) :
    ∃ c, ([mark].intercalate pieces).getLast? = some c ∧ c ≠ mark := by
  induction pieces with
  | nil => exact absurd rfl hne
  | cons piece rest ih =>
      by_cases hrest : rest = []
      · rcases h piece (List.mem_cons_self ..) with ⟨hpiece, hmark⟩
        have hlast := List.getLast?_eq_some_getLast hpiece
        rw [hrest, List.intercalate_singleton]
        exact ⟨_, hlast, fun heq => hmark (heq ▸ List.getLast_mem hpiece)⟩
      · rcases ih hrest (fun other hmem => h other (List.mem_cons_of_mem piece hmem)) with ⟨c, hlast, hc⟩
        refine ⟨c, ?_, hc⟩
        rw [List.intercalate_cons_of_ne_nil hrest, List.getLast?_append, hlast]
        rfl

/-- Marks at the beginning only add empty pieces. -/
theorem Text.filter_splitOn_dropWhile {α : Type} [DecidableEq α] (mark : α) (keep : List α → Bool)
    (hkeep : keep [] = false) (xs : List α) :
    ((xs.dropWhile (· = mark)).splitOn mark).filter keep = (xs.splitOn mark).filter keep := by
  induction xs with
  | nil => rfl
  | cons x rest ih =>
      by_cases hx : x = mark
      · have hpieces : (x :: rest).splitOn mark = [] :: rest.splitOn mark := by
          rw [hx]
          exact List.splitOn_append_cons_self [] rest
        rw [List.dropWhile_cons_of_pos (by simpa only [decide_eq_true_eq] using hx), hpieces,
          List.filter_cons_of_neg (Bool.eq_false_iff.mp hkeep), ih]
      · rw [List.dropWhile_cons_of_neg (by simpa only [decide_eq_true_eq] using hx)]

namespace FileSystem

/-! ## The steps of a tidy path -/

/-- The steps of a path without the dots are what its tidy form is made of. -/
theorem steps_eq (path : String) : Path.steps path = (pathNames path).filter (· ≠ ".") := by
  rw [Path.steps, pathNames, List.filter_filter]
  refine List.filter_congr (fun name _ => ?_)
  simp only [ne_eq, decide_not, Bool.and_comm]

theorem slash_notMem_of_mem_steps (path name : String) (h : name ∈ Path.steps path) :
    '/' ∉ name.toList ∧ name ≠ "" ∧ name ≠ "." := by
  rw [steps_eq] at h
  rcases List.mem_filter.mp h with ⟨hname, hdot⟩
  rcases mem_pathNames path name hname with ⟨hne, hslash⟩
  exact ⟨hslash, hne, of_decide_eq_true hdot⟩

/-- Names put together with slashes come apart again. -/
theorem pathNames_intercalate (names : List String) (h : ∀ name ∈ names, '/' ∉ name.toList ∧ name ≠ "") :
    pathNames ("/".intercalate names) = names := by
  by_cases hnil : names = []
  · rw [hnil]
    rfl
  · have hpieces : (names.map String.toList) ≠ [] := fun hmap => hnil (List.map_eq_nil_iff.mp hmap)
    have hslash : ∀ piece ∈ names.map String.toList, '/' ∉ piece := by
      intro piece hpiece
      rcases List.mem_map.mp hpiece with ⟨name, hname, rfl⟩
      exact (h name hname).1
    have hchars : ("/".intercalate names).toList.splitOn '/' = names.map String.toList := by
      rw [String.toList_intercalate]
      exact List.splitOn_intercalate '/' hslash hpieces
    rw [pathNames, hchars, List.map_map]
    have hid : String.ofList ∘ String.toList = id := funext fun _ => String.ofList_toList
    rw [hid, List.map_id, List.filter_eq_self]
    intro name hname
    simpa only [ne_eq, decide_not, Bool.not_eq_eq_eq_not, Bool.not_true, decide_eq_false_iff_not] using (h name hname).2

/-- The leading slashes that a tidy path keeps. -/
theorem root_cases (path : String) :
    (Path.root path = "" ∧ Path.isAbsolute path = false) ∨
      ((Path.root path = "/" ∨ Path.root path = "//") ∧ Path.isAbsolute path = true ∧
        (Path.root path).toList.Sublist (path.toList.takeWhile (· = '/'))) := by
  have hall : path.toList.takeWhile (· = '/') =
      List.replicate (path.toList.takeWhile (· = '/')).length '/' := by
    refine List.eq_replicate_of_mem (fun c hc => ?_)
    simpa only [decide_eq_true_eq] using List.mem_takeWhile_imp hc
  rw [Path.root, Path.isAbsolute]
  cases hchars : path.toList with
  | nil => exact Or.inl ⟨rfl, rfl⟩
  | cons c rest =>
      rw [hchars] at hall
      by_cases hc : c = '/'
      · rw [List.takeWhile_cons_of_pos (by simpa only [decide_eq_true_eq] using hc), List.length_cons] at hall ⊢
        rw [hall]
        -- One slash stays one, two stay two, and more become one.
        refine Or.inr ⟨?_, by simp only [List.head?_cons, hc, beq_self_eq_true], ?_⟩
        · split
          · exact absurd ‹_› (Nat.succ_ne_zero _)
          · exact Or.inr rfl
          · exact Or.inl rfl
        · split
          · exact List.nil_sublist _
          · next htwo =>
              rw [htwo]
              exact List.Sublist.refl _
          · exact List.replicate_sublist_replicate '/' |>.mpr (Nat.succ_pos _)
      · rw [List.takeWhile_cons_of_neg (by simpa only [decide_eq_true_eq] using hc)]
        refine Or.inl ⟨rfl, ?_⟩
        simpa only [List.head?_cons, Option.some_beq_some, beq_eq_false_iff_ne, ne_eq] using hc

/-- A tidy path is put together from the steps of the path, unless there is nothing to put together. -/
theorem tidy_cases (path : String) :
    (Path.tidy path = "." ∧ Path.steps path = [] ∧ Path.isAbsolute path = false) ∨
      (Path.tidy path = Path.root path ++ "/".intercalate (Path.steps path) ∧
        (Path.steps path = [] → Path.isAbsolute path = true)) := by
  rw [Path.tidy]
  by_cases hempty : Path.root path ++ "/".intercalate (Path.steps path) = ""
  · rw [if_pos hempty]
    rcases String.append_eq_empty_iff.mp hempty with ⟨hroot, hsteps⟩
    refine Or.inl ⟨rfl, ?_, ?_⟩
    · have hnames := pathNames_intercalate (Path.steps path) (fun name hname =>
        ⟨(slash_notMem_of_mem_steps path name hname).1, (slash_notMem_of_mem_steps path name hname).2.1⟩)
      rw [hsteps] at hnames
      exact hnames.symm
    -- Nothing is left of the path, so it had no root.
    · rcases root_cases path with ⟨_, hrelative⟩ | ⟨hslash | hslash, _⟩
      · exact hrelative
      · exact absurd (hroot.symm.trans hslash) (by decide)
      · exact absurd (hroot.symm.trans hslash) (by decide)
  · rw [if_neg hempty]
    refine Or.inr ⟨rfl, fun hsteps => ?_⟩
    rcases root_cases path with ⟨hroot, _⟩ | ⟨_, habsolute, _⟩
    · rw [hroot, hsteps] at hempty
      exact absurd rfl hempty
    · exact habsolute

/-- The slashes at the beginning add no names. -/
theorem pathNames_slash_append (text : String) : pathNames ("/" ++ text) = pathNames text := by
  have hnames := pathNames_append_slash [] text.toList
  have hslash : String.ofList ([] ++ '/' :: text.toList) = "/" ++ text := by
    rw [List.nil_append, String.ofList_cons, String.ofList_toList]
    rfl
  rw [hslash, String.ofList_toList] at hnames
  exact hnames

theorem pathNames_root_append (path text : String) : pathNames (Path.root path ++ text) = pathNames text := by
  rcases root_cases path with ⟨hroot, _⟩ | ⟨hroot | hroot, _⟩
  · rw [hroot, String.empty_append]
  · rw [hroot, pathNames_slash_append]
  · have htwo : "//" ++ text = "/" ++ ("/" ++ text) := by rw [← String.append_assoc]; rfl
    rw [hroot, htwo, pathNames_slash_append, pathNames_slash_append]

/-- A walk over a tidy path is a walk over the steps of the path. -/
theorem walk_pathSteps_tidy (files : FileSystem) (place : Place) (path : String) :
    files.walk place (pathSteps (Path.tidy path)) = files.walk place (Path.steps path) := by
  rcases tidy_cases path with ⟨hdot, hsteps, _⟩ | ⟨htidy, habsolute⟩
  · rw [hdot, hsteps]
    rfl
  · have hnames : pathNames (Path.tidy path) = Path.steps path := by
      rw [htidy, pathNames_root_append, pathNames_intercalate]
      exact fun name hname =>
        ⟨(slash_notMem_of_mem_steps path name hname).1, (slash_notMem_of_mem_steps path name hname).2.1⟩
    rw [pathSteps, hnames]
    -- A slash at the end is left only where there are no steps, and there a dot makes no difference.
    by_cases hsteps : Path.steps path = []
    · rw [hsteps]
      split <;> rfl
    · rw [if_neg]
      intro hslash
      have hpieces : ∀ piece ∈ (Path.steps path).map String.toList, piece ≠ [] ∧ '/' ∉ piece := by
        intro piece hpiece
        rcases List.mem_map.mp hpiece with ⟨name, hname, rfl⟩
        rcases slash_notMem_of_mem_steps path name hname with ⟨hnoSlash, hne, _⟩
        exact ⟨fun hnil => hne (String.toList_eq_nil_iff.mp hnil), hnoSlash⟩
      rcases Text.getLast?_intercalate_ne '/' _ (fun hmap => hsteps (List.map_eq_nil_iff.mp hmap)) hpieces with
        ⟨c, hlast, hc⟩
      have htext : ("/".intercalate (Path.steps path)).toList.getLast? = some c := by
        rw [String.toList_intercalate]
        exact hlast
      rw [htidy, Text.getLast?_append _ _ c htext, Option.some.injEq] at hslash
      exact hc hslash

/-- The first character of names put together is one of the first name. -/
theorem head?_intercalate_steps (path : String) : ("/".intercalate (Path.steps path)).toList.head? ≠ some '/' := by
  rw [String.toList_intercalate]
  cases hsteps : Path.steps path with
  | nil => exact (Option.some_ne_none '/').symm
  | cons name rest =>
      rcases slash_notMem_of_mem_steps path name (hsteps ▸ List.mem_cons_self ..) with ⟨hslash, hne, _⟩
      cases hname : name.toList with
      | nil => exact absurd (String.toList_eq_nil_iff.mp hname) hne
      | cons c cs =>
          have hhead : ("/".toList.intercalate ((name :: rest).map String.toList)).head? = some c := by
            rw [List.map_cons, hname]
            cases rest with
            | nil => rfl
            | cons _ _ => rfl
          rw [hhead, ne_eq, Option.some.injEq]
          intro hc
          rw [hname, hc] at hslash
          exact hslash (List.mem_cons_self ..)

/-- A tidy path begins where the path does. -/
theorem isAbsolute_tidy (path : String) : Path.isAbsolute (Path.tidy path) = Path.isAbsolute path := by
  rcases tidy_cases path with ⟨hdot, _, hrelative⟩ | ⟨htidy, _⟩
  · rw [hdot, hrelative]
    rfl
  · rw [htidy]
    rcases root_cases path with ⟨hroot, hrelative⟩ | ⟨hroot | hroot, hslash, _⟩
    · rw [hroot, String.empty_append, hrelative, Path.isAbsolute, beq_eq_false_iff_ne]
      exact head?_intercalate_steps path
    · rw [hroot, hslash, Path.isAbsolute, String.toList_append]
      rfl
    · rw [hroot, hslash, Path.isAbsolute, String.toList_append]
      rfl

/-- The steps of a path, put together, are a part of what follows the slashes at its beginning. -/
theorem toList_intercalate_steps_sublist (path : String) :
    ("/".intercalate (Path.steps path)).toList.Sublist (path.toList.dropWhile (· = '/')) := by
  let keep := fun piece : List Char => decide (String.ofList piece ≠ "") && decide (String.ofList piece ≠ ".")
  have hchars : (Path.steps path).map String.toList = (path.toList.splitOn '/').filter keep := by
    rw [Path.steps, List.filter_map, List.map_map]
    have hid : String.toList ∘ String.ofList = id := funext fun _ => String.toList_ofList
    rw [hid, List.map_id]
    rfl
  have hpieces := List.filter_sublist (p := keep) (l := (path.toList.dropWhile (· = '/')).splitOn '/')
  rw [Text.filter_splitOn_dropWhile '/' keep rfl, ← hchars] at hpieces
  have htogether := Text.intercalate_sublist ['/'] _ _ hpieces
  rw [List.intercalate_splitOn] at htogether
  rw [String.toList_intercalate]
  exact htogether

/-- The characters of a tidy path are some of those of the path in their order, unless there are none. -/
theorem toList_tidy_sublist (path : String) (h : Path.tidy path ≠ ".") :
    (Path.tidy path).toList.Sublist path.toList := by
  rcases tidy_cases path with ⟨hdot, _⟩ | ⟨htidy, _⟩
  · exact absurd hdot h
  · have hroot : (Path.root path).toList.Sublist (path.toList.takeWhile (· = '/')) := by
      rcases root_cases path with ⟨hroot, _⟩ | ⟨_, _, hroot⟩
      · rw [hroot]
        exact List.nil_sublist _
      · exact hroot
    have hall := hroot.append (toList_intercalate_steps_sublist path)
    rw [List.takeWhile_append_dropWhile] at hall
    rw [htidy, String.toList_append]
    exact hall

/-- The tidy form of a path that no fault is found with has none either. -/
theorem pathFault?_tidy (path : String) (h : pathFault? path = none) : pathFault? (Path.tidy path) = none := by
  by_cases hdot : Path.tidy path = "."
  · rw [hdot]
    decide
  -- Tidying only takes characters away, so it can add neither a null byte nor length.
  · have hpart := toList_tidy_sublist path hdot
    have hsize := Text.utf8ByteSize_le_of_sublist _ _ hpart
    rw [String.ofList_toList, String.ofList_toList] at hsize
    rw [pathFault?] at h ⊢
    by_cases hnull : path.toList.contains '\x00' = true
    · rw [if_pos hnull] at h
      simp only [reduceCtorEq] at h
    by_cases hempty : path = ""
    · rw [if_neg hnull, if_pos hempty] at h
      simp only [reduceCtorEq] at h
    by_cases hlong : pathLimit ≤ path.utf8ByteSize
    · rw [if_neg hnull, if_neg hempty, if_pos hlong] at h
      simp only [reduceCtorEq] at h
    have hnull' : ¬ (Path.tidy path).toList.contains '\x00' = true := by
      intro hmem
      exact hnull (List.contains_iff_mem.mpr (hpart.subset (List.contains_iff_mem.mp hmem)))
    -- Where nothing would be left, the dot is put.
    have hempty' : Path.tidy path ≠ "" := by
      rw [Path.tidy]
      split
      · decide
      · assumption
    rw [if_neg hnull', if_neg hempty', if_neg (by omega)]

/-- A walk that leads to an entry passes over the dots. -/
theorem walk_filter_dots (files : FileSystem) (place reached : Place) (entry : Entry) (steps : List String)
    (h : files.walk place steps = .ok (.entry reached entry)) :
    files.walk place (steps.filter (· ≠ ".")) = .ok (.entry reached entry) := by
  induction steps generalizing place with
  | nil => exact h
  | cons name rest ih =>
      by_cases hdot : name = "."
      · rw [List.filter_cons_of_neg (by simpa using hdot)]
        rw [walk, if_pos hdot] at h
        exact ih place h
      rw [List.filter_cons_of_pos (by simpa using hdot)]
      rcases files.step_cases place name with ⟨next, _, hwalk⟩ | ⟨_, hwalk⟩ | ⟨fault, _, _, _, _, hwalk⟩
      · rw [hwalk] at h ⊢
        exact ih next h
      · simp only [hwalk, reduceCtorEq] at h
      · -- What is no directory ends the walk, so nothing comes after it, dot or not.
        cases rest with
        | nil => exact h
        | cons _ _ => simp only [hwalk, List.isEmpty_cons, Bool.false_eq_true, if_false, reduceCtorEq] at h

theorem filter_pathSteps (path : String) : (pathSteps path).filter (· ≠ ".") = Path.steps path := by
  rw [pathSteps]
  split
  · rw [List.filter_append, ← steps_eq]
    exact List.append_nil _
  · exact (steps_eq path).symm

/-- The dots among the steps make no difference. -/
theorem walk_steps_of_stat (files : FileSystem) (path : String) (place : Place) (entry : Entry)
    (h : files.stat path = .ok (place, entry)) :
    files.walk (files.base path) (Path.steps path) = .ok (.entry place entry) := by
  have hwalk := walk_filter_dots files _ place entry _ (walk_of_stat files path place entry h).2
  rwa [filter_pathSteps] at hwalk

/-- A path that leads to an entry leads there in its tidy form too. -/
theorem stat_tidy (files : FileSystem) (path : String) (place : Place) (entry : Entry)
    (h : files.stat path = .ok (place, entry)) : files.stat (Path.tidy path) = .ok (place, entry) := by
  have hfault := (walk_of_stat files path place entry h).1
  have hwalk := walk_steps_of_stat files path place entry h
  have hbase : files.base (Path.tidy path) = files.base path := by
    rw [base, base, isAbsolute_tidy]
  rw [← walk_pathSteps_tidy, ← hbase] at hwalk
  simp only [stat, follow, pathFault?_tidy path hfault, hwalk]

end FileSystem

end CodeBehind
