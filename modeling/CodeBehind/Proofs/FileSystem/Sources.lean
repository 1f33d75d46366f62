import CodeBehind.Document
import CodeBehind.Proofs.FileSystem.Walk
import Mathlib.Data.List.Basic

/-!
# Trees that differ in generated files

What can be told of a tree without looking at the files that were generated in it.

Generated files are known by their names. Two trees have the same sources if they have the same directories and if
their lists of entries are the same once everything with such a name is left out. The lists are compared, and not only
what they hold, because a search goes through them in their order. Putting a generated file somewhere keeps the
sources, whether it is new or replaces one, as long as there is no directory in its place.

A path leads the same way in both trees, since directories alone decide that. What lies at its end is the same unless
the path ends with the name of a generated file. This also holds of what is reported: a file and a free place on the
way are different faults, but both of them only mean that nothing is there, and a name that is too long is met in both
trees or in none, since the way up to it leads through directories.

## Main definitions

* `Document.isOutputName`, `isOutput`: The names of generated files, and the places with such a name.
* `SameSources`: Two trees that have all but generated files in common.

## Theorems

* `sameSources_set`: A generated file that is put in place keeps the sources.
* `get?_of_sameSources`: What lies at any other place is the same.
* `stat_eq_directory_iff`, `stat_eq_file_iff`: The paths of directories and files.
* `stat_directory_congr`, `stat_file_congr`, `find?_congr`: Looking at paths in trees with the same sources.
-/

namespace CodeBehind

/-- Whether a name is that of a generated file. -/
def Document.isOutputName (name : String) : Bool :=
  (generatedSuffix ++ sourceExtension).toList.isSuffixOf name.toList

namespace FileSystem

/-- Whether a row of names ends with that of a generated file. -/
def isOutput (names : List String) : Bool :=
  names.getLast?.any Document.isOutputName

/-- Two trees that have their directories and all files but generated ones in common. -/
structure SameSources (files other : FileSystem) : Prop where
  directories : files.SameDirectories other
  sources : other.entries.filter (fun e => !isOutput e.1) = files.entries.filter (fun e => !isOutput e.1)

section

variable (files other : FileSystem)

theorem sameSources_refl : files.SameSources files :=
  ⟨⟨rfl, fun _ => Iff.rfl⟩, rfl⟩

theorem sameSources_symm (h : files.SameSources other) : other.SameSources files :=
  ⟨sameDirectories_symm files other h.directories, h.sources.symm⟩

theorem sameSources_trans (last : FileSystem) (h : files.SameSources other) (h' : other.SameSources last) :
    files.SameSources last :=
  ⟨⟨h'.directories.1.trans h.directories.1, fun place => (h.directories.2 place).trans (h'.directories.2 place)⟩,
    h'.sources.trans h.sources⟩

theorem workdirPath_of_sameSources (h : files.SameSources other) : other.workdirPath = files.workdirPath := by
  rw [workdirPath, workdirPath, h.directories.1]

end

/-! ## Entries -/

/-- Leaving out generated files does not hide anything else. -/
theorem lookup_filter_sources (entries : List (Place × Entry)) (place : Place) (h : isOutput place = false) :
    (entries.filter (fun e => !isOutput e.1)).lookup place = entries.lookup place := by
  induction entries with
  | nil => rfl
  | cons e rest ih =>
      rcases e with ⟨key, entry⟩
      by_cases hkey : place = key
      · rw [hkey] at h
        rw [List.filter_cons_of_pos (by simp only [h, Bool.not_false]), hkey, List.lookup_cons, List.lookup_cons,
          beq_self_eq_true]
      · have hne : (place == key) = false := beq_false_of_ne hkey
        rw [List.lookup_cons, hne, ← ih]
        by_cases houtput : isOutput key = true
        · rw [List.filter_cons_of_neg (by simp only [houtput, Bool.not_true, Bool.false_eq_true, not_false_eq_true])]
        · rw [List.filter_cons_of_pos (by simpa only [Bool.not_eq_true', Bool.not_eq_true] using houtput),
            List.lookup_cons, hne]

/-- What lies at a place without the name of a generated file is the same. -/
theorem get?_of_sameSources (files other : FileSystem) (h : files.SameSources other) (place : Place)
    (hplace : isOutput place = false) : other.get? place = files.get? place := by
  by_cases hroot : place = []
  · rw [hroot]
    rfl
  · rw [get?_of_ne_nil other place hroot, get?_of_ne_nil files place hroot,
      ← lookup_filter_sources other.entries _ hplace, h.sources, lookup_filter_sources files.entries _ hplace]

/-- A generated file that is put where no directory is keeps the sources. -/
theorem sameSources_set (files : FileSystem) (place : Place) (content : ByteArray) (mode : Nat)
    (houtput : isOutput place = true) (hfree : files.get? place ≠ some .directory) :
    files.SameSources (files.set place (.file content mode)) := by
  have hroot := ne_nil_of_get? files place hfree
  refine ⟨sameDirectories_set_file files place content mode hroot hfree, ?_⟩
  cases hlisted : files.entries.lookup place with
  | none =>
      have hlast : ([(place, Entry.file content mode)] : List (Place × Entry)).filter (fun e => !isOutput e.1) = [] :=
        List.filter_cons_of_neg (by simp only [houtput, Bool.not_true, Bool.false_eq_true, not_false_eq_true])
      rw [set_of_absent files place _ hlisted, List.filter_append, hlast, List.append_nil]
  | some old =>
      -- An entry that is replaced is left out before and after, and no other is changed.
      rw [set_of_present files place _ (by rw [hlisted, Option.isSome_some]), List.filter_map]
      have hsame : ((fun e : Place × Entry => !isOutput e.1) ∘
          fun e => if e.1 = place then (place, .file content mode) else e) = fun e => !isOutput e.1 := by
        funext e
        by_cases he : e.1 = place
        · rw [Function.comp_apply, if_pos he, he]
        · simp only [Function.comp_apply, if_neg he]
      rw [hsame]
      refine (List.map_congr_left (fun e he => ?_)).trans (List.map_id' _)
      have hne : e.1 ≠ place := by
        intro heq
        have hkept := (List.mem_filter.mp he).2
        rw [heq, houtput] at hkept
        exact Bool.noConfusion hkept
      rw [if_neg hne]

/-! ## Paths -/

/-- The paths of a directory. -/
theorem stat_eq_directory_iff (files : FileSystem) (path : String) (place : Place) :
    files.stat path = .ok (place, .directory) ↔
      pathFault? path = none ∧ files.enter (files.base path) (pathSteps path) = .ok place := by
  rw [stat_eq_ok_iff, follow]
  cases pathFault? path with
  | some fault => simp only [reduceCtorEq, false_and]
  | none => simp only [walk_eq_directory_iff, true_and]

/-- The paths of a file. -/
theorem stat_eq_file_iff (files : FileSystem) (path : String) (place : Place) (content : ByteArray) (mode : Nat) :
    files.stat path = .ok (place, .file content mode) ↔
      files.LeadsTo path place ∧ files.get? place = some (.file content mode) := by
  rw [stat_eq_ok_iff]
  constructor
  · exact leadsTo_of_follow_file files path place content mode
  · rintro ⟨hleads, hentry⟩
    rw [follow_of_leadsTo files path place hleads, destination, hentry]

/-- A path leads to a directory in every tree with the same directories, or in none. -/
theorem stat_directory_of_sameDirectories (files other : FileSystem) (h : files.SameDirectories other) (path : String)
    (place : Place) (hstat : files.stat path = .ok (place, .directory)) :
    other.stat path = .ok (place, .directory) := by
  rcases (stat_eq_directory_iff files path place).mp hstat with ⟨hsound, henter⟩
  have hbase : other.base path = files.base path := by rw [base, base, h.1]
  have hother := enter_congr files other h _ _ (.ok place) (by simp) (by simp) henter
  exact (stat_eq_directory_iff other path place).mpr ⟨hsound, hbase ▸ hother⟩

section

variable (files other : FileSystem) (h : files.SameSources other) (path : String)
include h

/-- A path leads to a directory in both trees or in none. -/
theorem stat_directory_congr (place : Place) (hstat : files.stat path = .ok (place, .directory)) :
    other.stat path = .ok (place, .directory) :=
  stat_directory_of_sameDirectories files other h.directories path place hstat

variable (hlast : isOutput (pathSteps path) = false)
include hlast

/-- A path that does not end with the name of a generated file leads to the same file. -/
theorem stat_file_congr (place : Place) (content : ByteArray) (mode : Nat)
    (hstat : files.stat path = .ok (place, .file content mode)) :
    other.stat path = .ok (place, .file content mode) := by
  rcases (stat_eq_file_iff files path place content mode).mp hstat with ⟨hleads, hentry⟩
  have hplace : isOutput place = false := by
    rw [isOutput, getLast?_of_leadsTo files path place hleads]
    exact hlast
  have hsame := get?_of_sameSources files other h place hplace
  exact (stat_eq_file_iff other path place content mode).mpr
    ⟨leadsTo_congr files other h.directories path place hleads, hsame.trans hentry⟩

theorem stat_congr (place : Place) (entry : Entry) (hstat : files.stat path = .ok (place, entry)) :
    other.stat path = .ok (place, entry) := by
  cases entry with
  | directory => exact stat_directory_congr files other h path place hstat
  | file content mode => exact stat_file_congr files other h path hlast place content mode hstat

end

/-- A path that cannot be looked at in one tree cannot be looked at in any tree with the same directories. -/
theorem find?_error_congr (files other : FileSystem) (hsame : files.SameDirectories other) (path : String)
    (error : FileError) (h : files.find? path = .error error) : other.find? path = .error error := by
  have hbase : other.base path = files.base path := by rw [base, base, hsame.1]
  unfold find? stat follow at h ⊢
  cases hfault : pathFault? path with
  | some fault =>
      simp only [hfault] at h ⊢
      exact h
  | none =>
      simp only [hfault] at h ⊢
      cases hwalk : files.walk (files.base path) (pathSteps path) with
      | ok reached =>
          rw [hwalk] at h
          cases reached with
          | entry place entry => simp only [reduceCtorEq] at h
          | free place => simp only [FileFault.isAbsence, if_true, reduceCtorEq] at h
      | error fault =>
          rw [hwalk] at h
          rcases fault_of_walk files _ _ fault hwalk with rfl | rfl | rfl
          · -- The way to a name that is too long leads through directories only.
            have henter := (walk_eq_nameTooLong_iff files _ _).mp hwalk
            have hother := enter_congr files other hsame _ _ (.error .nameTooLong) (by simp) (by simp) henter
            rw [hbase, (walk_eq_nameTooLong_iff other _ _).mpr hother]
            exact h
          · simp only [FileFault.isAbsence, if_true, reduceCtorEq] at h
          · simp only [FileFault.isAbsence, if_true, reduceCtorEq] at h

theorem find?_eq_some_iff (files : FileSystem) (path : String) (entry : Entry) :
    files.find? path = .ok (some entry) ↔ ∃ place, files.stat path = .ok (place, entry) := by
  rw [find?]
  cases files.stat path with
  | ok found => simp only [Except.ok.injEq, Option.some.injEq, Prod.ext_iff, exists_and_right, exists_eq', true_and]
  | error error =>
      simp only
      split <;> simp only [Except.ok.injEq, reduceCtorEq, exists_false]

/-- What is found at the end of a path that does not end with the name of a generated file is found there in any tree
    with the same sources. -/
theorem find?_some_congr (files other : FileSystem) (h : files.SameSources other) (path : String)
    (hlast : isOutput (pathSteps path) = false) (entry : Entry) (hfound : files.find? path = .ok (some entry)) :
    other.find? path = .ok (some entry) := by
  rcases (find?_eq_some_iff files path entry).mp hfound with ⟨place, hstat⟩
  exact (find?_eq_some_iff other path entry).mpr ⟨place, stat_congr files other h path hlast place entry hstat⟩

/-- Looking at a path that does not end with the name of a generated file gives the same. -/
theorem find?_congr (files other : FileSystem) (h : files.SameSources other) (path : String)
    (hlast : isOutput (pathSteps path) = false) : other.find? path = files.find? path := by
  have hback := sameSources_symm files other h
  cases hfound : files.find? path with
  | error error => exact find?_error_congr files other h.directories path error hfound
  | ok found =>
      cases found with
      | some entry => exact find?_some_congr files other h path hlast entry hfound
      | none =>
          -- Nothing is found, so nothing else can come of looking at the path in the other tree.
          cases hother : other.find? path with
          | error error =>
              rw [find?_error_congr other files hback.directories path error hother] at hfound
              exact hfound
          | ok found' =>
              cases found' with
              | none => rfl
              | some entry =>
                  rw [find?_some_congr other files hback path hlast entry hother] at hfound
                  exact hfound

end FileSystem

end CodeBehind
