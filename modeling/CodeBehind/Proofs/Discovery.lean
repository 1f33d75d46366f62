import CodeBehind.Discovery
import CodeBehind.Proofs.FileSystem.Names
import CodeBehind.Proofs.FileSystem.Tidy
import Mathlib.Data.List.Basic

/-!
# Finding documents

Looking for documents never fails, and what is found is told path by path.

A path that leads nowhere is passed over before anything else is asked of it. One that leads somewhere leads to the same
entry in its tidy form, and that is the form in which it is looked at. So the look finds the entry, and there is nothing
left that could fail. What is found does not depend on the other paths: every path has its own documents and at most one
warning, and those of several paths come one after the other (`collect_eq`).

A document is a path that was given and leads somewhere, or it is put together from such a path and from names in the
tree. The first has no null byte, since a path with one leads nowhere, and the second has none if the names have none.

## Main definitions

* `documentsAt`: The documents that a path stands for.
* `warningAt?`: The warning about a path that is passed over.

## Main results

* `collect_eq`: What is collected for several paths is what each of them stands for.
* `nullByte_notMem_of_collect`: The documents that are found have no null byte.

## Theorems

* `stat_of_pathExists`: A path that leads to something.
* `find_of_tidy_directory`, `find_of_directory`, `find_of_file`: What a path stands for.
* `mem_below`: What is found below a directory.
-/

namespace CodeBehind

namespace FileSystem

theorem stat_of_pathExists (files : FileSystem) (path : String) (h : files.pathExists path = true) :
    ∃ found, files.stat path = .ok found := by
  rw [pathExists] at h
  cases hstat : files.stat path with
  | ok found => exact ⟨found, rfl⟩
  | error error =>
      rw [hstat] at h
      exact Bool.noConfusion h

/-- What is in the list of entries is in the tree. -/
theorem nullByte_notMem_of_mem (files : FileSystem) (h : files.NullFree) (place : Place) (entry : Entry)
    (hmem : (place, entry) ∈ files.entries) : ∀ name ∈ place, '\x00' ∉ name.toList := by
  by_cases hroot : place = []
  · rw [hroot]
    exact fun name hname => absurd hname List.not_mem_nil
  · refine h.present place (fun hnone => ?_)
    exact ne_of_lookup_none files.entries place (lookup_of_free files place hnone) (place, entry) hmem rfl

end FileSystem

namespace Discovery

/-- The names that lead to a file below a directory are names in the tree. -/
theorem nullByte_notMem_of_filesBelow (files : FileSystem) (h : files.NullFree) (place : Place) (names : List String)
    (hnames : names ∈ files.filesBelow place) : ∀ name ∈ names, '\x00' ∉ name.toList := by
  rcases List.mem_filterMap.mp hnames with ⟨⟨other, entry⟩, hmem, hsteps⟩
  cases entry with
  | directory => simp only [reduceCtorEq] at hsteps
  | file content mode =>
      simp only [FileSystem.stepsBelow?] at hsteps
      split at hsteps
      · rw [Option.some.injEq] at hsteps
        intro name hname
        rw [← hsteps] at hname
        exact FileSystem.nullByte_notMem_of_mem files h other _ hmem name (List.mem_of_mem_drop hname)
      · simp only [reduceCtorEq] at hsteps

/-- The path of a file below a directory is put together from the path of the directory and the names. -/
theorem nullByte_notMem_below (base : String) (names : List String) (hbase : '\x00' ∉ base.toList)
    (hnames : ∀ name ∈ names, '\x00' ∉ name.toList) : '\x00' ∉ (Path.below base names).toList := by
  -- A root is made of slashes, and the steps are pieces of the path.
  have hroot : '\x00' ∉ (Path.root base).toList := by
    rcases FileSystem.root_cases base with ⟨hroot, _⟩ | ⟨hroot | hroot, _⟩
    · rw [hroot]
      decide
    · rw [hroot]
      decide
    · rw [hroot]
      decide
  have hsteps : ∀ name ∈ Path.steps base ++ names, '\x00' ∉ name.toList := by
    intro name hname
    rcases List.mem_append.mp hname with hstep | hname
    · rcases List.mem_map.mp (List.mem_filter.mp hstep).1 with ⟨chars, hchars, rfl⟩
      rw [String.toList_ofList]
      exact fun hnull => hbase (Text.mem_of_mem_splitOn '\x00' '/' chars _ hchars hnull)
    · exact hnames name hname
  rw [Path.below]
  split
  · decide
  · exact Text.notMem_append _ _ _ hroot (Text.notMem_intercalate _ "/" _ (by decide) hsteps)

section

variable (files : FileSystem) (root extension : String) (place : Place)

/-- A path whose tidy form leads to a directory stands for the documents below it. -/
theorem find_of_tidy_directory (h : files.stat (Path.tidy root) = .ok (place, .directory)) :
    find files root extension = .ok (below files place root extension) := by
  have hfind : files.find? (Path.tidy root) = .ok (some .directory) := by
    rw [FileSystem.find?, h]
  unfold find
  simp only [hfind, h]

/-- A path that leads to a directory stands for the documents below it. -/
theorem find_of_directory (h : files.stat root = .ok (place, .directory)) :
    find files root extension = .ok (below files place root extension) :=
  find_of_tidy_directory files root extension place (FileSystem.stat_tidy files root place _ h)

/-- A path that leads to a file stands for itself. -/
theorem find_of_file (content : ByteArray) (mode : Nat) (h : files.stat root = .ok (place, .file content mode)) :
    find files root extension = .ok [root] := by
  have htidy := FileSystem.stat_tidy files root place _ h
  have hfind : files.find? (Path.tidy root) = .ok (some (.file content mode)) := by
    rw [FileSystem.find?, htidy]
  unfold find
  simp only [hfind]

end

/-! ## Path by path -/

/-- The documents that a path stands for: those below a directory, or the path of a file if it is one. -/
def documentsAt (files : FileSystem) (extension path : String) : List String :=
  match files.stat path with
  | .ok (place, .directory) => below files place path extension
  | .ok (_, .file ..) => if Document.isDocument path extension then [path] else []
  | .error _ => []

/-- The warning about a path that is passed over: it leads nowhere, or to a file that is no document. -/
def warningAt? (files : FileSystem) (extension path : String) : Option Log.Record :=
  match files.stat path with
  | .ok (_, .directory) => none
  | .ok (_, .file ..) =>
    if Document.isDocument path extension then none
    else some (Log.skipped component path ("not a " ++ extension ++ " document"))
  | .error _ => some (Log.skipped component path "no such file or directory")

/-- What is found below a directory is a document, and its path is put together from names in the tree. -/
theorem mem_below (files : FileSystem) (place : Place) (root extension path : String)
    (h : path ∈ below files place root extension) : Document.isDocument path extension = true ∧
      ∃ names ∈ files.filesBelow place, path = Path.below root names := by
  rcases List.mem_filter.mp (List.mem_mergeSort.mp h) with ⟨hpath, hdocument⟩
  rcases List.mem_map.mp hpath with ⟨names, hnames, rfl⟩
  exact ⟨hdocument, names, hnames, rfl⟩

section

variable (files : FileSystem) (extension : String)

/-- What a path stands for is always found out. -/
theorem collectOne_eq (path : String) : collectOne files extension path =
    .ok ⟨documentsAt files extension path, (warningAt? files extension path).toList⟩ := by
  by_cases hthere : files.pathExists path = true
  · rcases FileSystem.stat_of_pathExists files path hthere with ⟨⟨place, entry⟩, hstat⟩
    rw [collectOne, hthere, Bool.not_true, if_neg Bool.false_ne_true, documentsAt, warningAt?, hstat]
    cases entry with
    | directory =>
        -- A search has looked at the extension already, and nothing is left to be passed over.
        have hkept : (below files place path extension).filter (fun found => Document.isDocument found extension) =
            below files place path extension :=
          List.filter_eq_self.mpr (fun found hfound => (mem_below files place path extension found hfound).1)
        have hnone : (below files place path extension).filter (fun found => !Document.isDocument found extension) =
            [] := by
          refine List.filter_eq_nil_iff.mpr (fun found hfound hnot => ?_)
          rw [(mem_below files place path extension found hfound).1] at hnot
          exact Bool.noConfusion hnot
        simp only [find_of_directory files path extension place hstat, bind, Except.bind, pure, Except.pure, hkept,
          hnone, List.map_nil, Option.toList_none]
    | file content mode =>
        simp only [find_of_file files path extension place content mode hstat, bind, Except.bind, pure, Except.pure,
          List.filter_cons, List.filter_nil]
        cases Document.isDocument path extension <;> rfl
  · rw [Bool.not_eq_true] at hthere
    rw [collectOne, hthere, Bool.not_false, if_pos rfl, documentsAt, warningAt?]
    cases hstat : files.stat path with
    | ok found =>
        rw [FileSystem.pathExists, hstat] at hthere
        exact Bool.noConfusion hthere
    | error error => rfl

/-- What is collected for several paths is what each of them stands for, one after the other, with a warning about each
    path that is passed over. -/
theorem collect_eq (paths : List String) : collect files extension paths =
    .ok ⟨paths.flatMap (documentsAt files extension), paths.filterMap (warningAt? files extension)⟩ := by
  induction paths with
  | nil => rfl
  | cons path rest ih =>
      rw [collect, collectOne_eq, ih, List.flatMap_cons, List.filterMap_cons]
      cases warningAt? files extension path with
      | none => rfl
      | some warning => rfl

/-- Looking for documents never fails. -/
theorem exists_collect (paths : List String) : ∃ collected, collect files extension paths = .ok collected :=
  ⟨_, collect_eq files extension paths⟩

/-- The documents are those that the paths stand for. -/
theorem documents_collect (paths : List String) (collected : Collected)
    (h : collect files extension paths = .ok collected) :
    collected.documents = paths.flatMap (documentsAt files extension) := by
  rw [collect_eq, Except.ok.injEq] at h
  rw [← h]

variable (hfree : files.NullFree)
include hfree

/-- A path stands for no path with a null byte. -/
theorem nullByte_notMem_documentsAt (path : String) :
    ∀ document ∈ documentsAt files extension path, '\x00' ∉ document.toList := by
  intro document hdocument
  rw [documentsAt] at hdocument
  split at hdocument
  · next place hstat =>
      rcases mem_below files place path extension document hdocument with ⟨_, names, hnames, rfl⟩
      exact nullByte_notMem_below path names (FileSystem.nullByte_notMem_of_stat files path _ hstat)
        (nullByte_notMem_of_filesBelow files hfree place names hnames)
  · next hstat =>
      split at hdocument
      · rw [List.mem_singleton.mp hdocument]
        exact FileSystem.nullByte_notMem_of_stat files path _ hstat
      · exact absurd hdocument List.not_mem_nil
  · exact absurd hdocument List.not_mem_nil

/-- The documents that are found have no null byte. -/
theorem nullByte_notMem_of_collect (paths : List String) (collected : Collected)
    (h : collect files extension paths = .ok collected) :
    ∀ document ∈ collected.documents, '\x00' ∉ document.toList := by
  rw [documents_collect files extension paths collected h]
  intro document hdocument
  rcases List.mem_flatMap.mp hdocument with ⟨path, _, hmem⟩
  exact nullByte_notMem_documentsAt files extension hfree path document hmem

end

end Discovery

end CodeBehind
