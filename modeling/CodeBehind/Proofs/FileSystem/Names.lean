import CodeBehind.Proofs.FileSystem.NullByte

/-!
# Trees without null bytes

No device keeps a name with a null byte, and no operation of the library makes one.

A new name comes from a path, and a path with a null byte is refused before it leads anywhere. So where a file is made,
the directories above it are in the tree already and its own name is a step of a sound path. That is all there is to
opening a file; and putting an entry where one is, or adding to a file, makes no name at all.

## Main definitions

* `NullFree`: A tree in which no name has a null byte.

## Theorems

* `nullByte_notMem_of_stat`: A path that leads to something has no null byte.
* `nullFree_set`, `nullFree_openFile`: Names stay free of null bytes.
* `openFile_keeps`: What opening a file leaves alone.
-/

namespace CodeBehind

namespace FileSystem

/-- A tree in which no name has a null byte, as in every tree on a device. -/
structure NullFree (files : FileSystem) : Prop where
  workdir : ∀ name ∈ files.workdir, '\x00' ∉ name.toList
  present : ∀ place, files.get? place ≠ none → ∀ name ∈ place, '\x00' ∉ name.toList

/-- It is enough to look at the list of entries. -/
theorem nullFree_of_entries (files : FileSystem) (hworkdir : ∀ name ∈ files.workdir, '\x00' ∉ name.toList)
    (hentries : ∀ entry ∈ files.entries, ∀ name ∈ entry.1, '\x00' ∉ name.toList) : files.NullFree := by
  refine ⟨hworkdir, fun place hplace => ?_⟩
  by_cases hroot : place = []
  · rw [hroot]
    exact fun name hname => absurd hname List.not_mem_nil
  · rw [get?_of_ne_nil files place hroot] at hplace
    rcases List.lookup_isSome_iff.mp (Option.isSome_iff_ne_none.mpr hplace) with ⟨entry, hmem, heq⟩
    rw [beq_iff_eq.mp heq]
    exact hentries entry hmem

/-- A path that leads to something has no null byte. -/
theorem nullByte_notMem_of_stat (files : FileSystem) (path : String) (found : Place × Entry)
    (h : files.stat path = .ok found) : '\x00' ∉ path.toList := by
  intro hnull
  simp only [stat, follow, pathFault?_of_nullByte path hnull, reduceCtorEq] at h

/-- A step of a path is one of its pieces, or the dot that stands for a slash at its end. -/
theorem nullByte_notMem_pathSteps (path : String) (hpath : '\x00' ∉ path.toList) :
    ∀ name ∈ pathSteps path, '\x00' ∉ name.toList := by
  have hnames : ∀ name ∈ pathNames path, '\x00' ∉ name.toList := by
    intro name hname
    rcases List.mem_map.mp (List.mem_filter.mp hname).1 with ⟨chars, hchars, rfl⟩
    rw [String.toList_ofList]
    exact fun hnull => hpath (Text.mem_of_mem_splitOn '\x00' '/' chars _ hchars hnull)
  intro name hname
  rw [pathSteps] at hname
  split at hname
  · rcases List.mem_append.mp hname with hname | hdot
    · exact hnames name hname
    · rw [List.mem_singleton.mp hdot]
      decide
  · exact hnames name hname

section

variable (files : FileSystem) (h : files.NullFree)
include h

theorem nullByte_notMem_base (path : String) : ∀ name ∈ files.base path, '\x00' ∉ name.toList := by
  rw [base]
  split
  · exact fun name hname => absurd hname List.not_mem_nil
  · exact h.workdir

/-- Every directory that is entered is in the tree. -/
theorem nullByte_notMem_of_enter (place directory : Place) (steps : List String)
    (hplace : ∀ name ∈ place, '\x00' ∉ name.toList) (henter : files.enter place steps = .ok directory) :
    ∀ name ∈ directory, '\x00' ∉ name.toList := by
  refine files.enter_keeps (fun place => ∀ name ∈ place, '\x00' ∉ name.toList) ?_ place directory steps hplace henter
  intro place step next hplace hpass
  rcases pass_eq_ok files place next step hpass with rfl | rfl | ⟨_, hentry⟩
  · exact hplace
  · exact fun name hname => hplace name (List.dropLast_subset place hname)
  · exact h.present next (by rw [hentry]; exact Option.some_ne_none _)

theorem nullByte_notMem_of_leadsTo (path : String) (place : Place) (hleads : files.LeadsTo path place) :
    ∀ name ∈ place, '\x00' ∉ name.toList := by
  rcases hleads with ⟨hsound, before, last, directory, hsteps, henter, _, rfl⟩
  have hpath : '\x00' ∉ path.toList := by
    intro hnull
    rw [pathFault?_of_nullByte path hnull] at hsound
    exact Option.some_ne_none _ hsound
  intro name hname
  rcases List.mem_append.mp hname with hname | hlast
  · exact nullByte_notMem_of_enter files h _ directory before (nullByte_notMem_base files h path) henter name hname
  · refine nullByte_notMem_pathSteps path hpath name ?_
    rw [hsteps]
    exact List.mem_append_right _ hlast

/-- An entry may be put where the names have no null byte. -/
theorem nullFree_set (place : Place) (entry : Entry) (hplace : ∀ name ∈ place, '\x00' ∉ name.toList) :
    (files.set place entry).NullFree := by
  refine ⟨h.workdir, fun other hother => ?_⟩
  by_cases hsame : other = place
  · rw [hsame]
    exact hplace
  · rw [get?_set_ne files place other entry hsame] at hother
    exact h.present other hother

end

/-- A file that is opened is the one the path leads to, or it is made where the path leads to nothing. -/
theorem openFile_cases (files opened : FileSystem) (path : String) (place : Place)
    (h : files.openFile path = .ok (place, opened)) :
    opened = files ∨ (files.LeadsTo path place ∧
      opened = files.set place (.file .empty (files.createdMode openMode))) := by
  rw [openFile] at h
  split at h
  · rw [Except.ok.injEq, Prod.mk.injEq] at h
    exact Or.inl h.2.symm
  · simp only [reduceCtorEq] at h
  · next found hfollow =>
      rw [Except.ok.injEq, Prod.mk.injEq] at h
      rw [h.1] at hfollow
      refine Or.inr ⟨(leadsTo_of_follow_free files path place hfollow).1, ?_⟩
      rw [← h.2, h.1]
  · simp only [reduceCtorEq] at h

/-- Opening a file changes the tree at its place only. -/
theorem openFile_keeps (files opened : FileSystem) (path : String) (place : Place)
    (h : files.openFile path = .ok (place, opened)) :
    opened.workdir = files.workdir ∧ opened.umask = files.umask ∧
      ∀ other, other ≠ place → opened.get? other = files.get? other := by
  rcases openFile_cases files opened path place h with hsame | ⟨_, hset⟩
  · rw [hsame]
    exact ⟨rfl, rfl, fun _ _ => rfl⟩
  · rw [hset]
    exact ⟨rfl, rfl, fun other hother => get?_set_ne files place other _ hother⟩

theorem nullFree_openFile (files opened : FileSystem) (hfree : files.NullFree) (path : String) (place : Place)
    (h : files.openFile path = .ok (place, opened)) : opened.NullFree := by
  rcases openFile_cases files opened path place h with hsame | ⟨hleads, hset⟩
  · rw [hsame]
    exact hfree
  · rw [hset]
    exact nullFree_set files hfree place _ (nullByte_notMem_of_leadsTo files hfree path place hleads)

end FileSystem

end CodeBehind
