import CodeBehind.Proofs.FileSystem.Atomic

/-!
# Trees that are saved to alike

When two trees let the same files be saved.

Whether a save succeeds does not depend on what the files of a tree hold, nor on which files there are. It is
decided by the directories, by the modes that files would be written with, and by what lies under the names of
scratch files. So a tree may have been written to in many places and still treat the next save as if nothing
had happened, as long as the files were written with the modes they had and no scratch file was left.

One thing in a save seems to depend on more: the number of names that are tried for the scratch file grows with
the number of entries. But there is always a free one among those that are tried, and more names only come
after it, so both trees settle on the same (`scratchPath?_congr`).

## Main definitions

* `Alike`: Two trees that are saved to alike.
* `CanSave`: A save of a file would succeed.

## Theorems

* `writesTo_congr`, `scratchPath?_congr`, `canSave_congr`: What such trees have in common.
* `save_eq_ok_iff`: When a save succeeds.
-/

namespace CodeBehind

namespace FileSystem

/-- Two trees that are saved to alike: they are used from the same directory, files would be written with the
    same modes, and the same lies under the names of scratch files. -/
structure Alike (files other : FileSystem) : Prop where
  workdir : other.workdir = files.workdir
  modes : ∀ place, other.fileMode? place = files.fileMode? place
  scratch : ∀ place n, place.getLast? = some (scratchName n) → other.get? place = files.get? place

/-- A save to a path would succeed: there can be a scratch file, and the path can be written. -/
def CanSave (files : FileSystem) (path : String) : Prop :=
  (∃ made, files.createScratch path = .ok made) ∧ ∃ place mode, files.WritesTo path place mode

section

variable (files other : FileSystem)

theorem alike_refl : files.Alike files :=
  ⟨rfl, fun _ => rfl, fun _ _ _ => rfl⟩

theorem alike_symm (h : files.Alike other) : other.Alike files :=
  ⟨h.workdir.symm, fun place => (h.modes place).symm, fun place n hlast => (h.scratch place n hlast).symm⟩

theorem alike_trans (last : FileSystem) (h : files.Alike other) (h' : other.Alike last) : files.Alike last :=
  ⟨h'.workdir.trans h.workdir, fun place => (h'.modes place).trans (h.modes place),
    fun place n hlast => (h'.scratch place n hlast).trans (h.scratch place n hlast)⟩

theorem sameDirectories_of_alike (h : files.Alike other) : files.SameDirectories other := by
  refine ⟨h.workdir, fun place => ?_⟩
  rw [← fileMode?_eq_none_iff, ← fileMode?_eq_none_iff, h.modes]

/-- A path is written at the same place and with the same mode. -/
theorem writesTo_congr (h : files.Alike other) (path : String) (place : Place) (mode : Nat)
    (hwrites : files.WritesTo path place mode) : other.WritesTo path place mode := by
  rcases (writesTo_iff files path place mode).mp hwrites with ⟨hleads, hmode⟩
  have hsame := sameDirectories_of_alike files other h
  exact (writesTo_iff other path place mode).mpr
    ⟨leadsTo_congr files other hsame path place hleads, by rw [h.modes, hmode]⟩

/-- A path to a scratch name ends at a place of that name. -/
theorem getLast?_of_leadsTo_scratchName (directory : String) (n : Nat) (place : Place)
    (h : files.LeadsTo (Path.join directory (scratchName n)) place) : place.getLast? = some (scratchName n) := by
  rw [getLast?_of_leadsTo files _ place h, pathSteps_join_scratchName, List.getLast?_concat]

theorem pathExists_of_alike (h : files.Alike other) (directory : String) (n : Nat)
    (hexists : files.pathExists (Path.join directory (scratchName n)) = true) :
    other.pathExists (Path.join directory (scratchName n)) = true := by
  rcases (pathExists_iff files directory n).mp hexists with ⟨place, hleads, htaken⟩
  refine (pathExists_iff other directory n).mpr ⟨place, ?_, ?_⟩
  · exact leadsTo_congr files other (sameDirectories_of_alike files other h) _ place hleads
  · rwa [h.scratch place n (getLast?_of_leadsTo_scratchName files directory n place hleads)]

theorem pathExists_congr (h : files.Alike other) (directory : String) (n : Nat) :
    other.pathExists (Path.join directory (scratchName n)) =
      files.pathExists (Path.join directory (scratchName n)) := by
  rw [Bool.eq_iff_iff]
  exact ⟨pathExists_of_alike other files (alike_symm files other h) directory n,
    pathExists_of_alike files other h directory n⟩

/-- The scratch file is looked for in the same directory. -/
theorem scratchDirectory_congr (h : files.Alike other) (target : String) :
    other.scratchDirectory target = files.scratchDirectory target := by
  rw [scratchDirectory, scratchDirectory, workdirPath, workdirPath, h.workdir]

/-- With more entries there are more names to try, after those that are tried anyway. -/
theorem scratchNames_beginning (target : String) (hle : files.entries.length ≤ other.entries.length) :
    files.scratchNames target <+: other.scratchNames target := by
  have hrange : ∀ m n, m ≤ n → List.range m <+: List.range n := by
    intro m n hmn
    rcases Nat.le.dest hmn with ⟨k, hk⟩
    rw [← hk, List.range_add]
    exact List.prefix_append _ _
  refine List.IsPrefix.filter _ (List.IsPrefix.map _ (hrange _ _ ?_))
  omega

theorem scratchPath?_of_length_le (h : files.Alike other) (target : String)
    (hle : files.entries.length ≤ other.entries.length) :
    other.scratchPath? target = files.scratchPath? target := by
  -- Both trees try names in the same directory, and a name is free in both or in neither.
  let free := fun (tree : FileSystem) name => !tree.pathExists (Path.join (files.scratchDirectory target) name)
  have hsame : ∀ name ∈ files.scratchNames target, free other name = free files name := by
    intro name hname
    rcases ((mem_scratchNames files target name).mp hname).1 with ⟨n, _, rfl⟩
    simp only [free, pathExists_congr files other h]
  have hpath : ∀ tree : FileSystem, tree.scratchDirectory target = files.scratchDirectory target →
      tree.scratchPath? target =
        ((tree.scratchNames target).find? (free tree)).map (Path.join (files.scratchDirectory target)) := by
    intro tree hdirectory
    rw [scratchPath?, List.find?_map, hdirectory]
    rfl
  rcases exists_scratchPath? files target with ⟨n, _, hsome⟩
  rw [hpath files rfl, Option.map_eq_some_iff] at hsome
  rcases hsome with ⟨name, hfound, _⟩
  -- The names before the first free one are taken in both trees, and it is free in both.
  have hfound' : (files.scratchNames target).find? (free other) = some name := by
    rcases List.find?_eq_some_iff_append.mp hfound with ⟨hfree, before, after, hnames, htaken⟩
    refine List.find?_eq_some_iff_append.mpr ⟨?_, before, after, hnames, fun taken hmem => ?_⟩
    · rw [hsame name (List.mem_of_find?_eq_some hfound)]
      exact hfree
    · rw [hsame taken (hnames ▸ List.mem_append_left _ hmem)]
      exact htaken taken hmem
  rw [hpath other (scratchDirectory_congr files other h target), hpath files rfl, hfound,
    (scratchNames_beginning files other target hle).find?_eq_some hfound']

/-- The same scratch file is chosen. -/
theorem scratchPath?_congr (h : files.Alike other) (target : String) :
    other.scratchPath? target = files.scratchPath? target := by
  rcases Nat.le_total files.entries.length other.entries.length with hle | hle
  · exact scratchPath?_of_length_le files other h target hle
  · exact (scratchPath?_of_length_le other files (alike_symm files other h) target hle).symm

/-- A file is created where a path leads to a free place. -/
theorem createFile_eq_ok_of_free (path : String) (place : Place) (mode : Nat) (hleads : files.LeadsTo path place)
    (hfree : files.get? place = none) :
    files.createFile path mode = .ok (place, files.set place (.file .empty mode)) := by
  have hfollow := follow_of_leadsTo files path place hleads
  rw [destination, hfree] at hfollow
  simp only [createFile, hfollow]

theorem createScratch_of_alike (h : files.Alike other) (target : String)
    (hmade : ∃ made, files.createScratch target = .ok made) : ∃ made, other.createScratch target = .ok made := by
  rcases hmade with ⟨⟨path, place, created⟩, hmade⟩
  rcases createScratch_eq_ok files created target path place hmade with ⟨hleads, hfree, _, n, hlast, _⟩
  -- The path of a scratch file is the one that the search came up with.
  have hpath : files.scratchPath? target = some path := by
    rw [createScratch] at hmade
    cases hfound : files.scratchPath? target with
    | none => simp only [hfound, reduceCtorEq] at hmade
    | some found =>
        cases hfile : files.createFile found scratchMode with
        | error error => simp only [hfound, hfile, Except.map, reduceCtorEq] at hmade
        | ok made =>
            simp only [hfound, hfile, Except.map, Except.ok.injEq, Prod.mk.injEq] at hmade
            rw [hmade.1]
  have hleads' := leadsTo_congr files other (sameDirectories_of_alike files other h) path place hleads
  have hfree' : other.get? place = none := by rw [h.scratch place n hlast, hfree]
  refine ⟨(path, place, other.set place (.file .empty scratchMode)), ?_⟩
  rw [createScratch, scratchPath?_congr files other h, hpath]
  simp only [createFile_eq_ok_of_free other path place scratchMode hleads' hfree', Except.map]

/-- A scratch file can be created in both trees or in neither. -/
theorem createScratch_congr (h : files.Alike other) (target : String) :
    (∃ made, other.createScratch target = .ok made) ↔ ∃ made, files.createScratch target = .ok made :=
  ⟨createScratch_of_alike other files (alike_symm files other h) target, createScratch_of_alike files other h target⟩

/-- The same saves succeed. -/
theorem canSave_congr (h : files.Alike other) (path : String) : other.CanSave path ↔ files.CanSave path := by
  have hone : ∀ a b : FileSystem, a.Alike b → a.CanSave path → b.CanSave path := by
    rintro a b hab ⟨hmade, place, mode, hwrites⟩
    exact ⟨createScratch_of_alike a b hab path hmade, place, mode, writesTo_congr a b hab path place mode hwrites⟩
  exact ⟨hone other files (alike_symm files other h), hone files other h⟩

/-- A save succeeds when there can be a scratch file and the path can be written. -/
theorem save_eq_ok_iff (path text : String) :
    (∃ tree result, files.save path text = (tree, .ok result)) ↔ files.CanSave path := by
  constructor
  · rintro ⟨tree, result, hsave⟩
    refine ⟨?_, ?_⟩
    · cases hmade : files.createScratch path with
      | ok made => exact ⟨made, rfl⟩
      | error error =>
          rw [save, perform_ready, hmade] at hsave
          simp only [Prod.mk.injEq, reduceCtorEq, and_false] at hsave
    · rcases save_cases files path text {} with ⟨place, mode, hwrites, _⟩ | ⟨error, hfailed⟩
      · exact ⟨place, mode, hwrites⟩
      · rw [hfailed] at hsave
        simp only [Prod.mk.injEq, reduceCtorEq, and_false] at hsave
  · rintro ⟨⟨⟨scratch, place, created⟩, hmade⟩, target, mode, hwrites⟩
    exact ⟨_, _, save_of_writesTo files created scratch path text place target mode hmade hwrites⟩

end

end FileSystem

end CodeBehind
