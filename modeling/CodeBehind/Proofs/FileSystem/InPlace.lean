import CodeBehind.Proofs.FileSystem.Atomic

/-!
# Files written in place

A file that is opened and filled without a scratch file.

A path is opened for writing if it leads to a file, or to a free place in a directory. In both cases the tree
afterwards is the old one with one entry put at that place, and the entry has the mode of the file or that of a new
one (`fill_openFile`). Once it is written, the path leads to that file. So it can be opened again, and who fills it with
the bytes it has leaves the tree alone (`fill_again`).

## Theorems

* `openFile_of_stat`: A path that leads to a file is opened there.
* `fill_openFile`: What opening and filling do to the tree.
* `fill_again`: Filling a file with what it holds.
-/

namespace CodeBehind

namespace FileSystem

/-- A path that leads to a file is opened there, and the tree stays as it is. -/
theorem openFile_of_stat (files : FileSystem) (path : String) (place : Place) (content : ByteArray) (mode : Nat)
    (h : files.stat path = .ok (place, .file content mode)) : files.openFile path = .ok (place, files) := by
  rw [stat_eq_ok_iff] at h
  rw [openFile, h]

theorem fill_of_file (files : FileSystem) (place : Place) (old content : ByteArray) (mode : Nat)
    (h : files.get? place = some (.file old mode)) :
    files.fill place content = files.set place (.file content mode) := by
  rw [fill, h]

/-- Opening a file and filling it puts one entry where the path leads to, with the mode that was there or that of a
    new file. -/
theorem fill_openFile (files opened : FileSystem) (path : String) (place : Place) (content : ByteArray)
    (h : files.openFile path = .ok (place, opened)) :
    ∃ mode, files.WritesTo path place mode ∧ opened.fill place content = files.set place (.file content mode) := by
  rw [openFile] at h
  split at h
  · next found old mode hfollow =>
      rw [Except.ok.injEq, Prod.mk.injEq] at h
      rw [h.1] at hfollow
      rw [← h.2]
      exact ⟨mode, Or.inl ⟨old, hfollow⟩,
        fill_of_file files place old content mode (leadsTo_of_follow_file files path place old mode hfollow).2⟩
  · simp only [reduceCtorEq] at h
  · next found hfollow =>
      rw [Except.ok.injEq, Prod.mk.injEq] at h
      rw [h.1] at hfollow h
      have hplace := leadsTo_ne_nil files path place (leadsTo_of_follow_free files path place hfollow).1
      refine ⟨files.createdMode openMode, Or.inr ⟨hfollow, rfl⟩, ?_⟩
      -- The new file is empty for a moment, and what is put over it is all that is left.
      rw [← h.2, fill_of_file _ place .empty content _ (get?_set_self files place _ hplace), set_set]
  · simp only [reduceCtorEq] at h

/-- A file that is filled with what it holds stays as it is. -/
theorem fill_again (files : FileSystem) (place : Place) (content : ByteArray) (mode : Nat) (hplace : place ≠ []) :
    (files.set place (.file content mode)).fill place content = files.set place (.file content mode) := by
  rw [fill_of_file _ place content content mode (get?_set_self files place _ hplace), set_set]

end FileSystem

end CodeBehind
