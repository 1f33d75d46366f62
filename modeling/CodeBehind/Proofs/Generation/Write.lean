import CodeBehind.Generation
import CodeBehind.Proofs.FileSystem.NullByte

/-!
# Writing a generated file

Writing is saving, with a fault of the file system turned into a problem that keeps the text.

What saving does to the tree has been settled for every device, so two things are left. The outcome has to be
read off the result alone: a run that returns has written and a run that fails has not. And the failure has to
be the right one. It is a problem with the path and the text of the file unless the path cannot be a path at
all, which is the fault of the caller and no problem of persistence.

## Theorems

* `write_of_save_eq_ok`, `write_of_save_eq_error`: A write as a save has it.
* `write_cases`: What a write does to the tree and what it reports.
* `write_all_or_nothing`: The same in terms of what can be seen of the tree.
-/

namespace CodeBehind

namespace Generation

/-- A fault as a write reports it. -/
def writeFailure (rendered : Rendered) (error : FileError) : Failure :=
  if error.fault = .nullByte then .file error
  else .problem (.persistence rendered.path error.message rendered.text)

theorem write_of_save_eq_ok (files left : FileSystem) (rendered : Rendered) (device : FileSystem.Device)
    (place : Place) (entry : Entry)
    (h : files.save rendered.path rendered.text device = (left, .ok (place, entry))) :
    write files rendered device = ⟨[.saved place entry], left, .ok ()⟩ := by
  simp only [write, h]

theorem write_of_save_eq_error (files left : FileSystem) (rendered : Rendered) (device : FileSystem.Device)
    (error : FileError) (h : files.save rendered.path rendered.text device = (left, .error error)) :
    write files rendered device = ⟨[], left, .error (writeFailure rendered error)⟩ := by
  simp only [write, h, writeFailure]

/-- A write puts the text where the path leads and returns, or it leaves the tree alone and fails. -/
theorem write_cases (files : FileSystem) (rendered : Rendered) (device : FileSystem.Device) :
    (∃ place mode result, files.WritesTo rendered.path place mode ∧
      files.save rendered.path rendered.text device =
        (files.set place (.file rendered.text.toUTF8 mode), .ok result) ∧
      (write files rendered device).result = .ok () ∧
      (write files rendered device).files = files.set place (.file rendered.text.toUTF8 mode)) ∨
    ∃ error, files.save rendered.path rendered.text device = (files, .error error) ∧
      (write files rendered device).result = .error (writeFailure rendered error) ∧
      (write files rendered device).files = files := by
  rcases files.save_cases rendered.path rendered.text device with ⟨place, mode, hwrites, hsave⟩ | ⟨error, hsave⟩
  · have hwrite := write_of_save_eq_ok files _ rendered device place _ hsave
    refine Or.inl ⟨place, mode, _, hwrites, hsave, ?_, ?_⟩
    · rw [hwrite]
    · rw [hwrite]
  · have hwrite := write_of_save_eq_error files _ rendered device error hsave
    refine Or.inr ⟨error, hsave, ?_, ?_⟩
    · rw [hwrite]
    · rw [hwrite]

/-- Writing is all or nothing, whichever step fails. Either the write returns and the tree is the old one but
    for the path, which leads to the bytes of the text with the mode that the file had or that a new file has;
    or the write fails and the tree is the old one. A failure is a problem with this path and this text, except
    that a path with a null byte is refused. -/
theorem write_all_or_nothing (files : FileSystem) (rendered : Rendered) (device : FileSystem.Device) :
    (∃ place mode, files.WritesTo rendered.path place mode ∧
      (write files rendered device).result = .ok () ∧
      (write files rendered device).files = files.set place (.file rendered.text.toUTF8 mode) ∧
      (write files rendered device).files.stat rendered.path = .ok (place, .file rendered.text.toUTF8 mode) ∧
      ∀ other, other ≠ place → (write files rendered device).files.get? other = files.get? other) ∨
    ∃ failure, (write files rendered device).result = .error failure ∧
      (write files rendered device).files = files ∧
      ((∃ error : FileError, error.fault ≠ .nullByte ∧
          failure = .problem (.persistence rendered.path error.message rendered.text)) ∨
        ∃ error : FileError, error.fault = .nullByte ∧ failure = .file error ∧
          ('\x00' ∈ rendered.path.toList ∨ '\x00' ∈ files.workdirPath.toList)) := by
  rcases write_cases files rendered device with
    ⟨place, mode, _, hwrites, _, hresult, hfiles⟩ | ⟨error, hsave, hresult, hfiles⟩
  · -- The file stands where no directory was, so the path still leads there.
    have hstat := (FileSystem.stat_of_writesTo files _ place rendered.text.toUTF8 mode hwrites).2
    refine Or.inl ⟨place, mode, hwrites, hresult, hfiles, ?_, fun other hne => ?_⟩
    · rw [hfiles]
      exact hstat
    · rw [hfiles]
      exact FileSystem.get?_set_ne files place other _ hne
  · refine Or.inr ⟨_, hresult, hfiles, ?_⟩
    by_cases hnull : error.fault = .nullByte
    · refine Or.inr ⟨error, hnull, if_pos hnull, ?_⟩
      exact (FileSystem.save_eq_nullByte files files _ _ device error hsave hnull).symm
    · exact Or.inl ⟨error, hnull, if_neg hnull⟩

end Generation

end CodeBehind
