import CodeBehind.Proofs.FileSystem.Names
import CodeBehind.Proofs.FileSystem.Sources
import CodeBehind.Proofs.Generation.Saved

/-!
# Generating again

A batch that is run once more, in the tree that it has left.

All that a run puts in place is a file with the name of a generated file, and never where a directory is. So the tree
after a batch has the sources of the tree before it, also if the batch ends early.

If nothing ends it, a batch takes every document as if it were alone in the tree at the start, and this does not change
when files have been generated before. So the second batch generates what the first has generated, and fails where the
first has failed. The tree after it is then the one at the start with some files written into it, and so is the tree
after the first; the files are the same, and it does not show that they were written twice.

## Main results

* `sameSources_generateAll`: A batch keeps the sources of a tree.
* `generateAll_again`: A second batch has the same files and the same failures, and changes nothing.

## Theorems

* `generate_places`: A run puts one generated file in place, or none.
* `sameSources_generate`, `nullFree_generate`: What a run keeps.
* `nullFree_generateAll`: Names stay free of null bytes in a batch too.
-/

namespace CodeBehind

/-- What is generated for a document is called like a generated file. -/
theorem Document.isOutputName_outputName (path : String) : isOutputName (outputName path) = true := by
  have hname : (outputName path).toList = (typeName path).toList ++ (generatedSuffix ++ sourceExtension).toList := by
    rw [outputName, String.append_assoc, String.toList_append]
  rw [isOutputName, List.isSuffixOf_iff_suffix, hname]
  exact List.suffix_append _ _

namespace Generation

/-! ## Sources -/

/-- A place where a generated file is written has the name of one. -/
theorem isOutput_of_writesTo (files : FileSystem) (banner : Banner) (path : String) (rendered : Rendered)
    (place : Place) (mode : Nat) (h : synthesize path banner = .ok rendered)
    (hwrites : files.WritesTo rendered.path place mode) : FileSystem.isOutput place = true := by
  rw [FileSystem.isOutput, getLast?_of_writesTo files banner path rendered place mode h hwrites, Option.any_some]
  exact Document.isOutputName_outputName path

/-- A run leaves the tree alone, or it puts a file where no directory is, at the end of a path and with the name of a
    generated file. -/
theorem generate_places (files : FileSystem) (banner : Banner) (path : String) (dryRun : Bool) :
    (generate files banner path dryRun).files = files ∨
      ∃ target place content mode, files.LeadsTo target place ∧ FileSystem.isOutput place = true ∧
        files.get? place ≠ some .directory ∧
        (generate files banner path dryRun).files = files.set place (.file content mode) := by
  have hcourse := course_generate files banner path dryRun
  generalize generate files banner path dryRun = run at hcourse ⊢
  cases hcourse with
  | refused _ _ => exact Or.inl rfl
  | synthesized _ _ => exact Or.inl rfl
  | unwritten _ _ _ _ => exact Or.inl rfl
  | written rendered place mode hrendered hwrites _ =>
      have houtput := isOutput_of_writesTo files banner path rendered place mode hrendered hwrites
      rcases (FileSystem.writesTo_iff files rendered.path place mode).mp hwrites with ⟨hleads, hmode⟩
      refine Or.inr ⟨_, place, _, mode, hleads, houtput, fun hdirectory => ?_, rfl⟩
      rw [(FileSystem.fileMode?_eq_none_iff files place).mpr hdirectory] at hmode
      exact absurd hmode.symm (Option.some_ne_none mode)

/-- A run keeps the sources of a tree. -/
theorem sameSources_generate (files : FileSystem) (banner : Banner) (path : String) (dryRun : Bool) :
    files.SameSources (generate files banner path dryRun).files := by
  rcases generate_places files banner path dryRun with hfiles | ⟨_, place, content, mode, _, houtput, hfree, hfiles⟩
  · rw [hfiles]
    exact FileSystem.sameSources_refl files
  · rw [hfiles]
    exact FileSystem.sameSources_set files place content mode houtput hfree

/-- A run keeps names free of null bytes. -/
theorem nullFree_generate (files : FileSystem) (banner : Banner) (path : String) (dryRun : Bool)
    (h : files.NullFree) : (generate files banner path dryRun).files.NullFree := by
  rcases generate_places files banner path dryRun with hfiles | ⟨target, place, _, _, hleads, _, _, hfiles⟩
  · rwa [hfiles]
  · rw [hfiles]
    exact FileSystem.nullFree_set files h place _ (FileSystem.nullByte_notMem_of_leadsTo files h target place hleads)

/-- A batch keeps the sources of a tree. -/
theorem sameSources_generateAll (files : FileSystem) (banner : Banner) (dryRun : Bool) (paths : List String) :
    files.SameSources (generateAll files banner dryRun paths).files :=
  generateAll_keeps banner dryRun files.SameSources
    (fun tree path h => FileSystem.sameSources_trans files tree _ h (sameSources_generate tree banner path dryRun))
    paths files (FileSystem.sameSources_refl files)

/-- A batch keeps names free of null bytes. -/
theorem nullFree_generateAll (files : FileSystem) (banner : Banner) (dryRun : Bool) (paths : List String)
    (h : files.NullFree) : (generateAll files banner dryRun paths).files.NullFree :=
  generateAll_keeps banner dryRun FileSystem.NullFree (fun tree path => nullFree_generate tree banner path dryRun)
    paths files h

/-! ## The second batch -/

section

variable (start : FileSystem) (banner : Banner) (paths : List String)
  (hpaths : ∀ path ∈ paths, '\x00' ∉ path.toList) (hworkdir : '\x00' ∉ start.workdirPath.toList)
include hpaths hworkdir

/-- The tree after a second batch that writes is the tree after the first. -/
theorem generateAll_again_wet :
    ∃ report report', (generateAll start banner false paths).result = .ok report ∧
      (generateAll (generateAll start banner false paths).files banner false paths).result = .ok report' ∧
      report'.generated = report.generated ∧
      report'.failures.map Prod.fst = report.failures.map Prod.fst ∧
      (generateAll start banner false paths).files.SameTree
        (generateAll (generateAll start banner false paths).files banner false paths).files := by
  rcases generateAll_run start banner hworkdir paths hpaths [] start (fun _ hmem => absurd hmem List.not_mem_nil)
    (written_refl start) with ⟨report, hreport, hgenerated, hfailures, hwritten⟩
  rw [List.append_nil] at hwritten
  have houtputs : ∀ rendered ∈ report.generated, ∃ path, synthesize path banner = .ok rendered := by
    intro rendered hmem
    rw [hgenerated] at hmem
    rcases List.mem_filterMap.mp hmem with ⟨path, hpath, hsome⟩
    exact ⟨path, (outcome_eq_some start banner path (hpaths path hpath) hworkdir rendered hsome).1⟩
  -- Both batches are told by what becomes of each document in the tree at the start.
  rcases generateAll_run start banner hworkdir paths hpaths report.generated _ houtputs hwritten with
    ⟨report', hreport', hgenerated', hfailures', hwritten'⟩
  have hsame : report'.generated = report.generated := hgenerated'.trans hgenerated.symm
  have htwice : ∀ rendered, rendered ∈ report'.generated ++ report.generated ↔ rendered ∈ report.generated := by
    intro rendered
    rw [hsame, List.mem_append, or_self]
  exact ⟨report, report', hreport, hreport', hsame, hfailures'.trans hfailures.symm,
    sameTree_of_written start _ _ report.generated hwritten (written_congr start _ _ _ htwice hwritten')⟩

/-- A second batch generates the same files, fails for the same documents, and leaves the tree as it has found it. -/
theorem generateAll_again (dryRun : Bool) :
    ∃ report report', (generateAll start banner dryRun paths).result = .ok report ∧
      (generateAll (generateAll start banner dryRun paths).files banner dryRun paths).result = .ok report' ∧
      report'.generated = report.generated ∧
      report'.failures.map Prod.fst = report.failures.map Prod.fst ∧
      (generateAll start banner dryRun paths).files.SameTree
        (generateAll (generateAll start banner dryRun paths).files banner dryRun paths).files := by
  cases dryRun with
  | false => exact generateAll_again_wet start banner paths hpaths hworkdir
  | true =>
      rcases report_generateAll start banner true paths hpaths hworkdir with ⟨report, hreport, _⟩
      rw [files_generateAll_dry, files_generateAll_dry]
      exact ⟨report, report, hreport, hreport, rfl, rfl, FileSystem.sameTree_refl start⟩

end

end Generation

end CodeBehind
