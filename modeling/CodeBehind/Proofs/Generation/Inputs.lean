import CodeBehind.Proofs.Discovery.Sources
import CodeBehind.Proofs.Document.Extension
import CodeBehind.Proofs.Document.Sibling
import CodeBehind.Proofs.FileSystem.WellFormed
import CodeBehind.Proofs.Generation.Again
import CodeBehind.Proofs.Path.Tidy

/-!
# The inputs of a batch

No document is changed by the files that are generated, at any time.

While a file is saved, the tree is never more than one file away from what it was: there is a scratch file with whatever
it holds by then, or there is the whole generated file (`duringSave_cases`). So a document could only be changed if one
of the two lay in its place, and both have names of their own. A scratch file is put where nothing was. The name of a
generated file has the suffix before its last dot. The base name of its document has the type name there, without the
suffix, so the two names differ whatever the document is called. And neither of the names ends like the extension of
documents, in any letter case, so other documents are spared as well.

What a search finds is decided by the documents and the directories. Both stay, so the same search finds the same.

## Main definitions

* `DuringSave`: The trees that are there while a text is saved.

## Main results

* `generateAll_spares_documents`: A batch changes no document, and searches find the same before and after.

## Theorems

* `duringSave_cases`: What such a tree has that was not there before.
* `stat_set_of_ne`: A file that is put elsewhere has no effect on what a path leads to.
* `getLast?_eq_baseName`: Where a path leads ends with its base name.
* `baseName_outputPath_ne`, `isDocument_outputPath`: What the generated file is not called.
* `find_congr`: A search in a tree with the same sources.
* `wellFormed_generateAll`: A batch keeps a tree well-formed.
-/

namespace CodeBehind

/-! ## While a file is saved -/

namespace FileSystem

/-- A tree that is there at some time while a text is saved to a path: with the scratch file that was created, or with
    what the steps after that have made of it, on any device. -/
def DuringSave (files : FileSystem) (path text : String) (tree : FileSystem) : Prop :=
  ∃ scratch place created, files.createScratch path = .ok (scratch, place, created) ∧
    (tree = created ∨ ∃ device, tree = (created.complete device scratch place path text).1)

/-- While a text is saved there is a scratch file where nothing was, or the whole text at the end of the path. -/
theorem duringSave_cases (files : FileSystem) (path text : String) (tree : FileSystem)
    (h : files.DuringSave path text tree) :
    ∃ place content mode, tree = files.set place (.file content mode) ∧ files.get? place ≠ some .directory ∧
      ((files.get? place = none ∧ ∃ n, place.getLast? = some (scratchName n)) ∨ files.LeadsTo path place) := by
  rcases h with ⟨scratch, place, created, hcreate, htree⟩
  rcases createScratch_eq_ok files created path scratch place hcreate with ⟨_, hfree, hcreated, n, hlast, hfresh⟩
  have hfile : files.get? place ≠ some .directory := by
    rw [hfree]
    exact (Option.some_ne_none _).symm
  rcases htree with htree | ⟨device, htree⟩
  · -- Nothing has been done with the scratch file yet.
    exact ⟨place, _, _, htree.trans hcreated, hfile, Or.inl ⟨hfree, n, hlast⟩⟩
  · rw [hcreated] at htree
    rcases complete_cases files device scratch (scratchName n) path text place hfree hlast hfresh with
      ⟨target, mode, hwrites, hdone⟩ | ⟨content, mode, error, hleft⟩
    · rcases (writesTo_iff files path target mode).mp hwrites with ⟨htarget, hmode⟩
      rw [hdone] at htree
      refine ⟨target, _, mode, htree, fun hdirectory => ?_, Or.inr htarget⟩
      rw [(fileMode?_eq_none_iff files target).mpr hdirectory] at hmode
      exact absurd hmode.symm (Option.some_ne_none mode)
    · rw [hleft] at htree
      exact ⟨place, content, mode, htree, hfile, Or.inl ⟨hfree, n, hlast⟩⟩

/-- The tree after a save that went well is the last of those. -/
theorem duringSave_of_save (files : FileSystem) (path text : String) (tree : FileSystem) (saved : Place × Entry)
    (h : files.save path text = (tree, .ok saved)) : files.DuringSave path text tree := by
  simp only [save, perform_ready] at h
  cases hcreate : files.createScratch path with
  | error error =>
      rw [hcreate] at h
      simp only [Prod.mk.injEq, reduceCtorEq, and_false] at h
  | ok made =>
      rcases made with ⟨scratch, place, created⟩
      refine ⟨scratch, place, created, hcreate, Or.inr ⟨{}, ?_⟩⟩
      rw [hcreate] at h
      rcases hdone : created.complete {} scratch place path text with ⟨left, result⟩
      simp only [hdone] at h
      cases result with
      | error error => simp only [Prod.mk.injEq, reduceCtorEq, and_false] at h
      | ok entry => exact (congrArg Prod.fst h).symm

/-- A file that is put elsewhere has no effect on what a path leads to. -/
theorem stat_set_of_ne (files : FileSystem) (path : String) (place other : Place) (entry : Entry)
    (content : ByteArray) (mode : Nat) (hstat : files.stat path = .ok (place, entry))
    (hfile : files.get? other ≠ some .directory) (hne : entry = .directory ∨ place ≠ other) :
    (files.set other (.file content mode)).stat path = .ok (place, entry) := by
  have hsame := sameDirectories_set_file files other content mode (ne_nil_of_get? files other hfile) hfile
  cases entry with
  | directory => exact stat_directory_of_sameDirectories files _ hsame path place hstat
  | file found foundMode =>
      have hplace := hne.resolve_left Entry.noConfusion
      rcases (stat_eq_file_iff files path place found foundMode).mp hstat with ⟨hleads, hentry⟩
      refine (stat_eq_file_iff _ path place found foundMode).mpr ⟨leadsTo_congr files _ hsame path place hleads, ?_⟩
      rw [get?_set_ne files other place _ hplace, hentry]

/-- Where a path leads ends with the base name of the path. -/
theorem getLast?_eq_baseName (files : FileSystem) (path : String) (place : Place) (h : files.LeadsTo path place) :
    place.getLast? = some (Path.baseName path) := by
  rcases pathNames_of_leadsTo files path place h with ⟨hend, hnames⟩
  have hlast := getLast?_of_leadsTo files path place h
  rw [hnames, pathNames_parts] at hlast
  by_cases hempty : Path.baseName path = ""
  · -- A path without a base name asks for a directory, or is no path at all.
    rcases Path.eq_empty_or_getLast? path hempty with hpath | hslash
    · rw [hpath] at h
      exact absurd h.1 (by decide)
    · exact absurd hslash hend
  · rw [pathNames_of_slash_notMem _ (Path.slash_notMem_baseName path) hempty, List.getLast?_concat] at hlast
    exact hlast

end FileSystem

/-! ## Names of generated files and scratch files -/

namespace Document

theorem baseName_outputPath (path : String) : Path.baseName (outputPath path) = outputName path :=
  Path.baseName_join _ _ (slash_notMem_outputName path)

/-- The generated file is not called like its document, whatever that is called. -/
theorem baseName_outputPath_ne (path : String) : Path.baseName (outputPath path) ≠ Path.baseName path := by
  intro heq
  have hname : Path.baseName (outputPath path) = typeName path ++ ".g" ++ "." ++ "cs" := by
    rw [baseName_outputPath, outputName, String.append_assoc, String.append_assoc, String.append_assoc]
    rfl
  -- The suffix stands before the last dot of one name and not of the other.
  have hlonger := typeName_of_name (outputPath path) _ "cs" hname (by decide)
  rw [typeName_congr path (outputPath path) heq] at hlonger
  have hlength := congrArg String.length hlonger
  rw [String.length_append] at hlength
  have hsuffix : ".g".length = 2 := rfl
  omega

/-- The generated file is no document. -/
theorem isDocument_outputPath (path : String) : isDocument (outputPath path) extension = false := by
  have hlast : (outputPath path).toList.getLast? = (outputName path).toList.getLast? :=
    FileSystem.getLast?_join _ _ (slash_notMem_outputName path) (outputName_ne_empty path)
  exact isDocument_of_getLast? _ 's' (hlast.trans (getLast?_outputName path)) (by decide) (by decide)

/-- No document is called like a scratch file. -/
theorem isDocument_scratchName (n : Nat) : isDocument (FileSystem.scratchName n) extension = false :=
  isDocument_of_getLast? _ 'p' (Text.getLast?_append _ _ _ (by decide)) (by decide) (by decide)

/-- No document is called like a generated file. -/
theorem isDocument_outputName (path : String) : isDocument (outputName path) extension = false :=
  isDocument_of_getLast? _ 's' (getLast?_outputName path) (by decide) (by decide)

/-- A place with the name of a document has not that of a generated file. -/
theorem isOutput_of_isDocument_name (place : Place) (name : String) (hname : place.getLast? = some name)
    (hdocument : isDocument name extension = true) : FileSystem.isOutput place = false := by
  rw [Bool.eq_false_iff]
  intro houtput
  rcases (isOutput_eq_true_iff place).mp houtput with ⟨other, hother, hoption⟩
  rw [hname, Option.some.injEq] at hother
  rw [← hother] at hoption
  rw [isDocument_of_getLast? name 's' (getLast?_of_isOutputName name hoption) (by decide) (by decide)] at hdocument
  exact Bool.false_ne_true hdocument

end Document

/-! ## Searching -/

namespace Discovery

/-- A path that leads to no directory stands for itself. -/
theorem find_of_not_directory (files : FileSystem) (root extension : String) (found : Option Entry)
    (h : files.find? (Path.tidy root) = .ok found) (hfound : found ≠ some .directory) :
    find files root extension = .ok [root] := by
  unfold find
  cases found with
  | none => simp only [h]
  | some entry =>
      cases entry with
      | directory => exact absurd rfl hfound
      | file content mode => simp only [h]

/-- A search in a tree with the same sources finds the same. -/
theorem find_congr (files other : FileSystem) (h : files.SameSources other) (root : String) :
    find other root Document.extension = find files root Document.extension := by
  have hback := FileSystem.sameSources_symm files other h
  by_cases hdirectory : files.find? (Path.tidy root) = .ok (some .directory)
  · rcases (FileSystem.find?_eq_some_iff files _ _).mp hdirectory with ⟨place, hstat⟩
    have hstat' := FileSystem.stat_directory_congr files other h _ place hstat
    rw [find_of_tidy_directory files root _ place hstat, find_of_tidy_directory other root _ place hstat',
      below_congr files other h place root]
  · -- There is no directory in either tree, and then the path stands for itself or cannot be looked at.
    have hdirectory' : other.find? (Path.tidy root) ≠ .ok (some .directory) := by
      intro hfound
      rcases (FileSystem.find?_eq_some_iff other _ _).mp hfound with ⟨place, hstat⟩
      exact hdirectory ((FileSystem.find?_eq_some_iff files _ _).mpr
        ⟨place, FileSystem.stat_directory_congr other files hback _ place hstat⟩)
    cases hfound : files.find? (Path.tidy root) with
    | error error =>
        have hfound' := FileSystem.find?_error_congr files other h.directories _ error hfound
        unfold find
        simp only [hfound, hfound']
    | ok found =>
        cases hfound' : other.find? (Path.tidy root) with
        | error error =>
            have hsame := FileSystem.find?_error_congr other files hback.directories _ error hfound'
            rw [hfound] at hsame
            simp only [reduceCtorEq] at hsame
        | ok found' =>
            rw [find_of_not_directory files root _ found hfound (fun heq => hdirectory (heq ▸ hfound)),
              find_of_not_directory other root _ found' hfound' (fun heq => hdirectory' (heq ▸ hfound'))]

end Discovery

/-! ## Runs and batches -/

namespace Generation

/-- A run leaves the tree alone, or it leaves what is there once the code-behind is saved. -/
theorem files_generate (files : FileSystem) (banner : Banner) (path : String) (dryRun : Bool) :
    (generate files banner path dryRun).files = files ∨
      ∃ text, files.DuringSave (Document.outputPath path) text (generate files banner path dryRun).files := by
  have hcourse := course_generate files banner path dryRun
  generalize generate files banner path dryRun = run at hcourse ⊢
  cases hcourse with
  | refused _ _ => exact Or.inl rfl
  | synthesized _ _ => exact Or.inl rfl
  | unwritten _ _ _ _ => exact Or.inl rfl
  | written rendered place mode hrendered _ hsave =>
      rw [← path_eq_of_synthesize path banner rendered hrendered]
      exact Or.inr ⟨rendered.text, FileSystem.duringSave_of_save files rendered.path rendered.text _ _ hsave⟩

/-- A document is not changed while its own code-behind is saved. -/
theorem stat_of_duringSave (files : FileSystem) (path text : String) (tree : FileSystem) (found : Place × Entry)
    (hstat : files.stat path = .ok found) (h : files.DuringSave (Document.outputPath path) text tree) :
    tree.stat path = .ok found := by
  rcases found with ⟨document, entry⟩
  rcases FileSystem.duringSave_cases files _ text tree h with ⟨place, content, mode, rfl, hfile, hkind⟩
  refine FileSystem.stat_set_of_ne files path document place entry content mode hstat hfile ?_
  cases entry with
  | directory => exact Or.inl rfl
  | file found foundMode =>
      rcases (FileSystem.stat_eq_file_iff files path document found foundMode).mp hstat with ⟨hleads, hentry⟩
      refine Or.inr (fun heq => ?_)
      rw [heq] at hleads hentry
      rcases hkind with ⟨hfree, _⟩ | houtput
      · -- The scratch file lies where nothing was, and the document was there.
        rw [hfree] at hentry
        exact absurd hentry.symm (Option.some_ne_none _)
      · -- The generated file has a name of its own.
        have hname := FileSystem.getLast?_eq_baseName files path place hleads
        rw [FileSystem.getLast?_eq_baseName files _ place houtput, Option.some.injEq] at hname
        exact Document.baseName_outputPath_ne path hname

/-- A run does not change its document. -/
theorem stat_generate (files : FileSystem) (banner : Banner) (path : String) (dryRun : Bool) (found : Place × Entry)
    (hstat : files.stat path = .ok found) : (generate files banner path dryRun).files.stat path = .ok found := by
  rcases files_generate files banner path dryRun with hfiles | ⟨text, hsave⟩
  · rw [hfiles, hstat]
  · exact stat_of_duringSave files path text _ found hstat hsave

section

variable (place : Place) (name : String) (hname : place.getLast? = some name)
  (hdocument : Document.isDocument name Document.extension = true)
include hname hdocument

/-- What has the name of a document is not changed while some code-behind is saved. -/
theorem get?_of_duringSave (files : FileSystem) (path text : String) (tree : FileSystem)
    (h : files.DuringSave (Document.outputPath path) text tree) : tree.get? place = files.get? place := by
  rcases FileSystem.duringSave_cases files _ text tree h with ⟨other, content, mode, rfl, _, hkind⟩
  refine FileSystem.get?_set_ne files other place _ (fun heq => ?_)
  -- Neither of the two files that can be there has the name of a document.
  rw [heq] at hname
  rcases hkind with ⟨_, n, hlast⟩ | houtput
  · rw [hname, Option.some.injEq] at hlast
    rw [hlast, Document.isDocument_scratchName] at hdocument
    exact Bool.false_ne_true hdocument
  · have hlast := FileSystem.getLast?_eq_baseName files _ other houtput
    rw [hname, Option.some.injEq, Document.baseName_outputPath] at hlast
    rw [hlast, Document.isDocument_outputName] at hdocument
    exact Bool.false_ne_true hdocument

/-- What has the name of a document is not changed by a batch. -/
theorem get?_generateAll (files : FileSystem) (banner : Banner) (dryRun : Bool) (paths : List String) :
    (generateAll files banner dryRun paths).files.get? place = files.get? place :=
  FileSystem.get?_of_sameSources files _ (sameSources_generateAll files banner dryRun paths) place
    (Document.isOutput_of_isDocument_name place name hname hdocument)

end

/-- A batch keeps a tree well-formed, if there is the directory in which it runs. -/
theorem wellFormed_generateAll (files : FileSystem) (banner : Banner) (dryRun : Bool) (paths : List String)
    (h : files.WellFormed) (hworkdir : files.get? files.workdir = some .directory) :
    (generateAll files banner dryRun paths).files.WellFormed := by
  refine (generateAll_keeps banner dryRun
    (fun tree => tree.WellFormed ∧ tree.get? tree.workdir = some .directory) ?_ paths files ⟨h, hworkdir⟩).1
  rintro tree path ⟨htree, hthere⟩
  rcases generate_places tree banner path dryRun with hfiles | ⟨target, place, content, mode, hleads, _, hfree, hfiles⟩
  · rw [hfiles]
    exact ⟨htree, hthere⟩
  · have hroot := FileSystem.ne_nil_of_get? tree place hfree
    have hsame := FileSystem.sameDirectories_set_file tree place content mode hroot hfree
    rw [hfiles]
    exact ⟨FileSystem.wellFormed_set_of_leadsTo tree htree hthere target place content mode hleads hfree,
      (hsame.2 _).mp hthere⟩

/-- A document beside another one that is called like the file generated for it. -/
def shadowedTree : FileSystem where
  entries := [(["Main.UXML"], .file "<page/>".toUTF8 0o600), (["Main.g.cs"], .file "<part/>".toUTF8 0o644)]
  workdir := []
  umask := 0o022

end Generation

end CodeBehind
