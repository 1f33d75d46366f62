import CodeBehind.Proofs.Path.Tidy
import CodeBehind.Proofs.Synthesis

/-!
# Documents by their tidy paths

A document that was named on the command line keeps the spelling of its path, and one that was found below a directory
has a tidy path. Which of the two it was makes no difference.

The base name of a path, if it is a step at all, is the last step, and tidying keeps it. So the type name is the same,
and with it whether the document is accepted and what is declared for it. The path of the generated file differs from
that of the document in the last step only. Tidying does not touch that step either, so it does not matter whether the
file is placed beside the tidy document, or beside the document first and its path is tidied then.

A path that ends with a slash or a dot is left out, since the tidy form ends with another name.

## Main results

* `tidy_document`: A document and its tidy form have the same code-behind, at the same tidy path.

## Theorems

* `hasName_congr`: Documents of the same type name are accepted together.
* `synthesize_congr`: Accepted documents of the same type name have the same text.
* `tidy_outputPath`, `tidy_eq_intercalate`: The tidy paths of the generated file and of the document.
* `baseName_tidy`, `typeName_tidy`: The names of a tidy path.
* `outputPath_tidy`: The path of the generated file by the tidy path of the document.
-/

namespace CodeBehind

namespace Document

/-- Documents of the same type name are accepted or refused together. -/
theorem hasName_congr (path path' : String) (h : typeName path' = typeName path) : hasName path' = hasName path := by
  rw [hasName, hasName, h]

/-- Accepted documents of the same type name have the same text. -/
theorem synthesize_congr (path path' : String) (banner : Banner) (h : typeName path' = typeName path)
    (hname : hasName path = true) :
    ∃ text, synthesize path banner = .ok ⟨outputPath path, text⟩ ∧
      synthesize path' banner = .ok ⟨outputPath path', text⟩ := by
  have hname' : hasName path' = true := (hasName_congr path path' h).trans hname
  rcases exists_synthesizeRequest ⟨path⟩ banner (allBlank_of_hasName path hname) with ⟨text, htext⟩
  rcases exists_synthesizeRequest ⟨path'⟩ banner (allBlank_of_hasName path' hname') with ⟨text', htext'⟩
  -- Both trees are declared for one name.
  have hrender := (synthesizeRequest_eq_ok _ banner _ htext).2
  have hrender' := (synthesizeRequest_eq_ok _ banner _ htext').2
  rw [Declaration.unit_congr ⟨path'⟩ ⟨path⟩ h, hrender, Except.ok.injEq] at hrender'
  have hsame : text' = text := hrender'.symm
  rw [hsame] at htext'
  exact ⟨text, (synthesize_of_hasName path banner hname).trans htext,
    (synthesize_of_hasName path' banner hname').trans htext'⟩

/-- The path of the generated file in its tidy form: the steps of the directory and the name of the file. -/
theorem tidy_outputPath (path : String) :
    Path.tidy (outputPath path) =
      Path.root path ++ "/".intercalate (Path.steps (Path.directory path) ++ [outputName path]) := by
  have hslash := slash_notMem_outputName path
  have hrelative := FileSystem.isAbsolute_of_slash_notMem _ hslash
  have hdot : outputName path ≠ "." := by
    intro heq
    have hlast := getLast?_outputName path
    rw [heq] at hlast
    exact absurd hlast (by decide)
  have hsteps : Path.steps (outputPath path) = Path.steps (Path.directory path) ++ [outputName path] := by
    change Path.steps (Path.join (Path.directory path) (outputName path)) = _
    rw [Path.steps_join _ _ hrelative, Path.steps_of_slash_notMem _ hslash (outputName_ne_empty path) hdot]
  have hroot : Path.root (outputPath path) = Path.root path := by
    change Path.root (Path.join (Path.directory path) (outputName path)) = _
    rw [Path.root_join _ _ hrelative, Path.root_directory]
  have hne : Path.steps (outputPath path) ≠ [] := by
    rw [hsteps]
    exact List.append_ne_nil_of_right_ne_nil _ (List.cons_ne_nil _ _)
  rw [Path.tidy_of_steps _ hne, hsteps, hroot]

section

variable (path : String) (hempty : Path.baseName path ≠ "") (hdot : Path.baseName path ≠ ".")
include hempty hdot

/-- The tidy form of a path that ends with a name: the steps of the directory and the name. -/
theorem tidy_eq_intercalate :
    Path.tidy path =
      Path.root path ++ "/".intercalate (Path.steps (Path.directory path) ++ [Path.baseName path]) := by
  have hsteps := Path.steps_parts path hempty hdot
  have hne : Path.steps path ≠ [] := by
    rw [hsteps]
    exact List.append_ne_nil_of_right_ne_nil _ (List.cons_ne_nil _ _)
  rw [Path.tidy_of_steps path hne, hsteps]

theorem baseName_tidy : Path.baseName (Path.tidy path) = Path.baseName path := by
  rw [tidy_eq_intercalate path hempty hdot]
  exact Path.baseName_intercalate path _ _ (Path.forall_mem_steps _) (Path.slash_notMem_baseName path)

theorem typeName_tidy : typeName (Path.tidy path) = typeName path :=
  typeName_congr path (Path.tidy path) (baseName_tidy path hempty hdot)

/-- The file is placed beside the tidy document where it is placed beside the document. -/
theorem outputPath_tidy : outputPath (Path.tidy path) = Path.tidy (outputPath path) := by
  have hname : outputName (Path.tidy path) = outputName path := by
    rw [outputName, outputName, typeName_tidy path hempty hdot]
  have houtput : outputPath (Path.tidy path) = Path.join (Path.directory (Path.tidy path)) (outputName path) := by
    rw [← hname]
    rfl
  -- Both sides are put together from the same steps, with the name of the file as the last.
  rw [houtput, tidy_outputPath, tidy_eq_intercalate path hempty hdot]
  exact Path.join_directory_intercalate path _ _ _ (Path.forall_mem_steps _) (Path.slash_notMem_baseName path)
    (slash_notMem_outputName path)

/-- A document and its tidy form have the same type name, and the files generated for them have the same tidy path.
    They are accepted or refused together, and if they are accepted they have the same text, whatever the banner is. -/
theorem tidy_document :
    typeName (Path.tidy path) = typeName path ∧
    outputPath (Path.tidy path) = Path.tidy (outputPath path) ∧
    ((∃ request, Request.ofPath (Path.tidy path) = .ok request) ↔ ∃ request, Request.ofPath path = .ok request) ∧
    ∀ banner,
      (∃ text, synthesize path banner = .ok ⟨outputPath path, text⟩ ∧
        synthesize (Path.tidy path) banner = .ok ⟨Path.tidy (outputPath path), text⟩) ∨
      ((∃ failure, synthesize path banner = .error failure) ∧
        ∃ failure, synthesize (Path.tidy path) banner = .error failure) := by
  have htype := typeName_tidy path hempty hdot
  have houtput := outputPath_tidy path hempty hdot
  have hsame := hasName_congr path (Path.tidy path) htype
  refine ⟨htype, houtput, ?_⟩
  by_cases hname : hasName path = true
  · have hname' := hsame.trans hname
    refine ⟨⟨fun _ => ⟨_, ofPath_of_hasName path hname⟩, fun _ => ⟨_, ofPath_of_hasName _ hname'⟩⟩, fun banner => ?_⟩
    rcases synthesize_congr path (Path.tidy path) banner htype hname with ⟨text, htext, htext'⟩
    rw [houtput] at htext'
    exact Or.inl ⟨text, htext, htext'⟩
  · have hname' : ¬ hasName (Path.tidy path) = true := by rwa [hsame]
    refine ⟨?_, fun banner => Or.inr ⟨⟨_, synthesize_of_not_hasName path banner hname⟩,
      ⟨_, synthesize_of_not_hasName _ banner hname'⟩⟩⟩
    rw [ofPath_of_not_hasName path hname, ofPath_of_not_hasName _ hname']
    simp only [reduceCtorEq, exists_false]

end

/-- Doubled slashes, dots and a parent step before a document in a directory at the root. -/
theorem tidy_document_untidy :
    Path.tidy "//srv/.//ui/../ui.d/./Main.page.uxml" = "//srv/ui/../ui.d/Main.page.uxml" ∧
      outputPath "//srv/ui/../ui.d/Main.page.uxml" = Path.tidy "//srv/.//ui/../ui.d/./Main.page.g.cs" := by
  have htidy : Path.tidy "//srv/.//ui/../ui.d/./Main.page.uxml" = "//srv/ui/../ui.d/Main.page.uxml" := by decide
  have houtput : outputPath "//srv/.//ui/../ui.d/./Main.page.uxml" = "//srv/.//ui/../ui.d/./Main.page.g.cs" := by
    decide
  have hdocument := tidy_document "//srv/.//ui/../ui.d/./Main.page.uxml" (by decide) (by decide)
  rw [htidy, houtput] at hdocument
  exact ⟨htidy, hdocument.2.1⟩

end Document

end CodeBehind
