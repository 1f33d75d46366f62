import CodeBehind.Proofs.Synthesis.Guards

/-!
# Beside the document

Where the generated file lies.

The path of the generated file is the directory of the document joined with a name of its own. A join puts its second
part in place of the first if that part is absolute, and it treats an empty directory, one of slashes only and any
other each in its own way. None of this can lead away from the document, since the name is made of the type name, which
is a part of what follows the last slash and so has no slash itself. Dots in the type name do not matter either: they
stand before the suffix and are no step of their own. So the parts of the path are the directory of the document and
the name, whatever the path of the document looks like.

In a tree of files this says that both paths start at the same place, go through the same directories and end with one
name each; the document may have none, if its path ends with a slash.

## Main results

* `outputPath_sibling`: The generated file lies beside its document.

## Theorems

* `outputName_eq`: The name of a generated file.
* `typeName_of_name`: The type name of a path whose last name has an extension.
-/

namespace CodeBehind

namespace Document

theorem outputName_eq (path : String) : outputName path = typeName path ++ ".g.cs" := by
  rw [outputName, String.append_assoc]
  rfl

/-- The type name of a path whose last name has an extension is what stands before that. -/
theorem typeName_of_name (path stem extension : String) (hname : Path.baseName path = stem ++ "." ++ extension)
    (hdot : '.' ∉ extension.toList) : typeName path = stem := by
  have hchars : Path.baseNameChars path.toList = stem.toList ++ '.' :: extension.toList := by
    rw [← String.toList_inj, Path.baseName, String.toList_ofList, String.toList_append, String.toList_append,
      List.append_assoc] at hname
    exact hname
  rw [typeName, hchars, stemChars_append _ _ hdot, String.ofList_toList]

/-- The generated file lies beside its document: its path has the directory of the document, and the name there is the
    type name, which has no slash, with a suffix. A document of that name would declare a type whose name has the
    suffix without the extension. As steps from the same start, the two paths pass through the same directories, and
    the last step is the base name of the document, if it has one, or the name of the file. -/
theorem outputPath_sibling (path : String) :
    Path.directory (outputPath path) = Path.directory path ∧
      Path.baseName (outputPath path) = typeName path ++ ".g.cs" ∧
      '/' ∉ (typeName path).toList ∧
      typeName (outputPath path) = typeName path ++ ".g" ∧
      Path.isAbsolute (outputPath path) = Path.isAbsolute path ∧
      FileSystem.pathNames path =
        FileSystem.pathNames (Path.directory path) ++ FileSystem.pathNames (Path.baseName path) ∧
      FileSystem.pathSteps (outputPath path) =
        FileSystem.pathNames (Path.directory path) ++ [typeName path ++ ".g.cs"] := by
  have hslash := slash_notMem_outputName path
  have hbase : Path.baseName (outputPath path) = outputName path := Path.baseName_join _ _ hslash
  -- The last dot of the name is that of its extension.
  have hstem : outputName path = typeName path ++ ".g" ++ "." ++ "cs" := by
    rw [outputName_eq, String.append_assoc, String.append_assoc]
    rfl
  refine ⟨Path.directory_join path _ hslash, hbase.trans (outputName_eq path), slash_notMem_typeName path,
    typeName_of_name _ _ _ (hbase.trans hstem) (by decide), Path.isAbsolute_join_directory path _ hslash,
    FileSystem.pathNames_parts path, ?_⟩
  rw [pathSteps_outputPath, outputName_eq]

end Document

end CodeBehind
