import CodeBehind.Proofs.Discovery
import CodeBehind.Proofs.Document.Extension
import CodeBehind.Proofs.FileSystem.Sources
import CodeBehind.Proofs.FileSystem.Steps

/-!
# Documents and generated files

Generated files are never found as documents.

A document is told by the end of its path in lower case, and whatever the spelling is, that end is an l. The name of a
generated file ends with an s. Hence no path that ends with such a name is a document.

A search lists the files of a tree in the order of its entries and keeps the documents. What is generated is passed
over, so trees with the same sources give the same list, not only the same documents. A path that was given is a
document only if it does not end with such a name; then it leads to the same file in both trees. Directories are the
same anyway. So the documents that paths stand for depend on the sources alone.

## Main results

* `collect_congr`: Trees with the same sources have the same documents, in the same order.

## Theorems

* `getLast?_of_isOutput`, `isOutput_of_isDocument`: A document is no generated file.
* `below_congr`, `documentsAt_congr`: The documents of a directory, and of a path.
-/

namespace CodeBehind

/-! ## The end of a path -/

namespace Document

open FileSystem (isOutput pathNames pathSteps)

theorem getLast?_of_isOutputName (name : String) (h : isOutputName name = true) : name.toList.getLast? = some 's' := by
  rcases List.isSuffixOf_iff_suffix.mp h with ⟨front, hfront⟩
  have hsuffix : (generatedSuffix ++ sourceExtension).toList.getLast? = some 's' := by decide
  rw [← hfront, List.getLast?_append, hsuffix, Option.some_or]

theorem isOutput_eq_true_iff (names : List String) :
    isOutput names = true ↔ ∃ name, names.getLast? = some name ∧ isOutputName name = true := by
  rw [isOutput, Option.any_eq_true]

/-- The last name of a path that does not end with a slash ends as the path does. -/
theorem exists_getLast?_pathNames (path : String) (c : Char) (hlast : path.toList.getLast? = some c) (hc : c ≠ '/') :
    ∃ name, (pathNames path).getLast? = some name ∧ name.toList.getLast? = some c := by
  by_cases hslash : '/' ∈ path.toList
  -- The last name is what is behind the last slash; it is not empty, since the path does not end there.
  · rcases Text.exists_last_of_mem '/' path.toList hslash with ⟨before, after, hpath, hafter⟩
    have hend : after.getLast? = some c := by
      cases after with
      | nil =>
          rw [hpath, List.getLast?_concat, Option.some.injEq] at hlast
          exact absurd hlast.symm hc
      | cons d rest => rwa [hpath, List.getLast?_append, List.getLast?_cons_cons, List.getLast?_cons, Option.some_or,
          ← List.getLast?_cons] at hlast
    have hname : pathNames (String.ofList after) = [String.ofList after] := by
      refine FileSystem.pathNames_of_slash_notMem _ (by rwa [String.toList_ofList]) (fun hempty => ?_)
      have hnil := congrArg String.toList hempty
      rw [String.toList_ofList] at hnil
      rw [hnil] at hend
      exact absurd hend.symm (Option.some_ne_none c)
    have hwhole : path = String.ofList (before ++ '/' :: after) := by rw [← hpath, String.ofList_toList]
    refine ⟨String.ofList after, ?_, by rw [String.toList_ofList, hend]⟩
    rw [hwhole, FileSystem.pathNames_append_slash, hname, List.getLast?_concat]
  · have hne : path ≠ "" := by
      intro hempty
      rw [hempty] at hlast
      exact absurd hlast.symm (Option.some_ne_none c)
    refine ⟨path, ?_, hlast⟩
    rw [FileSystem.pathNames_of_slash_notMem path hslash hne, List.getLast?_singleton]

/-- A path that ends with the name of a generated file ends as the name does. -/
theorem getLast?_of_isOutput (path : String) (h : isOutput (pathSteps path) = true) :
    path.toList.getLast? = some 's' := by
  rcases (isOutput_eq_true_iff _).mp h with ⟨name, hname, houtput⟩
  have hend := getLast?_of_isOutputName name houtput
  rw [pathSteps] at hname
  split at hname
  · -- The dot behind a slash is no such name.
    rw [List.getLast?_concat, Option.some.injEq] at hname
    rw [← hname] at hend
    exact absurd hend (by decide)
  · next hslash =>
      cases hlast : path.toList.getLast? with
      | none =>
          rw [List.getLast?_eq_none_iff] at hlast
          rw [String.toList_eq_nil_iff.mp hlast, show pathNames "" = [] by decide, List.getLast?_nil] at hname
          exact absurd hname.symm (Option.some_ne_none name)
      | some c =>
          have hc : c ≠ '/' := fun heq => hslash (heq ▸ hlast)
          rcases exists_getLast?_pathNames path c hlast hc with ⟨last, hnames, hchar⟩
          rw [hnames, Option.some.injEq] at hname
          rw [hname, hend] at hchar
          exact hchar.symm

/-- The path of a document does not end with the name of a generated file. -/
theorem isOutput_of_isDocument (path : String) (h : isDocument path extension = true) :
    isOutput (pathSteps path) = false := by
  rw [Bool.eq_false_iff]
  intro houtput
  rw [isDocument_of_getLast? path 's' (getLast?_of_isOutput path houtput) (by decide) (by decide)] at h
  exact Bool.false_ne_true h

end Document

namespace Discovery

open Document (isDocument)
open FileSystem (isOutput)

/-! ## Directories -/

/-- A path below a directory ends as its last name does. -/
theorem getLast?_below (base : String) (names : List String) (name : String) (c : Char)
    (hname : names.getLast? = some name) (hc : name.toList.getLast? = some c) :
    (Path.below base names).toList.getLast? = some c := by
  have hsteps : ((Path.steps base ++ names).map String.toList).getLast? = some name.toList := by
    rw [List.getLast?_map, List.getLast?_append, hname, Option.some_or, Option.map_some]
  have hjoined : ("/".intercalate (Path.steps base ++ names)).toList.getLast? = some c := by
    rw [String.toList_intercalate]
    exact Text.getLast?_intercalate _ _ _ c hsteps hc
  have hwhole := Text.getLast?_append (Path.root base) _ c hjoined
  rw [Path.below]
  split
  · next hempty =>
      rw [hempty] at hwhole
      exact absurd hwhole.symm (Option.some_ne_none c)
  · exact hwhole

/-- The document that an entry of a tree is below a directory, if it is one. -/
def documentOf? (place : Place) (root : String) (e : Place × Entry) : Option String :=
  let names := match e.2 with
    | .file .. => FileSystem.stepsBelow? place e.1
    | .directory => none
  (names.map (Path.below root)).filter fun path => isDocument path Document.extension

/-- No generated file is a document below a directory. -/
theorem documentOf?_of_isOutput (place : Place) (root : String) (e : Place × Entry) (h : isOutput e.1 = true) :
    documentOf? place root e = none := by
  rcases e with ⟨other, entry⟩
  rcases (Document.isOutput_eq_true_iff other).mp h with ⟨name, hname, houtput⟩
  cases entry with
  | directory => rfl
  | file content mode =>
      simp only [documentOf?, FileSystem.stepsBelow?]
      split
      · next hbelow =>
          -- The steps below the directory end with the name of the file.
          have hlonger : place.length < other.length := by
            rw [Bool.and_eq_true, List.isPrefixOf_iff_prefix, decide_eq_true_eq] at hbelow
            rcases Nat.lt_or_ge place.length other.length with hlt | hge
            · exact hlt
            · exact absurd (hbelow.1.eq_of_length_le hge) hbelow.2
          have hlast : (other.drop place.length).getLast? = some name := by
            rw [List.getLast?_drop, if_neg (by omega), hname]
          have hend := getLast?_below root _ name 's' hlast (Document.getLast?_of_isOutputName name houtput)
          rw [Option.map_some, Option.filter_some, Document.isDocument_of_getLast? _ 's' hend (by decide) (by decide),
            if_neg Bool.false_ne_true]
      · rfl

/-- The documents below a directory, before they are sorted, are found without looking at generated files. -/
theorem filter_filesBelow (files : FileSystem) (place : Place) (root : String) :
    ((files.filesBelow place).map (Path.below root)).filter (fun path => isDocument path Document.extension) =
      (files.entries.filter (fun e => !isOutput e.1)).filterMap (documentOf? place root) := by
  have hskip : ∀ e : Place × Entry,
      (if (!isOutput e.1) = true then documentOf? place root e else none) = documentOf? place root e := by
    intro e
    by_cases houtput : isOutput e.1 = true
    · rw [documentOf?_of_isOutput place root e houtput, ite_self]
    · rw [Bool.not_eq_true] at houtput
      rw [houtput, Bool.not_false, if_pos rfl]
  rw [FileSystem.filesBelow, List.map_filterMap, List.filter_filterMap, List.filterMap_filter]
  simp only [hskip]
  rfl

/-- The documents below a directory are the same, in the same order. -/
theorem below_congr (files other : FileSystem) (h : files.SameSources other) (place : Place) (root : String) :
    below other place root Document.extension = below files place root Document.extension := by
  unfold below
  simp only [filter_filesBelow, h.sources]

/-! ## Paths that were given -/

/-- A path stands for the same documents. -/
theorem documentsAt_congr (files other : FileSystem) (h : files.SameSources other) (path : String) :
    documentsAt other Document.extension path = documentsAt files Document.extension path := by
  have hback := FileSystem.sameSources_symm files other h
  by_cases hdocument : isDocument path Document.extension = true
  · -- The path of a document leads to the same in both trees.
    have hlast := Document.isOutput_of_isDocument path hdocument
    unfold documentsAt
    cases hstat : files.stat path with
    | ok found =>
        rcases found with ⟨place, entry⟩
        rw [FileSystem.stat_congr files other h path hlast place entry hstat]
        cases entry with
        | directory => exact below_congr files other h place path
        | file content mode => rfl
    | error error =>
        cases hother : other.stat path with
        | ok found =>
            rcases found with ⟨place, entry⟩
            rw [FileSystem.stat_congr other files hback path hlast place entry hother] at hstat
            simp only [reduceCtorEq] at hstat
        | error error' => rfl
  · -- Any other path matters only if it leads to a directory.
    have hnone : ∀ tree : FileSystem, (∀ place, tree.stat path ≠ .ok (place, .directory)) →
        documentsAt tree Document.extension path = [] := by
      intro tree hdirectory
      unfold documentsAt
      split
      · next place hstat => exact absurd hstat (hdirectory place)
      · exact if_neg hdocument
      · rfl
    by_cases hdirectory : ∃ place, files.stat path = .ok (place, .directory)
    · rcases hdirectory with ⟨place, hstat⟩
      unfold documentsAt
      rw [hstat, FileSystem.stat_directory_congr files other h path place hstat]
      exact below_congr files other h place path
    · rw [not_exists] at hdirectory
      have hother : ∀ place, other.stat path ≠ .ok (place, .directory) := fun place hstat =>
        hdirectory place (FileSystem.stat_directory_congr other files hback path place hstat)
      rw [hnone files hdirectory, hnone other hother]

/-- Trees with the same sources have the same documents, in the same order. -/
theorem collect_congr (files other : FileSystem) (h : files.SameSources other) (paths : List String)
    (collected collected' : Collected) (hcollect : collect files Document.extension paths = .ok collected)
    (hcollect' : collect other Document.extension paths = .ok collected') :
    collected'.documents = collected.documents := by
  rw [documents_collect files _ paths collected hcollect, documents_collect other _ paths collected' hcollect']
  exact List.flatMap_congr (fun path _ => documentsAt_congr files other h path)

end Discovery

end CodeBehind
