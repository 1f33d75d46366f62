import CodeBehind.Proofs.Discovery
import CodeBehind.Proofs.Text.FinalSigma

/-!
# Recognizing documents

Whether a file that carries the extension is taken for a document.

A path is compared with the extension after both are in lower case, each by itself. A file whose path ends with the
extension as it is written should therefore always be a document, and it would be if lowering went letter by letter. It
does not for the sigma at the end of a word, and the extension has not seen the word that it is behind. So an extension
such as `.Σ` is lowered in one way and the end of `Main.Σ` in another, and the file is passed over. No other extension is
affected, and neither is this one behind a path that has no letters before it.

A file comes up for collection in two ways: its path was given, or a directory was given and the file lies below it. Both
are decided by the same comparison, and nothing else is asked of a regular file.

## Main definitions

* `Offers`: The paths under which regular files come up.

## Main results

* `collect_recognizes`: A file that carries the extension is collected unless the extension has a sigma that becomes final
  behind the rest of its path.

## Theorems

* `isDocument_append_iff`: A path that ends with the extension is a document, but for the final sigma.
* `isDocument_of_mem_documentsAt`, `mem_documents_iff`: What is collected of the paths that come up.
-/

namespace CodeBehind

/-- A path that ends with the extension is a document, unless a sigma of the extension becomes final behind the rest. -/
theorem Document.isDocument_append_iff (stem extension : String) :
    Document.isDocument (stem ++ extension) extension = true ↔ ¬Text.TurnsFinal stem.toList extension.toList := by
  rw [Document.isDocument, List.isSuffixOf_iff_suffix]
  exact Text.suffix_lower_append_iff stem extension

namespace Discovery

/-- The paths under which regular files come up for collection: those that are given, and those by which a search shows
    the files below a directory that is given. -/
inductive Offers (files : FileSystem) (paths : List String) : String → Prop
  | given (path : String) (place : Place) (content : ByteArray) (mode : Nat) (hmem : path ∈ paths)
      (hstat : files.stat path = .ok (place, .file content mode)) : Offers files paths path
  | found (root : String) (place : Place) (names : List String) (hmem : root ∈ paths)
      (hstat : files.stat root = .ok (place, .directory)) (hnames : names ∈ files.filesBelow place) :
      Offers files paths (Path.below root names)

section

variable (files : FileSystem) (extension : String)

/-- What a path stands for are documents. -/
theorem isDocument_of_mem_documentsAt (path document : String) (h : document ∈ documentsAt files extension path) :
    Document.isDocument document extension = true := by
  rw [documentsAt] at h
  split at h
  · exact (mem_below files _ path extension document h).1
  · split at h
    · next hkept =>
        rw [List.mem_singleton.mp h]
        exact hkept
    · exact absurd h List.not_mem_nil
  · exact absurd h List.not_mem_nil

/-- A document that lies below a directory is found by a search. -/
theorem mem_below_of_isDocument (place : Place) (root : String) (names : List String)
    (hnames : names ∈ files.filesBelow place) (h : Document.isDocument (Path.below root names) extension = true) :
    Path.below root names ∈ below files place root extension :=
  List.mem_mergeSort.mpr (List.mem_filter.mpr ⟨List.mem_map_of_mem hnames, h⟩)

/-- A path that comes up is collected if it is that of a document. -/
theorem mem_documents_iff (paths : List String) (path : String) (h : Offers files paths path) :
    path ∈ paths.flatMap (documentsAt files extension) ↔ Document.isDocument path extension = true := by
  constructor
  · intro hmem
    rcases List.mem_flatMap.mp hmem with ⟨root, _, hroot⟩
    exact isDocument_of_mem_documentsAt files extension root path hroot
  · intro hdocument
    cases h with
    | given _ place content mode hmem hstat =>
        refine List.mem_flatMap.mpr ⟨path, hmem, ?_⟩
        rw [documentsAt, hstat]
        simp only [hdocument, if_true, List.mem_singleton]
    | found root place names hmem hstat hnames =>
        refine List.mem_flatMap.mpr ⟨root, hmem, ?_⟩
        rw [documentsAt, hstat]
        exact mem_below_of_isDocument files extension place root names hnames hdocument

end

/-- A path that ends with the extension is that of a document, unless the extension has a sigma that becomes final behind
    the rest of the path. So a regular file with such a path is among the documents that are collected, whether its path
    was given or it was found below a directory, and it is passed over in that one case. -/
theorem collect_recognizes (files : FileSystem) (stem extension : String) :
    (Document.isDocument (stem ++ extension) extension = true ↔
      ¬Text.TurnsFinal stem.toList extension.toList) ∧
    ∀ paths, Offers files paths (stem ++ extension) → ∃ collected, collect files extension paths = .ok collected ∧
      (stem ++ extension ∈ collected.documents ↔ ¬Text.TurnsFinal stem.toList extension.toList) := by
  have hdocument := Document.isDocument_append_iff stem extension
  refine ⟨hdocument, fun paths hoffers => ⟨_, collect_eq files extension paths, ?_⟩⟩
  exact (mem_documents_iff files extension paths _ hoffers).trans hdocument

/-- Files with extensions in Greek capitals, one of them in a directory. -/
def greekTree : FileSystem where
  entries := [(["Main.Σ"], .file .empty 0o644), (["ΟΔΟΣ.ΑΣ"], .file .empty 0o644), (["ui"], .directory),
    (["ui", "ΑΣ.ΑΣ"], .file .empty 0o644)]
  workdir := []
  umask := 0o022

/-- In this extension the sigma is final by itself, so it does not matter what it stands behind. -/
theorem collect_recognizes_greek :
    ∃ collected, collect greekTree ".ΑΣ" ["ΟΔΟΣ.ΑΣ", "ui"] = .ok collected ∧ "ΟΔΟΣ" ++ ".ΑΣ" ∈ collected.documents ∧
      "ui/ΑΣ" ++ ".ΑΣ" ∈ collected.documents := by
  have hopens : ¬Text.OpensWithSigma ".ΑΣ".toList := by
    have hdot : Text.isCaseIgnorable '.' = true := by decide
    have halpha : Text.isCaseIgnorable 'Α' = false := by decide +kernel
    change ¬Text.OpensWithSigma ['.', 'Α', 'Σ']
    rw [Text.opensWithSigma_cons_of_ignorable '.' _ hdot, Text.opensWithSigma_cons_of_counting 'Α' _ halpha]
    exact fun h => absurd h.1 (by decide)
  have hgiven : Offers greekTree ["ΟΔΟΣ.ΑΣ", "ui"] ("ΟΔΟΣ" ++ ".ΑΣ") :=
    .given _ ["ΟΔΟΣ.ΑΣ"] .empty 0o644 (by decide) rfl
  have hfound : Offers greekTree ["ΟΔΟΣ.ΑΣ", "ui"] ("ui/ΑΣ" ++ ".ΑΣ") := by
    have hbelow : Path.below "ui" ["ΑΣ.ΑΣ"] = "ui/ΑΣ" ++ ".ΑΣ" := by decide
    exact hbelow ▸ .found "ui" ["ui"] ["ΑΣ.ΑΣ"] (by decide) rfl (by decide)
  rcases (collect_recognizes greekTree "ΟΔΟΣ" ".ΑΣ").2 _ hgiven with ⟨collected, hcollect, hmem⟩
  rcases (collect_recognizes greekTree "ui/ΑΣ" ".ΑΣ").2 _ hfound with ⟨collected', hcollect', hmem'⟩
  rw [hcollect, Except.ok.injEq] at hcollect'
  rw [← hcollect'] at hmem'
  exact ⟨collected, hcollect, hmem.mpr fun h => hopens h.2, hmem'.mpr fun h => hopens h.2⟩

/-- The end of this path is the extension as it is written, and the file is passed over. -/
theorem collect_finalSigma :
    greekTree.stat ("Main" ++ ".Σ") = .ok (["Main.Σ"], .file .empty 0o644) ∧
      Document.isDocument ("Main" ++ ".Σ") ".Σ" = false ∧
      collect greekTree ".Σ" ["Main.Σ"] = .ok ⟨[], [Log.skipped component "Main.Σ" "not a .Σ document"]⟩ := by
  have hturns : Text.TurnsFinal "Main".toList ".Σ".toList :=
    ⟨by decide +kernel, ['.'], [], rfl, List.forall_mem_singleton.mpr (by decide), rfl⟩
  have hnot : Document.isDocument "Main.Σ" ".Σ" = false := by
    have hiff := Document.isDocument_append_iff "Main" ".Σ"
    exact Bool.eq_false_iff.mpr fun hdocument => hiff.mp hdocument hturns
  have hstat : greekTree.stat "Main.Σ" = .ok (["Main.Σ"], .file .empty 0o644) := rfl
  refine ⟨hstat, hnot, ?_⟩
  simp only [collect_eq, List.flatMap_cons, List.flatMap_nil, List.filterMap_cons, List.filterMap_nil, documentsAt,
    warningAt?, hstat, hnot, Bool.false_eq_true, if_false, List.append_nil]
  rfl

end Discovery

end CodeBehind
