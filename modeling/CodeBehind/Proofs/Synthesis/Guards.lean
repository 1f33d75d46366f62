import CodeBehind.Proofs.Path.Parts
import CodeBehind.Proofs.Synthesis

/-!
# The guards of synthesis

Which documents get no code-behind, and with which failure.

The name of a document is looked at twice. A request is refused if its document has a blank name, and a tree is
refused if one of its types has a blank name. The second guard sees a tree and not a document, so it would have to
let some trees through that the first one refuses, or the other way round, if the two did not ask the same question
about the same text. They do: the only type of the tree is called like the document, and every other rule of a tree
holds in the tree that is declared for a document. So a document that is accepted always gets its code-behind, and
one whose request was never checked is refused all the same, only under another name.

The banner is the last place where something could fail. It comes out of a template, and rendering that template
gives a text for every banner.

What the name of a document is, is said here without the functions that find it: what follows the last slash, less
the last dot and what follows that. `isStem_iff` ties this to `Document.typeName`.

## Main definitions

* `Document.IsStem`: The base name of a path without its last extension.

## Main results

* `synthesize_guarded`: When synthesis fails, and that the two guards agree.

## Theorems

* `isStem_iff`: A document has one stem, its type name.
* `hasName_eq_false_iff`: The documents that have no usable name.
* `synthesizeRequest_of_not_hasName`: What becomes of such a document without the first guard.
-/

namespace CodeBehind

namespace Document

/-- A text is the base name of a path without its last extension. The base name is what follows the last slash; the
    extension begins at its last dot, if it has one. -/
def IsStem (path stem : List Char) : Prop :=
  ∃ head name, path = head ++ name ∧ (head = [] ∨ head.getLast? = some '/') ∧ '/' ∉ name ∧
    ((∃ extension, name = stem ++ '.' :: extension ∧ '.' ∉ extension) ∨ (name = stem ∧ '.' ∉ name))

/-! ## The stem of a document -/

theorem stemChars_append (stem extension : List Char) (h : '.' ∉ extension) :
    stemChars (stem ++ '.' :: extension) = stem := by
  have hmem : (stem ++ '.' :: extension).contains '.' = true :=
    List.contains_iff_mem.mpr (List.mem_append_right _ (List.mem_cons_self ..))
  rw [stemChars, if_pos hmem, Path.dropWhile_ne_reverse '.' stem extension h, List.tail_cons, List.reverse_reverse]

theorem stemChars_of_notMem (name : List Char) (h : '.' ∉ name) : stemChars name = name := by
  rw [stemChars, if_neg (fun hmem => h (List.contains_iff_mem.mp hmem))]

/-- Whatever is a stem of a path is its type name. -/
theorem typeName_of_isStem (path : String) (stem : List Char) (h : IsStem path.toList stem) :
    (typeName path).toList = stem := by
  rcases h with ⟨head, name, hpath, hhead, hslash, hname⟩
  rw [typeName, String.toList_ofList, hpath, Path.baseNameChars_append head name hhead hslash]
  rcases hname with ⟨extension, heq, hdot⟩ | ⟨heq, hdot⟩
  · rw [heq, stemChars_append stem extension hdot]
  · rw [stemChars_of_notMem name hdot, heq]

theorem exists_isStem (path : List Char) : ∃ stem, IsStem path stem := by
  rcases Path.exists_parts path with ⟨head, name, hpath, hhead, hslash⟩
  by_cases hdot : '.' ∈ name
  · rcases Text.exists_last_of_mem '.' name hdot with ⟨stem, extension, hname, hextension⟩
    exact ⟨stem, head, name, hpath, hhead, hslash, Or.inl ⟨extension, hname, hextension⟩⟩
  · exact ⟨name, head, name, hpath, hhead, hslash, Or.inr ⟨rfl, hdot⟩⟩

/-- A document has one stem, its type name. -/
theorem isStem_iff (path : String) (stem : List Char) :
    IsStem path.toList stem ↔ stem = (typeName path).toList := by
  constructor
  · intro h
    exact (typeName_of_isStem path stem h).symm
  · intro heq
    rcases exists_isStem path.toList with ⟨other, hother⟩
    rw [heq, typeName_of_isStem path other hother]
    exact hother

/-- A document has no usable name if its stem shows nothing. -/
theorem hasName_eq_false_iff (path : String) :
    Document.hasName path = false ↔ ∃ stem, IsStem path.toList stem ∧ ∀ c ∈ stem, Text.isBlank c = true := by
  have hblank : Document.hasName path = false ↔ Text.allBlank (typeName path) = true := by
    rw [hasName, Bool.not_eq_eq_eq_not, Bool.not_false]
  rw [hblank, Text.allBlank, List.all_eq_true]
  constructor
  · intro h
    exact ⟨_, (isStem_iff path _).mpr rfl, h⟩
  · rintro ⟨stem, hstem, h⟩
    rwa [← (isStem_iff path stem).mp hstem]

end Document

/-! ## The two guards -/

/-- Without the first guard the tree of a document that has no usable name is refused for its type. -/
theorem synthesizeRequest_of_not_hasName (path : String) (banner : Banner) (h : Document.hasName path = false) :
    synthesizeRequest ⟨path⟩ banner = .error (.problem (.ofViolation .unnamedType)) := by
  have hblank : Text.allBlank (Request.typeName ⟨path⟩) = true :=
    allBlank_of_not_hasName path (Bool.eq_false_iff.mp h)
  have hviolation : (Declaration.unit ⟨path⟩).violation? = some .unnamedType := by
    rw [Declaration.violation?_unit_eq, Declaration.violation?_type, hblank, if_pos rfl]
  rw [synthesizeRequest, render, hviolation]
  rfl

/-- Synthesis gives the code-behind of a document or refuses the document, and it refuses those whose base name
    without the last extension shows nothing. Without a check of the request the tree is refused for exactly these
    documents, and for every other one the check makes no difference. Nothing else fails, the template of the banner
    included. -/
theorem synthesize_guarded (path : String) (banner : Banner) :
    ((∃ rendered, synthesize path banner = .ok rendered) ∨
      synthesize path banner = .error (.problem (.invalidRequest path "document file name is empty"))) ∧
    ((∃ failure, synthesize path banner = .error failure) ↔
      ∃ stem, Document.IsStem path.toList stem ∧ ∀ c ∈ stem, Text.isBlank c = true) ∧
    ((∃ message node, synthesizeRequest ⟨path⟩ banner = .error (.problem (.malformedTree message node))) ↔
      ∃ failure, Request.ofPath path = .error failure) ∧
    (∀ request, Request.ofPath path = .ok request →
      request = ⟨path⟩ ∧ synthesizeRequest request banner = synthesize path banner) ∧
    ∀ files, ∃ draft, Template.renderFile files .included Template.bannerName
      [(.text "tool_name", .text banner.toolName), (.text "version", .text banner.version)] = .ok draft ∧
      banner.text = Text.normalize draft := by
  have htemplate := fun files => Template.renderFile_banner files banner
  rw [← Document.hasName_eq_false_iff path]
  cases hname : Document.hasName path with
  | true =>
      rcases exists_synthesizeRequest ⟨path⟩ banner (allBlank_of_hasName path hname) with ⟨text, hrequest⟩
      have hsame := synthesize_of_hasName path banner hname
      have haccepted := ofPath_of_hasName path hname
      refine ⟨Or.inl ⟨_, hsame.trans hrequest⟩, ?_, ?_, ?_, fun files => ⟨_, htemplate files, banner.text_eq_normalize⟩⟩
      · rw [hsame, hrequest]
        simp only [reduceCtorEq, exists_false, Bool.true_eq_false]
      · rw [hrequest, haccepted]
        simp only [reduceCtorEq, exists_false]
      · intro request h
        rw [haccepted, Except.ok.injEq] at h
        rw [← h]
        exact ⟨rfl, hsame.symm⟩
  | false =>
      have hrefused := synthesize_of_not_hasName path banner (Bool.eq_false_iff.mp hname)
      have hmalformed := synthesizeRequest_of_not_hasName path banner hname
      have hrejected := ofPath_of_not_hasName path (Bool.eq_false_iff.mp hname)
      refine ⟨Or.inr hrefused, ?_, ?_, ?_, fun files => ⟨_, htemplate files, banner.text_eq_normalize⟩⟩
      · exact ⟨fun _ => rfl, fun _ => ⟨_, hrefused⟩⟩
      · exact ⟨fun _ => ⟨_, hrejected⟩, fun _ => ⟨_, _, hmalformed⟩⟩
      · intro request h
        rw [hrejected] at h
        exact absurd h (by simp only [reduceCtorEq, not_false_eq_true])

end CodeBehind
