import CodeBehind.Proofs.FileSystem.NullByte
import CodeBehind.Proofs.Rendering

/-!
# Synthesis of a document

What the code-behind of a document depends on.

The tree that is declared for a document has the same shape for every document, so the checks on it can be
answered once: it is well-formed as soon as the document has a name, and each of its nodes is in its place. An
accepted document therefore always gets its code-behind. Two things of the document enter the result. The type
name enters the text, and the path of the file, whose last name is made of the type name. So whoever has the
name of a generated file has the text in it too, as long as the banner is the same.

## Main definitions

* `Document.outputName`: The name of the generated file in its directory.

## Theorems

* `pathSteps_outputPath`: The path of the generated file ends with its name.
* `exists_synthesizeRequest`: A document with a name gets its code-behind.
* `ofPath_eq_ok`: What an accepted document is.
* `exists_synthesize_of_ofPath`: An accepted document gets its code-behind.
* `synthesize_of_hasName`, `synthesize_of_not_hasName`: The code-behind of a document by its name.
* `synthesizeRequest_eq_ok`, `synthesize_eq_ok`: Where the path and the text of the code-behind come from.
* `text_eq_of_outputName_eq`: Files of the same name have the same text.
-/

namespace CodeBehind

namespace Document

/-- The name of the generated file in its directory. -/
def outputName (path : String) : String :=
  typeName path ++ generatedSuffix ++ sourceExtension

/-- A stem is a part of the name. -/
theorem stemChars_subset (name : List Char) : stemChars name ⊆ name := by
  intro c hc
  rw [stemChars] at hc
  split at hc
  · have htail := List.mem_of_mem_tail (List.mem_reverse.mp hc)
    exact List.mem_reverse.mp ((List.dropWhile_sublist _).subset htail)
  · exact hc

theorem baseNameChars_subset (cs : List Char) : Path.baseNameChars cs ⊆ cs := by
  intro c hc
  exact List.mem_reverse.mp ((List.takeWhile_sublist _).subset (List.mem_reverse.mp hc))

theorem slash_notMem_typeName (path : String) : '/' ∉ (typeName path).toList := by
  intro hmem
  rw [typeName, String.toList_ofList] at hmem
  have hbase := stemChars_subset _ hmem
  rw [Path.baseNameChars, List.mem_reverse] at hbase
  have hkept := List.mem_takeWhile_imp hbase
  simp only [ne_eq, not_true_eq_false, decide_false, Bool.false_eq_true] at hkept

theorem slash_notMem_outputName (path : String) : '/' ∉ (outputName path).toList :=
  Text.notMem_append '/' _ _ (Text.notMem_append '/' _ _ (slash_notMem_typeName path) (by decide)) (by decide)

theorem getLast?_outputName (path : String) : (outputName path).toList.getLast? = some 's' :=
  Text.getLast?_append _ _ _ (by decide)

theorem outputName_ne_empty (path : String) : outputName path ≠ "" := by
  intro heq
  have hlast := getLast?_outputName path
  rw [heq] at hlast
  exact absurd hlast (by decide)

/-- The path of the generated file ends with its name. -/
theorem pathSteps_outputPath (path : String) :
    FileSystem.pathSteps (outputPath path) = FileSystem.pathNames (Path.directory path) ++ [outputName path] :=
  FileSystem.pathSteps_join _ _ (slash_notMem_outputName path) (outputName_ne_empty path)

/-- The path of the generated file has no null byte if that of the document has none. -/
theorem nullByte_notMem_outputPath (path : String) (h : '\x00' ∉ path.toList) :
    '\x00' ∉ (outputPath path).toList := by
  have htype : '\x00' ∉ (typeName path).toList := by
    intro hmem
    rw [typeName, String.toList_ofList] at hmem
    exact h (baseNameChars_subset _ (stemChars_subset _ hmem))
  intro hmem
  rcases FileSystem.mem_join '\x00' _ _ hmem with hslash | hdirectory | hname
  · exact absurd hslash (by decide)
  · exact h (FileSystem.mem_directory '\x00' path hdirectory)
  · exact Text.notMem_append '\x00' _ _ (Text.notMem_append '\x00' _ _ htype (by decide)) (by decide) hname

/-- The type name is made of the base name alone. -/
theorem typeName_congr (path path' : String) (h : Path.baseName path' = Path.baseName path) :
    typeName path' = typeName path := by
  rw [Path.baseName, Path.baseName, String.ofList_inj] at h
  rw [typeName, typeName, h]

theorem typeName_eq_of_outputName_eq (path path' : String) (h : outputName path = outputName path') :
    typeName path = typeName path' :=
  (String.append_left_inj generatedSuffix).mp ((String.append_left_inj sourceExtension).mp h)

end Document

namespace Declaration

theorem isRenderable_unit (request : Request) : (unit request).isRenderable = true := by
  rfl

theorem imports_unit (request : Request) : (unit request).imports = ["UnityEngine", "UnityEngine.UIElements"] := by
  change Syntax.collectImports (Syntax.hostType :: Syntax.referencedTypes members) = _
  decide

/-- The members of a generated class break no rule, whatever the class is called. -/
theorem membersViolation?_members (owner : String) : Syntax.membersViolation? owner [] members = none := by
  rfl

/-- The class of a document breaks no rule but the one about its name. -/
theorem violation?_type (name : String) :
    (type name).violation? = if Text.allBlank name then some .unnamedType else none := by
  rw [Syntax.TypeDecl.violation?]
  change (if Text.allBlank name then _ else Syntax.membersViolation? name [] members) = _
  rw [membersViolation?_members]

/-- The tree of a document breaks a rule if its class does. -/
theorem violation?_unit_eq (request : Request) :
    (unit request).violation? = (type request.typeName).violation? := by
  -- The imports are the same for every document.
  have hnoEmpty : ["UnityEngine", "UnityEngine.UIElements"].contains "" = false := by decide
  have hdistinct : ["UnityEngine", "UnityEngine.UIElements"].Nodup := by decide
  rw [Syntax.CompilationUnit.violation?, imports_unit, hnoEmpty, if_neg (not_not_intro hdistinct)]
  change (if false = true then _ else if false = true then _ else [type request.typeName].findSome? _) = _
  rw [if_neg Bool.false_ne_true, if_neg Bool.false_ne_true, List.findSome?_singleton]

/-- The tree of a document is well-formed if the document has a name. -/
theorem violation?_unit (request : Request) (h : Text.allBlank request.typeName = false) :
    (unit request).violation? = none := by
  rw [violation?_unit_eq, violation?_type, h, if_neg Bool.false_ne_true]

theorem unit_congr (request request' : Request) (h : request.typeName = request'.typeName) :
    unit request = unit request' := by
  rw [unit, unit, h]

/-- The tree of a document with a name can be rendered. -/
theorem exists_render_unit (request : Request) (banner : Banner) (h : Text.allBlank request.typeName = false) :
    ∃ text, render (unit request) banner = .ok text :=
  exists_render (unit request) banner (violation?_unit request h) (isRenderable_unit request)

end Declaration

/-- A document with a name gets its code-behind. -/
theorem exists_synthesizeRequest (request : Request) (banner : Banner) (h : Text.allBlank request.typeName = false) :
    ∃ text, synthesizeRequest request banner = .ok ⟨request.outputPath, text⟩ := by
  rcases Declaration.exists_render_unit request banner h with ⟨text, htext⟩
  refine ⟨text, ?_⟩
  rw [synthesizeRequest, htext]
  rfl

/-- The path and the text of the code-behind of a request. -/
theorem synthesizeRequest_eq_ok (request : Request) (banner : Banner) (rendered : Rendered)
    (h : synthesizeRequest request banner = .ok rendered) :
    rendered.path = request.outputPath ∧ render (Declaration.unit request) banner = .ok rendered.text := by
  rw [synthesizeRequest] at h
  cases htext : render (Declaration.unit request) banner with
  | error failure =>
      rw [htext] at h
      simp only [bind, Except.bind, reduceCtorEq] at h
  | ok text =>
      rw [htext] at h
      rw [← Except.ok.inj h]
      exact ⟨rfl, rfl⟩

theorem allBlank_of_hasName (path : String) (h : Document.hasName path = true) :
    Text.allBlank (Document.typeName path) = false := by
  simpa only [Document.hasName, Bool.not_eq_eq_eq_not, Bool.not_true] using h

theorem allBlank_of_not_hasName (path : String) (h : ¬ Document.hasName path = true) :
    Text.allBlank (Document.typeName path) = true := by
  simpa only [Document.hasName, Bool.not_eq_true, Bool.not_eq_false'] using h

/-- A document is accepted if it has a name. -/
theorem ofPath_of_hasName (path : String) (h : Document.hasName path = true) : Request.ofPath path = .ok ⟨path⟩ := by
  rw [Request.ofPath, if_pos h]

theorem ofPath_of_not_hasName (path : String) (h : ¬ Document.hasName path = true) :
    Request.ofPath path = .error (.problem (.invalidRequest path "document file name is empty")) := by
  rw [Request.ofPath, if_neg h]

/-- An accepted document has a name, and its request holds nothing but the path. -/
theorem ofPath_eq_ok (path : String) (request : Request) (h : Request.ofPath path = .ok request) :
    request = ⟨path⟩ ∧ Text.allBlank request.typeName = false := by
  by_cases hname : Document.hasName path = true
  · rw [ofPath_of_hasName path hname, Except.ok.injEq] at h
    rw [← h]
    exact ⟨rfl, allBlank_of_hasName path hname⟩
  · rw [ofPath_of_not_hasName path hname] at h
    exact absurd h (by simp only [reduceCtorEq, not_false_eq_true])

/-- The code-behind of an accepted document is that of its request. -/
theorem synthesize_of_hasName (path : String) (banner : Banner) (h : Document.hasName path = true) :
    synthesize path banner = synthesizeRequest ⟨path⟩ banner := by
  rw [synthesize, ofPath_of_hasName path h]
  simp only [bind, Except.bind]

/-- An accepted document gets its code-behind. -/
theorem exists_synthesize_of_ofPath (path : String) (banner : Banner) (request : Request)
    (h : Request.ofPath path = .ok request) :
    ∃ text, synthesize path banner = .ok ⟨request.outputPath, text⟩ := by
  rcases exists_synthesizeRequest request banner (ofPath_eq_ok path request h).2 with ⟨text, htext⟩
  refine ⟨text, ?_⟩
  simp only [synthesize, h, bind, Except.bind, htext]

/-- A document without a name is refused before there is a tree for it. -/
theorem synthesize_of_not_hasName (path : String) (banner : Banner) (h : ¬ Document.hasName path = true) :
    synthesize path banner = .error (.problem (.invalidRequest path "document file name is empty")) := by
  rw [synthesize, ofPath_of_not_hasName path h]
  rfl

/-- An accepted document is synthesized, and no other. -/
theorem synthesize_eq_ok (path : String) (banner : Banner) (rendered : Rendered)
    (h : synthesize path banner = .ok rendered) :
    Document.hasName path = true ∧ synthesizeRequest ⟨path⟩ banner = .ok rendered := by
  by_cases hname : Document.hasName path = true
  · exact ⟨hname, (synthesize_of_hasName path banner hname).symm.trans h⟩
  · rw [synthesize_of_not_hasName path banner hname] at h
    exact absurd h (by simp only [reduceCtorEq, not_false_eq_true])

theorem path_eq_of_synthesize (path : String) (banner : Banner) (rendered : Rendered)
    (h : synthesize path banner = .ok rendered) : rendered.path = Document.outputPath path :=
  (synthesizeRequest_eq_ok ⟨path⟩ banner rendered (synthesize_eq_ok path banner rendered h).2).1

/-- Generated files of the same name have the same text. -/
theorem text_eq_of_outputName_eq (path path' : String) (banner : Banner) (rendered rendered' : Rendered)
    (h : synthesize path banner = .ok rendered) (h' : synthesize path' banner = .ok rendered')
    (hname : Document.outputName path = Document.outputName path') : rendered.text = rendered'.text := by
  have htext := (synthesizeRequest_eq_ok _ banner rendered (synthesize_eq_ok path banner rendered h).2).2
  have htext' := (synthesizeRequest_eq_ok _ banner rendered' (synthesize_eq_ok path' banner rendered' h').2).2
  -- The tree is made of the type name alone.
  have htype : Request.typeName ⟨path⟩ = Request.typeName ⟨path'⟩ := Document.typeName_eq_of_outputName_eq _ _ hname
  rw [Declaration.unit_congr _ _ htype, htext', Except.ok.injEq] at htext
  exact htext.symm

end CodeBehind
