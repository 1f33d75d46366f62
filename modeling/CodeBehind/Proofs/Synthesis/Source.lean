import CodeBehind.Proofs.Synthesis

/-!
# The source of a generated class

The text that is generated for a document, written down line by line.

Every document gets the same class but for its name, and the name stands in one line only, the header of the
class. `Declaration.source` is the text with that line left open. The writer and the canonical pass arrive at it
whatever the name is, as long as the name is one line. Braces in it do not count as braces of a block, because
the header neither begins nor ends with the name. Blanks at the end of the name are not at the end of the line.
Tabs are the one thing in a name that does not stay as it is, and they are expanded from the column at which they
stand in the header.

So the generated texts of two documents have their lines in common, the header excepted, wherever the documents
lie and whatever they are called. A name with a line feed or a carriage return would be two lines. A file can have
such a name, but nobody is promised anything about its class.

## Main definitions

* `Declaration.header`: The line that begins the class of a document.
* `Declaration.source`: The source of the class.

## Main results

* `synthesize_source`: The generated text of a document, and how those of two documents differ.

## Theorems

* `tidyLine_header`: What the canonical pass does to the header.
* `lines_unit`: The lines of the tree that is declared for a document.
* `body_unit`: The text of that tree.
* `synthesize_of_ofPath`: The generated text of an accepted document.
* `lines_of_source`, `lines_around_header`: The lines of a generated text.
-/

namespace CodeBehind

open Text (expandTabs joinLines terminate tidyLine)

namespace Declaration

/-- The line that begins the class of a given name. -/
def header (name : String) : String :=
  "public partial class " ++ name ++ " : MonoBehaviour"

/-- The lines above the header of a generated class. -/
def linesAbove : List String := ["using UnityEngine;", "using UnityEngine.UIElements;", ""]

/-- The lines below the header of a generated class. -/
def linesBelow : List String := [
  "\x7b",
  "    [SerializeField]",
  "    private UIDocument _document;",
  "",
  "    public VisualElement Root",
  "    \x7b",
  "        get",
  "        \x7b",
  "            return _document?.rootVisualElement;",
  "        \x7d",
  "    \x7d",
  "",
  "    public void InitializeDocument()",
  "    \x7b",
  "    \x7d",
  "\x7d"]

/-- The lines of the source for a class of a given name. -/
def classLines (name : String) : List String :=
  linesAbove ++ String.ofList (expandTabs (header name).toList) :: linesBelow

/-- The source for a class of a given name. -/
def source (name : String) : String :=
  "\n".intercalate (classLines name) ++ "\n"

/-- The lines of the source as the pieces between line feeds. -/
def classChars (name : String) : List (List Char) :=
  (classLines name).map String.toList

/-! ## The lines of the tree -/

theorem header_type (name : String) : (type name).header = header name := by
  -- The class is public, partial and has a base, whatever its name is.
  have hvisibility : (type name).visibility.keyword = "public" := rfl
  have hpartial : (type name).isPartial = true := rfl
  have hname : (type name).name = name := rfl
  have hbase : (type name).baseType = "MonoBehaviour" := rfl
  have hsome : ¬ "MonoBehaviour" = "" := by decide
  have hopening : "public" ++ " partial" ++ " class " = "public partial class " := by decide
  have hending : " : " ++ "MonoBehaviour" = " : MonoBehaviour" := by decide
  rw [Syntax.TypeDecl.header, hvisibility, if_pos hpartial, hname, hbase, if_neg hsome, hopening, hending]
  rfl

/-- The header ends with the base type, so the pass over the lines only expands its tabs. -/
theorem tidyLine_header (name : String) :
    tidyLine (Syntax.indented 0 (" ".intercalate (type name).headWords)) = expandTabs (header name).toList := by
  have hlast : (header name).toList.getLast? = some 'r' := Text.getLast?_append _ _ _ (by decide)
  have hline : Syntax.indented 0 (" ".intercalate (type name).headWords) = (header name).toList := by
    rw [← Syntax.header_eq, header_type, Syntax.indented, Nat.mul_zero, List.replicate_zero, List.nil_append]
  rw [hline, Text.tidyLine_eq_expandTabs _ 'r' hlast (by decide)]

/-- The lines of the tree for a document are those of the source. -/
theorem lines_unit (request : Request) :
    (unit request).lines.map tidyLine = classChars request.typeName := by
  have hlines : (unit request).lines =
      Syntax.importLines (unit request).imports ++
        [] :: Syntax.indented 0 (" ".intercalate (type request.typeName).headWords) ::
          Syntax.braced 0 (Text.paragraphs (members.map (Syntax.Member.lines 1))) := by
    rw [Syntax.CompilationUnit.lines, imports_unit]
    exact Text.paragraphs_cons_cons _ _ []
  -- Above and below the header nothing depends on the name.
  have habove : (Syntax.importLines ["UnityEngine", "UnityEngine.UIElements"]).map tidyLine ++ [[]] =
      linesAbove.map String.toList := by
    decide +kernel
  have hbelow : (Syntax.braced 0 (Text.paragraphs (members.map (Syntax.Member.lines 1)))).map tidyLine =
      linesBelow.map String.toList := by
    decide +kernel
  have hblank : tidyLine [] = [] := rfl
  rw [hlines, imports_unit, List.map_append, List.map_cons, List.map_cons, tidyLine_header, hbelow, hblank,
    classChars, classLines, List.map_append, ← habove, List.map_cons, String.toList_ofList, List.append_assoc,
    List.singleton_append]

theorem strings_unit (request : Request) : (unit request).strings =
    ["UnityEngine", "UnityEngine.UIElements", request.typeName] ++
      (Syntax.hostType :: members.flatMap Syntax.Member.strings) := by
  have htypes : (unit request).types.flatMap Syntax.TypeDecl.strings =
      request.typeName :: Syntax.hostType :: members.flatMap Syntax.Member.strings := rfl
  rw [Syntax.CompilationUnit.strings, imports_unit, htypes]
  rfl

/-- No text of the tree but the name of its class can hold a line end. -/
theorem unbroken_strings (request : Request) (hfeed : '\n' ∉ request.typeName.toList)
    (hreturn : '\r' ∉ request.typeName.toList) :
    ∀ s ∈ (unit request).strings, '\n' ∉ s.toList ∧ '\r' ∉ s.toList := by
  have himports : ∀ s ∈ ["UnityEngine", "UnityEngine.UIElements"], '\n' ∉ s.toList ∧ '\r' ∉ s.toList := by decide
  have hmembers : ∀ s ∈ Syntax.hostType :: members.flatMap Syntax.Member.strings,
      '\n' ∉ s.toList ∧ '\r' ∉ s.toList := by
    decide
  intro s hs
  rw [strings_unit, List.mem_append] at hs
  rcases hs with habove | hbelow
  · simp only [List.mem_cons, List.not_mem_nil, or_false] at habove
    rcases habove with heq | heq | heq
    · exact himports s (by rw [heq]; exact List.mem_cons_self ..)
    · exact himports s (by rw [heq]; exact List.mem_cons_of_mem _ (List.mem_singleton_self _))
    · rw [heq]
      exact ⟨hfeed, hreturn⟩
  · exact hmembers s hbelow

theorem toList_source (name : String) : (source name).toList = terminate (classChars name) := by
  have hne : classChars name ≠ [] := List.cons_ne_nil _ _
  rw [source, String.toList_append, String.toList_intercalate, Text.terminate_eq_joinLines _ hne]
  rfl

/-- The text of the tree for a document is the source of the class. -/
theorem body_unit (request : Request) (hfeed : '\n' ∉ request.typeName.toList)
    (hreturn : '\r' ∉ request.typeName.toList) : (unit request).body = .ok (source request.typeName) := by
  have hlayout : (unit request).layout = source request.typeName := by
    rw [Syntax.CompilationUnit.layout, lines_unit, ← toList_source, String.ofList_toList]
  rw [Syntax.body_eq_layout _ (isRenderable_unit request) (unbroken_strings request hfeed hreturn), hlayout]

/-- No line of the source is two lines, because the name is the only thing in it that could break one. -/
theorem feed_notMem_classChars (name : String) (hfeed : '\n' ∉ name.toList) : ∀ l ∈ classChars name, '\n' ∉ l := by
  have habove : ∀ l ∈ linesAbove.map String.toList, '\n' ∉ l := by decide
  have hbelow : ∀ l ∈ linesBelow.map String.toList, '\n' ∉ l := by decide
  have hheader : '\n' ∉ expandTabs (header name).toList := by
    intro hmem
    rcases Text.mem_of_mem_expandTabsFrom 0 _ _ hmem with hspace | ⟨hline, _⟩
    · exact absurd hspace (by decide)
    · exact Text.notMem_append _ _ _ (Text.notMem_append _ _ _ (by decide) hfeed) (by decide) hline
  intro l hl
  rw [classChars, classLines, List.map_append, List.map_cons, String.toList_ofList, List.mem_append,
    List.mem_cons] at hl
  rcases hl with hl | heq | hl
  · exact habove l hl
  · rwa [heq]
  · exact hbelow l hl

/-- The place of the header among the lines of a generated text: below the banner, a blank line and the imports. -/
def headerIndex (banner : Banner) : Nat :=
  (Text.lines banner.text.toList).length + linesAbove.length

end Declaration

/-! ## Generated texts -/

open Declaration

theorem render_unit (request : Request) (banner : Banner) (hname : Text.allBlank request.typeName = false)
    (hfeed : '\n' ∉ request.typeName.toList) (hreturn : '\r' ∉ request.typeName.toList) :
    render (unit request) banner = .ok (banner.text ++ "\n" ++ source request.typeName) := by
  simp only [render, violation?_unit request hname, body_unit request hfeed hreturn]

/-- The generated text of an accepted document. -/
theorem synthesize_of_ofPath (path : String) (banner : Banner) (request : Request)
    (haccepted : Request.ofPath path = .ok request) (hfeed : '\n' ∉ request.typeName.toList)
    (hreturn : '\r' ∉ request.typeName.toList) :
    synthesize path banner =
      .ok ⟨request.outputPath, banner.text ++ "\n" ++ source request.typeName⟩ := by
  have hname := (ofPath_eq_ok path request haccepted).2
  rw [synthesize, haccepted]
  simp only [bind, Except.bind, synthesizeRequest, render_unit request banner hname hfeed hreturn]
  rfl

/-- The lines of a generated text: those of the banner, a blank one, and those of the source. -/
theorem lines_of_source (banner : Banner) (name : String) (hfeed : '\n' ∉ name.toList) :
    Text.lines (banner.text ++ "\n" ++ source name).toList =
      Text.lines banner.text.toList ++ (classChars name ++ [[]]) := by
  have hbanner : ∀ l ∈ banner.lines, '\n' ∉ l := fun l hl =>
    Banner.notMem_of_isComment l '\n' (by decide) (banner.isComment_of_mem_lines l hl)
  have hsource := feed_notMem_classChars name hfeed
  have htext : (banner.text ++ "\n" ++ source name).toList = terminate (banner.lines ++ [] :: classChars name) := by
    rw [String.toList_append, String.toList_append, banner.toList_text, toList_source, Text.terminate_append,
      List.append_assoc]
    rfl
  have hall : ∀ l ∈ banner.lines ++ [] :: classChars name, '\n' ∉ l := by
    intro l hl
    rcases List.mem_append.mp hl with hl | hl
    · exact hbanner l hl
    · rcases List.mem_cons.mp hl with heq | hl
      · rw [heq]
        exact List.not_mem_nil
      · exact hsource l hl
  -- The blank line is what stands behind the last line end of the banner.
  rw [htext, Text.lines_terminate _ hall, banner.toList_text, Text.lines_terminate _ hbanner]
  simp only [List.append_assoc, List.cons_append, List.nil_append]

/-- The lines of a generated text around the header. -/
theorem lines_around_header (banner : Banner) (name : String) (hfeed : '\n' ∉ name.toList) :
    Text.lines (banner.text ++ "\n" ++ source name).toList =
      (Text.lines banner.text.toList ++ linesAbove.map String.toList) ++
        expandTabs (header name).toList :: (linesBelow.map String.toList ++ [[]]) := by
  rw [lines_of_source banner name hfeed, classChars, classLines, List.map_append, List.map_cons,
    String.toList_ofList]
  simp only [List.append_assoc, List.cons_append]

theorem length_above_header (banner : Banner) :
    (Text.lines banner.text.toList ++ linesAbove.map String.toList).length = headerIndex banner := by
  rw [List.length_append, List.length_map, headerIndex]

/-- The generated text of a document is its banner, a blank line and a source in which only the header of the class
    depends on the document, as long as the type name is one line. So two documents have texts of equally many
    lines with the same banner, and the texts agree on every line but that of the header. -/
theorem synthesize_source (path : String) (banner : Banner) (request : Request)
    (haccepted : Request.ofPath path = .ok request) (hfeed : '\n' ∉ request.typeName.toList)
    (hreturn : '\r' ∉ request.typeName.toList) :
    ∃ rendered, synthesize path banner = .ok rendered ∧
      rendered.text = banner.text ++ "\n" ++ source request.typeName ∧
      (Text.lines rendered.text.toList)[headerIndex banner]? = some (expandTabs (header request.typeName).toList) ∧
      ∀ path' request' rendered', Request.ofPath path' = .ok request' → '\n' ∉ request'.typeName.toList →
        '\r' ∉ request'.typeName.toList → synthesize path' banner = .ok rendered' →
          (Text.lines rendered'.text.toList).length = (Text.lines rendered.text.toList).length ∧
          ∀ i, i ≠ headerIndex banner →
            (Text.lines rendered'.text.toList)[i]? = (Text.lines rendered.text.toList)[i]? := by
  refine ⟨_, synthesize_of_ofPath path banner request haccepted hfeed hreturn, rfl, ?_, ?_⟩
  · simp only [lines_around_header banner _ hfeed]
    rw [← length_above_header banner, List.getElem?_append_right (Nat.le_refl _), Nat.sub_self, List.getElem?_cons_zero]
  · intro path' request' rendered' haccepted' hfeed' hreturn' hrendered'
    -- The text of the other document is the same but for its header.
    rw [synthesize_of_ofPath path' banner request' haccepted' hfeed' hreturn', Except.ok.injEq] at hrendered'
    rw [← hrendered']
    simp only [lines_around_header banner _ hfeed, lines_around_header banner _ hfeed']
    refine ⟨?_, fun i hi => ?_⟩
    · simp only [List.length_append, List.length_cons]
    · rw [← length_above_header banner] at hi
      exact getElem?_append_cons_ne _ _ _ _ i hi

/-- A document with an ordinary name. -/
def menuPath : String := "Assets/UI/MainMenu.uxml"

/-- A document whose name has braces, tabs, blanks at its end and a line separator. -/
def smuggledPath : String := "a\n.b/ \x7d\u2028\tMenu \x7b\t .UXML"

theorem synthesize_mainMenu :
    Request.ofPath menuPath = .ok ⟨menuPath⟩ ∧ Request.ofPath smuggledPath = .ok ⟨smuggledPath⟩ ∧
      (∀ path ∈ [menuPath, smuggledPath], '\n' ∉ (Request.typeName ⟨path⟩).toList ∧
        '\r' ∉ (Request.typeName ⟨path⟩).toList) ∧
      ∃ rendered rendered', synthesize menuPath .standard = .ok rendered ∧
        rendered.text = Banner.standard.text ++ "\n" ++ ("\n".intercalate [
          "using UnityEngine;",
          "using UnityEngine.UIElements;",
          "",
          "public partial class MainMenu : MonoBehaviour",
          "\x7b",
          "    [SerializeField]",
          "    private UIDocument _document;",
          "",
          "    public VisualElement Root",
          "    \x7b",
          "        get",
          "        \x7b",
          "            return _document?.rootVisualElement;",
          "        \x7d",
          "    \x7d",
          "",
          "    public void InitializeDocument()",
          "    \x7b",
          "    \x7d",
          "\x7d"] ++ "\n") ∧
        synthesize smuggledPath .standard = .ok rendered' ∧
        (Text.lines rendered'.text.toList)[headerIndex .standard]? =
          some "public partial class  \x7d\u2028    Menu \x7b    : MonoBehaviour".toList ∧
        (Text.lines rendered'.text.toList).length = (Text.lines rendered.text.toList).length ∧
        ∀ i, i ≠ headerIndex .standard →
          (Text.lines rendered'.text.toList)[i]? = (Text.lines rendered.text.toList)[i]? := by
  have hmenu := ofPath_of_hasName menuPath (by decide +kernel)
  have hsmuggled := ofPath_of_hasName smuggledPath (by decide +kernel)
  have hunbroken : ∀ path ∈ [menuPath, smuggledPath], '\n' ∉ (Request.typeName ⟨path⟩).toList ∧
      '\r' ∉ (Request.typeName ⟨path⟩).toList := by
    decide +kernel
  have hone := hunbroken menuPath (List.mem_cons_self ..)
  have hother := hunbroken smuggledPath (List.mem_cons_of_mem _ (List.mem_singleton_self _))
  rcases synthesize_source menuPath .standard ⟨menuPath⟩ hmenu hone.1 hone.2 with
    ⟨rendered, hrendered, htext, _, hpairs⟩
  rcases synthesize_source smuggledPath .standard ⟨smuggledPath⟩ hsmuggled hother.1 hother.2 with
    ⟨rendered', hrendered', _, hheader, _⟩
  have hpair := hpairs smuggledPath _ rendered' hsmuggled hother.1 hother.2 hrendered'
  have hmain : String.ofList (expandTabs (header (Request.typeName ⟨menuPath⟩)).toList) =
      "public partial class MainMenu : MonoBehaviour" := by
    decide +kernel
  have hsigns : expandTabs (header (Request.typeName ⟨smuggledPath⟩)).toList =
      "public partial class  \x7d\u2028    Menu \x7b    : MonoBehaviour".toList := by
    decide +kernel
  refine ⟨hmenu, hsmuggled, hunbroken, rendered, rendered', hrendered, ?_, hrendered', ?_, hpair.1, hpair.2⟩
  · rw [htext, source, classLines, hmain, linesAbove, linesBelow]
    rfl
  · rw [hheader, hsigns]

end CodeBehind
