import CodeBehind.Proofs.Banner
import CodeBehind.Proofs.Template.Scan
import CodeBehind.Proofs.Text.Utf8
import CodeBehind.Template.Library

/-!
# The template of the banner

Rendering the template of the banner gives the banner, for every name and version of a tool.

The library has the banner as a template and as a definition. The template is read into texts, outputs and a
captured sentence; what it says is then put together without looking at the values, so nothing in a name or
a version is ever taken for a tag. The one place where a value decides is the comment: its mark is only asked for
if the sentence has a line, which it has, as it begins with a visible character.

## Main definitions

* `bannerSegments`: The template as segments.
* `bannerTree`: The tree it is read as.

## Theorems

* `toList_bannerTemplate`: The template is made of its segments.
* `parse_bannerTemplate`: The template is read as its tree.
* `render_bannerTree`: The text of the tree.
* `renderFile_banner`: Rendering the template gives the banner before the canonical pass.
-/

namespace CodeBehind

namespace Template

/-! ## Texts -/

/-- A literal holds the characters it is written with; they are looked at without decoding it. -/
theorem notMem_toList_ofList (c : Char) (cs : List Char) (h : c ∉ cs) : c ∉ (String.ofList cs).toList := by
  rwa [String.toList_ofList]

/-! ## The segments of the template -/

/-- The sentence of a banner before the name of the tool. -/
def beforeName : String := "<auto-generated>\n    This code was generated by the "

/-- The sentence of a banner between the name and the version. -/
def beforeVersion : String := " tool.\n    Version: "

/-- The sentence of a banner behind the version. -/
def afterVersion : String :=
  "\n\n    Changes to this file may cause incorrect behavior and will be lost if\n    the code is regenerated.\n" ++
    "</auto-generated>\n"

/-- Where the sentence begins to be captured. -/
def captureSegment : Segment where
  text := []
  tag := .statement
  pieces := [.name "set" (by decide +kernel), .name "banner_body" (by decide +kernel)]
  unopened := List.not_mem_nil
  unreturned := List.not_mem_nil
  begun := fun _ => Or.inl rfl

/-- The sentence up to the name of the tool. -/
def nameSegment : Segment where
  text := beforeName.toList
  tag := .print
  pieces := [.name "tool_name" (by decide +kernel)]
  unopened := notMem_toList_ofList _ _ (by decide)
  unreturned := notMem_toList_ofList _ _ (by decide)
  begun := by decide

/-- The sentence up to the version. -/
def versionSegment : Segment where
  text := beforeVersion.toList
  tag := .print
  pieces := [.name "version" (by decide +kernel)]
  unopened := notMem_toList_ofList _ _ (by decide)
  unreturned := notMem_toList_ofList _ _ (by decide)
  begun := by decide

/-- The rest of the sentence. -/
def endSegment : Segment where
  text := afterVersion.toList
  tag := .statement
  pieces := [.name "endset" (by decide +kernel)]
  unopened := Text.notMem_append _ _ _ (notMem_toList_ofList _ _ (by decide)) (notMem_toList_ofList _ _ (by decide))
  unreturned := Text.notMem_append _ _ _ (notMem_toList_ofList _ _ (by decide)) (notMem_toList_ofList _ _ (by decide))
  begun := fun _ => Or.inr (Text.getLast?_append _ _ _ (by decide))

/-- The upper rule and the comment. -/
def commentSegment : Segment where
  text := (Banner.rule ++ "\n").toList
  tag := .print
  pieces := [.name "banner_body" (by decide +kernel), .bar, .name "line_comment" (by decide +kernel)]
  unopened := by decide +kernel
  unreturned := by decide +kernel
  begun := by decide

/-- The template of the banner up to its last tag. -/
def bannerSegments : List Segment :=
  [captureSegment, nameSegment, versionSegment, endSegment, commentSegment]

/-- The template of the banner behind its last tag. -/
def lowerRule : String := "\n" ++ Banner.rule ++ "\n"

theorem sentence_eq (toolName version : String) :
    Banner.sentence toolName version = beforeName ++ toolName ++ beforeVersion ++ version ++ afterVersion :=
  String.append_assoc

/-- A segment that ends with a statement is its text and the statement on a line of its own. -/
theorem chars_statement (segment : Segment) (words : String) (rest : List Char) (htag : segment.tag = .statement)
    (hwords : spaced segment.pieces = ' ' :: words.toList) :
    segment.chars ++ rest = segment.text ++ ((statement words).toList ++ '\n' :: rest) := by
  have hopen : "\x7b% ".toList = ['\x7b', '%', ' '] := by decide
  have hclose : " %\x7d".toList = [' ', '%', '\x7d'] := by decide
  rw [chars_append, hwords, htag, statement, String.toList_append, String.toList_append, hopen, hclose]
  simp only [Tag.mark, Tag.closer, List.append_assoc, List.cons_append, List.nil_append]

/-- A segment that ends with an output is its text and the output. -/
theorem chars_print (segment : Segment) (words : String) (rest : List Char) (htag : segment.tag = .print)
    (hwords : spaced segment.pieces = ' ' :: words.toList) :
    segment.chars ++ rest = segment.text ++ ((placeholder words).toList ++ rest) := by
  have hopen : "\x7b\x7b ".toList = ['\x7b', '\x7b', ' '] := by decide
  have hclose : " \x7d\x7d".toList = [' ', '\x7d', '\x7d'] := by decide
  rw [chars_append, hwords, htag, placeholder, String.toList_append, String.toList_append, hopen, hclose]
  simp only [Tag.mark, Tag.closer, List.append_assoc, List.cons_append, List.nil_append]

/-- The template of the banner is made of its segments. -/
theorem toList_bannerTemplate :
    bannerTemplate.toList = bannerSegments.flatMap Segment.chars ++ lowerRule.toList := by
  have hfeed : "\n".toList = ['\n'] := by decide
  simp only [bannerSegments, List.flatMap_cons, List.flatMap_nil, List.append_assoc, List.nil_append]
  rw [chars_statement captureSegment "set banner_body" _ rfl (by decide),
    chars_print nameSegment "tool_name" _ rfl (by decide),
    chars_print versionSegment "version" _ rfl (by decide),
    chars_statement endSegment "endset" _ rfl (by decide),
    chars_print commentSegment "banner_body | line_comment" _ rfl (by decide)]
  simp only [bannerTemplate, sentence_eq, captureSegment, nameSegment, versionSegment, endSegment, commentSegment,
    lowerRule, String.toList_append, hfeed, List.append_assoc, List.cons_append, List.nil_append]

/-- The tokens of the template of the banner. -/
def bannerTokens : List Token := [
  .plain "", .opening .statement, .name "set", .name "banner_body", .closing .statement,
  .plain beforeName, .opening .print, .name "tool_name", .closing .print,
  .plain beforeVersion, .opening .print, .name "version", .closing .print,
  .plain afterVersion, .opening .statement, .name "endset", .closing .statement,
  .plain (Banner.rule ++ "\n"), .opening .print, .name "banner_body", .operator "|", .name "line_comment",
  .closing .print, .plain lowerRule]

/-- What the template of the banner captures. -/
def capturedNodes : List Node := [
  .plain beforeName, .output (.name "tool_name"), .plain beforeVersion, .output (.name "version"), .plain afterVersion]

/-- What it shows. -/
def shownNodes : List Node := [
  .plain (Banner.rule ++ "\n"), .output (.filtered (.name "banner_body") "line_comment" []), .plain lowerRule]

/-- The tree of the template of the banner. -/
def bannerTree : List Node :=
  .plain "" :: .capture "banner_body" capturedNodes :: shownNodes

/-- The template of the banner is read as its tree, and nothing is wrong with it. -/
theorem parse_bannerTemplate : parse .rendering bannerTemplate = .ok bannerTree := by
  have hscan := scan_segments bannerTemplate bannerSegments lowerRule.toList (by decide) (by decide)
    toList_bannerTemplate
  have htokens : bannerSegments.flatMap Segment.tokens ++ [.plain (String.ofList lowerRule.toList)] =
      bannerTokens := by
    simp only [bannerSegments, List.flatMap_cons, List.flatMap_nil, Segment.tokens, captureSegment, nameSegment,
      versionSegment, endSegment, commentSegment, String.ofList_toList]
    rfl
  have htree : Node.ofTokens bannerTokens = .ok bannerTree := rfl
  have hflaw : nodesFlaw? Reader.rendering.known bannerTree = none := rfl
  have hread : scan Reader.rendering.spacing bannerTemplate = bannerTokens := hscan.trans htokens
  rw [parse, hread, htree]
  simp only [bind, Except.bind, hflaw]
  rfl

/-! ## Rendering -/

/-- The values that the template of the banner is rendered with. -/
def bannerContext (banner : Banner) : List (Value × Value) :=
  [(.text "tool_name", .text banner.toolName), (.text "version", .text banner.version)]

theorem renderNodes_cons (context : List (Value × Value)) (scope scope' : Scope) (node : Node) (rest : List Node)
    (text tail : String) (hnode : node.render context scope = .ok (text, scope'))
    (hrest : renderNodes context scope' rest = .ok tail) :
    renderNodes context scope (node :: rest) = .ok (text ++ tail) := by
  rw [renderNodes, hnode]
  show (renderNodes context scope' rest >>= fun tail => pure (text ++ tail)) = Except.ok (text ++ tail)
  rw [hrest]
  rfl

theorem renderNodes_plain (context : List (Value × Value)) (scope : Scope) (text tail : String) (rest : List Node)
    (hrest : renderNodes context scope rest = .ok tail) :
    renderNodes context scope (.plain text :: rest) = .ok (text ++ tail) :=
  renderNodes_cons context scope scope (.plain text) rest text tail rfl hrest

/-- The sentence is captured: the texts of the template and the values between them. -/
theorem render_capturedNodes (banner : Banner) :
    renderNodes (bannerContext banner) (enter (bannerContext banner) [("banner_body", none)] capturedNodes)
      capturedNodes = .ok (Banner.sentence banner.toolName banner.version) := by
  have hscope : enter (bannerContext banner) [("banner_body", none)] capturedNodes =
      [("version", some (.value (.text banner.version))), ("tool_name", some (.value (.text banner.toolName))),
        ("banner_body", none)] := rfl
  have hnodes : renderNodes (bannerContext banner)
      [("version", some (.value (.text banner.version))), ("tool_name", some (.value (.text banner.toolName))),
        ("banner_body", none)] capturedNodes =
      .ok (beforeName ++ (banner.toolName ++ (beforeVersion ++ (banner.version ++ (afterVersion ++ ""))))) := rfl
  -- Both are the same five texts in a row.
  rw [hscope, hnodes, sentence_eq]
  simp only [String.append_assoc, String.append_empty]

/-- A captured text that has a line is shown as a comment. -/
theorem render_comment (context : List (Value × Value)) (scope : Scope) (text : String)
    (hlines : Text.commentLines text.toList ≠ []) :
    Node.render context (("banner_body", some (.value (.text text))) :: scope)
      (.output (.filtered (.name "banner_body") "line_comment" [])) =
      .ok (String.ofList (Banner.lineComment Banner.commentMark.toList text.toList),
        ("banner_body", some (.value (.text text))) :: scope) := by
  have hcomment : lineComment (.value (.text text)) (.value (.text Banner.commentMark)) =
      .ok (.value (.text (String.ofList (Banner.lineComment Banner.commentMark.toList text.toList)))) := by
    rw [lineComment, commentText, if_neg (by rwa [List.isEmpty_iff])]
    rfl
  have heval : Expr.eval context (("banner_body", some (.value (.text text))) :: scope)
      (.filtered (.name "banner_body") "line_comment" []) =
      lineComment (.value (.text text)) (.value (.text Banner.commentMark)) := rfl
  rw [Node.render, heval, hcomment]
  rfl

/-- What is shown: the rules, and the captured text between them as a comment. -/
theorem render_shownNodes (context : List (Value × Value)) (scope : Scope) (text : String)
    (hlines : Text.commentLines text.toList ≠ []) :
    renderNodes context (("banner_body", some (.value (.text text))) :: scope) shownNodes =
      .ok (Banner.rule ++ "\n" ++
        (String.ofList (Banner.lineComment Banner.commentMark.toList text.toList) ++ (lowerRule ++ ""))) := by
  have hcomment := render_comment context scope text hlines
  have hempty : renderNodes context (("banner_body", some (.value (.text text))) :: scope) [] = .ok "" := by
    rw [renderNodes]
  have hlower := renderNodes_plain context _ lowerRule "" [] hempty
  exact renderNodes_plain context _ _ _ _ (renderNodes_cons context _ _ _ _ _ _ hcomment hlower)

/-- The text of the template is the banner before the canonical pass. -/
theorem render_bannerTree (banner : Banner) :
    renderNodes (bannerContext banner) [("banner_body", none)] bannerTree = .ok banner.draft := by
  -- The captured text takes the place of the name that had no value yet; the nodes below find it there.
  have hcapture : Node.render (bannerContext banner) [("banner_body", none)] (.capture "banner_body" capturedNodes) =
      .ok ("", [("banner_body", some (.value (.text (Banner.sentence banner.toolName banner.version)))),
        ("banner_body", none)]) := by
    rw [Node.render, render_capturedNodes]
    rfl
  have hshown := render_shownNodes (bannerContext banner) [("banner_body", none)]
    (Banner.sentence banner.toolName banner.version)
    (Banner.commentLines_sentence_ne_nil banner.toolName banner.version)
  rw [bannerTree, renderNodes_plain _ _ _ _ _ (renderNodes_cons _ _ _ _ _ _ _ hcapture hshown)]
  simp only [Banner.draft, lowerRule, String.append_assoc, String.append_empty, String.empty_append]

/-- A template that is found is rendered under its name. -/
theorem renderFile_of_content (files : FileSystem) (folder : Folder) (name : String) (pieces : List String)
    (template : String) (context : List (Value × Value)) (hpieces : pieces? name = some pieces)
    (hcontent : content? files folder pieces = some template.toUTF8) :
    renderFile files folder name context =
      (render template (some name) context).mapError (failure "Template file rendering failed" [("template", name)]) := by
  rw [renderFile, hpieces]
  simp only [hcontent, Text.decode_toUTF8]
  rfl

/-- Rendering the template of the banner gives its rules and its comment. -/
theorem renderFile_banner (files : FileSystem) (banner : Banner) :
    renderFile files .included bannerName (bannerContext banner) = .ok banner.draft := by
  have hpieces : pieces? bannerName = some [bannerName] := by decide
  have hcontent : content? files .included [bannerName] = some bannerTemplate.toUTF8 := by
    rw [content?, if_pos rfl]
  have hitself : (Value.lookup (bannerContext banner) itself).isSome = false := rfl
  have hscope : enter (bannerContext banner) (initialScope (some bannerName) bannerTree) bannerTree =
      [("banner_body", none)] := rfl
  have hrender : render bannerTemplate (some bannerName) (bannerContext banner) = .ok banner.draft := by
    rw [render, parse_bannerTemplate]
    simp only [hitself, Bool.false_eq_true, if_false]
    rw [hscope, render_bannerTree]
  rw [renderFile_of_content files .included bannerName _ bannerTemplate _ hpieces hcontent, hrender, Except.mapError]

end Template

end CodeBehind
