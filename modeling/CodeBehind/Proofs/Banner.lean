import CodeBehind.Banner
import CodeBehind.Proofs.Text.Canonical

/-!
# The lines of a banner

Every line of a banner is a comment, whatever the tool is called.

The name and the version of the tool are free texts. What they may contain that is dangerous is a line end: a part
of them would stand on a line of its own, without a comment mark. The comment is broken at every character that
ends a line for some reader, and there are more of these than the ones at which the canonical pass or the language
of the generated source break lines. So no character of the banner ends a line for any of them but the line feeds
that were put between the marked lines, and those are the lines the pass sees. It changes each of them for itself,
and the mark at its beginning stays: it is visible, and trimming and tabs only reach what stands behind it.

`IsComment` collects what is kept along the way. The lines of a banner are those that were put together, tidied;
none of them is blank, so the pass has nothing else to do.

## Main definitions

* `IsComment`: A line behind a comment mark in which no character ends a line.
* `draft`: A banner before the canonical pass.
* `block`, `lines`: The lines of a banner as they are put together, and as they come out.

## Theorems

* `endsLine_of_mem_commentLines`: Breaking a comment leaves no line end.
* `toList_text`: A banner is made of its lines.
* `isComment_of_mem_lines`: Each of them is a comment.
* `getLast?_lines`: The last of them is the rule.
-/

namespace CodeBehind

namespace Banner

open Text (IsCanonicalLines canonicalLines commentLines commentLinesFrom endsLine isBlank settle terminate tidyLine
  trimEnd)

/-- A line behind a comment mark in which no character ends a line for any reader. -/
structure IsComment (line : List Char) : Prop where
  marked : ∃ rest, line = '/' :: '/' :: rest
  unbroken : ∀ c ∈ line, endsLine c = false

/-- The lines a banner is put together from: the marked lines of the sentence between two rules. -/
def block (banner : Banner) : List (List Char) :=
  rule.toList ::
    ((commentLines (sentence banner.toolName banner.version).toList).map fun line =>
      trimEnd (commentMark.toList ++ line)) ++ [rule.toList]

/-- A banner before the canonical pass. -/
def draft (banner : Banner) : String :=
  rule ++ "\n" ++ String.ofList (lineComment commentMark.toList (sentence banner.toolName banner.version).toList) ++
    "\n" ++ rule ++ "\n"

/-- The lines of a banner. -/
def lines (banner : Banner) : List (List Char) :=
  (block banner).map tidyLine

/-! ## Comments -/

/-- Breaking a text leaves no line end in a line, if there is none in the line that is open. -/
theorem endsLine_of_mem_commentLinesFrom (current cs : List Char) (hcurrent : ∀ c ∈ current, endsLine c = false) :
    ∀ l ∈ commentLinesFrom current cs, ∀ c ∈ l, endsLine c = false := by
  -- The characters of the open line have been looked at before; a new line begins without any.
  have hnew : ∀ c ∈ ([] : List Char), endsLine c = false := fun _ hc => absurd hc List.not_mem_nil
  fun_induction commentLinesFrom current cs with
  | case1 current hempty => exact fun l hl => absurd hl List.not_mem_nil
  | case2 current hsome =>
      intro l hl c hc
      rw [List.mem_singleton.mp hl, List.mem_reverse] at hc
      exact hcurrent c hc
  | case3 current cs ih =>
      intro l hl c hc
      rcases List.mem_cons.mp hl with heq | hl
      · rw [heq, List.mem_reverse] at hc
        exact hcurrent c hc
      · exact ih hnew l hl c hc
  | case4 current c cs hpair hends ih =>
      intro l hl d hd
      rcases List.mem_cons.mp hl with heq | hl
      · rw [heq, List.mem_reverse] at hd
        exact hcurrent d hd
      · exact ih hnew l hl d hd
  | case5 current c cs hpair hends ih =>
      refine ih (fun d hd => ?_)
      rcases List.mem_cons.mp hd with heq | hd
      · rw [heq]
        exact Bool.eq_false_iff.mpr hends
      · exact hcurrent d hd

/-- Breaking a comment leaves no line end in a line. -/
theorem endsLine_of_mem_commentLines (cs : List Char) : ∀ l ∈ commentLines cs, ∀ c ∈ l, endsLine c = false :=
  endsLine_of_mem_commentLinesFrom [] cs (fun _ hc => absurd hc List.not_mem_nil)

/-- Looking through a line, character by character. -/
theorem unbroken_of_all (line : List Char) (h : line.all (fun c => !endsLine c) = true) :
    ∀ c ∈ line, endsLine c = false := by
  intro c hc
  have hends := List.all_eq_true.mp h c hc
  rwa [Bool.not_eq_true'] at hends

theorem isComment_rule : IsComment rule.toList where
  marked := ⟨List.replicate 78 '-', by decide⟩
  unbroken := unbroken_of_all _ (by decide)

/-- A marked line is a comment. -/
theorem isComment_trimEnd (line : List Char) (h : ∀ c ∈ line, endsLine c = false) :
    IsComment (trimEnd (commentMark.toList ++ line)) where
  marked := by
    -- The second slash is visible, and only what stands behind it is trimmed.
    have hmark : commentMark.toList ++ line = ['/'] ++ '/' :: ' ' :: line := by
      rw [show commentMark.toList = ['/', '/', ' '] by decide]
      rfl
    refine ⟨trimEnd (' ' :: line), ?_⟩
    rw [hmark, Text.trimEnd_append_visible _ _ '/' (by decide)]
    rfl
  unbroken := by
    intro c hc
    rcases List.mem_append.mp ((Text.trimEnd_isPrefix _).subset hc) with hmark | hline
    · exact unbroken_of_all commentMark.toList (by decide) c hmark
    · exact h c hline

theorem isComment_tidyLine (line : List Char) (h : IsComment line) : IsComment (tidyLine line) where
  marked := by
    rcases h.marked with ⟨rest, heq⟩
    rcases Text.tidyLine_append_visible ['/'] rest '/' (by decide) with ⟨kept, hkept⟩
    refine ⟨kept, ?_⟩
    rw [heq]
    exact hkept
  unbroken := by
    -- Tabs are expanded to spaces, and nothing else is added.
    intro c hc
    rcases Text.mem_of_mem_tidyLine line c hc with hspace | ⟨hline, _⟩
    · rw [hspace]
      decide
    · exact h.unbroken c hline

theorem ne_nil_of_isComment (line : List Char) (h : IsComment line) : line ≠ [] := by
  rcases h.marked with ⟨rest, heq⟩
  rw [heq]
  exact List.cons_ne_nil _ _

/-- A comment shows its mark. -/
theorem all_isBlank_of_isComment (line : List Char) (h : IsComment line) : line.all isBlank = false := by
  rcases h.marked with ⟨rest, heq⟩
  rw [heq]
  rfl

theorem notMem_of_isComment (line : List Char) (c : Char) (hc : endsLine c = true) (h : IsComment line) : c ∉ line := by
  intro hmem
  rw [h.unbroken c hmem] at hc
  exact Bool.false_ne_true hc

/-! ## The lines of a banner -/

theorem isComment_of_mem_block (banner : Banner) : ∀ l ∈ block banner, IsComment l := by
  intro l hl
  rcases List.mem_append.mp hl with hl | hl
  · rcases List.mem_cons.mp hl with heq | hl
    · rw [heq]
      exact isComment_rule
    · rcases List.mem_map.mp hl with ⟨line, hline, heq⟩
      rw [← heq]
      exact isComment_trimEnd line (endsLine_of_mem_commentLines _ line hline)
  · rw [List.mem_singleton.mp hl]
    exact isComment_rule

/-- Each line of a banner is a comment. -/
theorem isComment_of_mem_lines (banner : Banner) : ∀ l ∈ lines banner, IsComment l := by
  intro l hl
  rcases List.mem_map.mp hl with ⟨line, hline, heq⟩
  rw [← heq]
  exact isComment_tidyLine line (isComment_of_mem_block banner line hline)

theorem tidyLine_rule : tidyLine rule.toList = rule.toList := by
  decide

/-- The last line of a banner is the rule. -/
theorem getLast?_lines (banner : Banner) : (lines banner).getLast? = some rule.toList := by
  rw [lines, block, List.map_append, List.map_singleton, List.getLast?_concat, tidyLine_rule]

/-- A text whose first line has begun has a line. -/
theorem commentLinesFrom_ne_nil (current cs : List Char) (h : current ≠ []) : commentLinesFrom current cs ≠ [] := by
  fun_induction commentLinesFrom current cs with
  | case1 current hempty => exact absurd (List.isEmpty_iff.mp hempty) h
  | case2 current hsome => exact List.cons_ne_nil _ _
  | case3 current cs ih => exact List.cons_ne_nil _ _
  | case4 current c cs hpair hends ih => exact List.cons_ne_nil _ _
  | case5 current c cs hpair hends ih => exact ih (List.cons_ne_nil c current)

/-- The sentence of a banner has a line: it begins with a visible character. -/
theorem commentLines_sentence_ne_nil (toolName version : String) :
    commentLines (sentence toolName version).toList ≠ [] := by
  have hfirst : (sentence toolName version).toList.head? = some '<' := by
    exact Text.head?_append _ _ _ (Text.head?_append _ _ _ (Text.head?_append _ _ _ (Text.head?_append _ _ _
      (Text.head?_append _ _ _ (by decide)))))
  rcases List.head?_eq_some_iff.mp hfirst with ⟨rest, heq⟩
  have hbegun : commentLinesFrom [] ('<' :: rest) = commentLinesFrom ['<'] rest := by
    rw [commentLinesFrom]
    · rfl
    · exact fun _ hc => absurd hc (by decide)
  rw [commentLines, heq, hbegun]
  exact commentLinesFrom_ne_nil ['<'] rest (List.cons_ne_nil _ _)

theorem text_eq_normalize (banner : Banner) : banner.text = Text.normalize (draft banner) :=
  rfl

/-- A banner is put together from its lines. -/
theorem toList_draft (banner : Banner) : (draft banner).toList = terminate (block banner) := by
  have hfeed : "\n".toList = ['\n'] := by decide
  have hcomment : ((commentLines (sentence banner.toolName banner.version).toList).map fun line =>
      trimEnd (commentMark.toList ++ line)) ≠ [] := by
    intro hnil
    exact commentLines_sentence_ne_nil _ _ (List.map_eq_nil_iff.mp hnil)
  -- The comment is put together without a line end behind it, which the text adds.
  rw [draft, block, Text.terminate_append, Text.terminate_cons, Text.terminate_eq_joinLines _ hcomment, Text.terminate_cons]
  simp only [String.toList_append, String.toList_ofList, hfeed, lineComment, List.append_assoc, List.cons_append,
    List.nil_append]
  rfl

/-- The canonical pass keeps the lines of a banner, each of them tidied. -/
theorem canonicalLines_block (banner : Banner) : canonicalLines (terminate (block banner)) = lines banner := by
  have hunbroken : ∀ l ∈ block banner, '\n' ∉ l ∧ '\r' ∉ l := by
    intro l hl
    have hcomment := isComment_of_mem_block banner l hl
    exact ⟨notMem_of_isComment l '\n' (by decide) hcomment, notMem_of_isComment l '\r' (by decide) hcomment⟩
  -- No line is blank, so the walk over the lines keeps them all.
  have hsolid : ∀ l ∈ lines banner, l ≠ [] :=
    fun l hl => ne_nil_of_isComment l (isComment_of_mem_lines banner l hl)
  rw [Text.canonicalLines_of_unbroken _ hunbroken]
  exact Text.settle_of_solid (lines banner) hsolid

/-- A banner is made of its lines. -/
theorem toList_text (banner : Banner) : banner.text.toList = terminate (lines banner) := by
  rw [text_eq_normalize, Text.toList_normalize, toList_draft, canonicalLines_block]

/-- The lines of a banner are those of a canonical text. -/
theorem isCanonicalLines_lines (banner : Banner) : IsCanonicalLines (lines banner) := by
  rw [← canonicalLines_block]
  exact Text.isCanonicalLines_canonicalLines _

end Banner

end CodeBehind
