import CodeBehind.Proofs.Rendering

/-!
# The line of the version

Where the version of a tool is seen in a generated text.

The version is written into the sentence of the banner, and the sentence is broken into lines afterwards, so the line
of the version is not where it was written but where the breaking puts it. The name of the tool comes before it and
may hold line ends of its own, each of which moves it down by one. How the name is broken is decided before the
version is read: what is left open at the end of the name is ended by the fixed text behind it, and the version begins
on a new line. If it has no line end, it also ends there. So the lines above it and below it are the same for all
versions, and the body of the text does not know the banner at all.

On its line the version stands behind sixteen characters, which is where a tab stop is. Its tabs are therefore as wide
as they would be at the beginning of a line.

## Main definitions

* `Text.lineEnds`: How often a comment block breaks a text.

## Main results

* `render_version`: Another version changes one line of a generated text.

## Theorems

* `exists_commentLinesFrom_append`: A text is broken before what is behind it is read.
* `exists_commentLines_sentence`, `exists_lines_banner`: The lines around the version.
* `exists_lines_render`: What is below the banner is the same for all banners.
* `tidyLine_versionMark`: The version on its line.
-/

namespace CodeBehind

namespace Text

/-- How often a text is broken by a comment block; a carriage return and the line feed behind it count once. -/
def lineEnds : List Char → Nat
  | [] => 0
  | '\r' :: '\n' :: cs => lineEnds cs + 1
  | c :: cs => if endsLine c then lineEnds cs + 1 else lineEnds cs

theorem commentLinesFrom_cons (current : List Char) (c : Char) (cs : List Char)
    (h : ∀ rest, c = '\r' → cs = '\n' :: rest → False) :
    commentLinesFrom current (c :: cs) =
      if endsLine c then current.reverse :: commentLines cs else commentLinesFrom (c :: current) cs := by
  rw [commentLinesFrom]
  · rfl
  · exact h

/-- Characters that end no line are added to the open one. -/
theorem commentLinesFrom_append (current line rest : List Char) (h : ∀ c ∈ line, endsLine c = false) :
    commentLinesFrom current (line ++ rest) = commentLinesFrom (line.reverse ++ current) rest := by
  induction line generalizing current with
  | nil => rfl
  | cons c line ih =>
      have hc := h c (List.mem_cons_self ..)
      have hreturn : c ≠ '\r' := by
        intro heq
        rw [heq] at hc
        exact absurd hc (by decide)
      rw [List.cons_append, commentLinesFrom_cons _ _ _ (fun _ heq => absurd heq hreturn), hc, if_neg Bool.false_ne_true,
        ih _ (fun d hd => h d (List.mem_cons_of_mem c hd)), List.reverse_cons, List.append_assoc, List.singleton_append]

/-- A line feed ends the open line. -/
theorem commentLinesFrom_line (current line rest : List Char) (h : ∀ c ∈ line, endsLine c = false) :
    commentLinesFrom current (line ++ '\n' :: rest) = (current.reverse ++ line) :: commentLines rest := by
  have hfeed : endsLine '\n' = true := by decide
  rw [commentLinesFrom_append _ _ _ h, commentLinesFrom_cons _ _ _ (fun _ heq => absurd heq (by decide)), hfeed,
    if_pos rfl, List.reverse_append, List.reverse_reverse]

/-- What is put behind a text makes no pair of a carriage return in it, unless it begins with a line feed. -/
theorem not_pair_append {c : Char} {cs rest : List Char} (h : ∀ tail, c = '\r' → cs = '\n' :: tail → False)
    (hrest : rest.head? ≠ some '\n') : ∀ tail, c = '\r' → cs ++ rest = '\n' :: tail → False := by
  intro tail hc heq
  cases cs with
  | nil =>
      rw [List.nil_append] at heq
      exact hrest (by rw [heq, List.head?_cons])
  | cons d cs =>
      rw [List.cons_append, List.cons.injEq] at heq
      exact h cs hc (by rw [heq.1])

/-- A text is broken in the same way whatever is behind it, unless that is a line feed, which a carriage return at
    the end would take with it. -/
theorem exists_commentLinesFrom_append (current cs : List Char) :
    ∃ pieces opened, pieces.length = lineEnds cs ∧ ∀ rest, rest.head? ≠ some '\n' →
      commentLinesFrom current (cs ++ rest) = pieces ++ commentLinesFrom opened rest := by
  -- By the line ends in the text, as they are counted. A pair at the end of the text must not go on in what follows.
  fun_induction lineEnds cs generalizing current with
  | case1 => exact ⟨[], current, rfl, fun _ _ => rfl⟩
  | case2 cs ih =>
      rcases ih [] with ⟨pieces, opened, hlength, hpieces⟩
      refine ⟨current.reverse :: pieces, opened, by rw [List.length_cons, hlength], fun rest hrest => ?_⟩
      rw [List.cons_append, List.cons_append, commentLinesFrom, hpieces rest hrest, List.cons_append]
  | case3 c cs hpair hends ih =>
      rcases ih [] with ⟨pieces, opened, hlength, hpieces⟩
      refine ⟨current.reverse :: pieces, opened, by rw [List.length_cons, hlength], fun rest hrest => ?_⟩
      rw [List.cons_append, commentLinesFrom_cons, if_pos hends, commentLines, hpieces rest hrest, List.cons_append]
      exact not_pair_append hpair hrest
  | case4 c cs hpair hends ih =>
      rcases ih (c :: current) with ⟨pieces, opened, hlength, hpieces⟩
      refine ⟨pieces, opened, hlength, fun rest hrest => ?_⟩
      rw [List.cons_append, commentLinesFrom_cons, if_neg hends, hpieces rest hrest]
      exact not_pair_append hpair hrest

end Text

namespace Banner

open Text (commentLines commentLinesFrom endsLine lineEnds tidyLine trimEnd)

/-- What stands before the version on its line. -/
def versionMark : String := "//     Version: "

/-- The sentence of a banner in the pieces that its breaking meets; the last one does not matter. -/
theorem exists_toList_sentence :
    ∃ advice : List Char, ∀ toolName version, (sentence toolName version).toList =
      "<auto-generated>".toList ++ '\n' :: ("    This code was generated by the ".toList ++ (toolName.toList ++
        (" tool.".toList ++ '\n' :: ("    Version: ".toList ++ version.toList ++ '\n' :: advice)))) := by
  have hbefore : Template.beforeName.toList =
      "<auto-generated>".toList ++ '\n' :: "    This code was generated by the ".toList := by decide
  have hbetween : Template.beforeVersion.toList = " tool.".toList ++ '\n' :: "    Version: ".toList := by decide
  have hafter : Template.afterVersion.toList.head? = some '\n' := Text.head?_append _ _ _ (by decide)
  rcases List.head?_eq_some_iff.mp hafter with ⟨advice, hadvice⟩
  refine ⟨advice, fun toolName version => ?_⟩
  simp only [Template.sentence_eq, String.toList_append, hbefore, hbetween, hadvice, List.append_assoc, List.cons_append]

/-- The lines of the sentence around the version: as many above it as the name of the tool has line ends, and two. -/
theorem exists_commentLines_sentence (toolName : String) :
    ∃ above below, above.length = 2 + lineEnds toolName.toList ∧
      ∀ version : String, (∀ c ∈ version.toList, endsLine c = false) →
        commentLines (sentence toolName version).toList =
          above ++ ("    Version: ".toList ++ version.toList) :: below := by
  rcases exists_toList_sentence with ⟨advice, hsentence⟩
  rcases Text.exists_commentLinesFrom_append "    This code was generated by the ".toList.reverse toolName.toList with
    ⟨pieces, opened, hlength, hpieces⟩
  refine ⟨"<auto-generated>".toList :: (pieces ++ [opened.reverse ++ " tool.".toList]),
    commentLines advice, ?_, fun version hversion => ?_⟩
  · rw [List.length_cons, List.length_append, List.length_singleton, hlength]
    omega
  -- The mark and the version are one line, as neither of them has an end of a line.
  · have hmark : ∀ c ∈ "    Version: ".toList ++ version.toList, endsLine c = false := by
      intro c hc
      rcases List.mem_append.mp hc with hc | hc
      · exact unbroken_of_all "    Version: ".toList (by decide) c hc
      · exact hversion c hc
    -- Behind the name of the tool comes a space, so a line end in the name does not go on there.
    have hopen : (" tool.".toList ++ '\n' :: ("    Version: ".toList ++ version.toList ++ '\n' :: advice)).head? ≠
        some '\n' := by
      rw [List.head?_append, show " tool.".toList.head? = some ' ' by decide, Option.some_or]
      decide
    rw [hsentence, commentLines, Text.commentLinesFrom_line _ _ _ (unbroken_of_all _ (by decide)),
      List.reverse_nil, List.nil_append, commentLines,
      Text.commentLinesFrom_append _ _ _ (unbroken_of_all _ (by decide)), List.append_nil,
      hpieces _ hopen, Text.commentLinesFrom_line _ _ _ (unbroken_of_all _ (by decide)), commentLines,
      Text.commentLinesFrom_line _ _ _ hmark, List.reverse_nil, List.nil_append, List.cons_append, List.append_assoc,
      List.singleton_append]

/-- The version on its line, behind a tab stop. -/
theorem tidyLine_versionMark (version : String) (h : Text.allBlank version = false) :
    tidyLine (versionMark.toList ++ version.toList) = versionMark.toList ++ tidyLine version.toList := by
  have hmark : Text.expandTabs versionMark.toList = versionMark.toList :=
    Text.expandTabsFrom_of_notMem 0 _ (by decide)
  have hcolumn : Text.expandTabsFrom (0 + versionMark.toList.length) version.toList = Text.expandTabs version.toList :=
    Text.expandTabsFrom_congr _ _ _ (by decide)
  have hvisible : ∃ c ∈ Text.expandTabs version.toList, Text.isBlank c = false := by
    rw [Text.allBlank, List.all_eq_false] at h
    rcases h with ⟨c, hmem, hc⟩
    rw [Bool.not_eq_true] at hc
    exact ⟨c, Text.mem_expandTabsFrom_of_visible 0 _ c hmem hc, hc⟩
  rw [tidyLine, Text.expandTabs, Text.expandTabsFrom_append, ← Text.expandTabs, hmark, hcolumn,
    Text.trimEnd_append_of_visible _ _ hvisible, tidyLine]

/-- The lines of a banner around the one of the version. -/
theorem exists_lines_banner (toolName : String) :
    ∃ above below, above.length = 3 + lineEnds toolName.toList ∧
      ∀ banner : Banner, banner.toolName = toolName → (∀ c ∈ banner.version.toList, endsLine c = false) →
        banner.lines = above ++ (versionMark.toList ++ tidyLine banner.version.toList) :: below := by
  rcases exists_commentLines_sentence toolName with ⟨above, below, hlength, hlines⟩
  refine ⟨tidyLine rule.toList :: above.map fun l => tidyLine (trimEnd (commentMark.toList ++ l)),
    (below.map fun l => tidyLine (trimEnd (commentMark.toList ++ l))) ++ [tidyLine rule.toList], ?_,
    fun banner hname hversion => ?_⟩
  · rw [List.length_cons, List.length_map, hlength]
    omega
  · have hmark : commentMark.toList ++ ("    Version: ".toList ++ banner.version.toList) =
        versionMark.toList ++ banner.version.toList := by
      rw [← List.append_assoc, show commentMark.toList ++ "    Version: ".toList = versionMark.toList by decide]
    rw [← tidyLine_versionMark banner.version banner.version_visible, lines, block, hname,
      hlines banner.version hversion]
    simp only [List.map_append, List.map_cons, List.map_nil, List.map_map, Function.comp_def, hmark,
      Text.tidyLine_trimEnd, List.cons_append, List.append_assoc]

end Banner

/-- What is below the banner of a generated text is the same for all banners. -/
theorem exists_lines_render (unit : Syntax.CompilationUnit) (banner : Banner) (text : String)
    (h : render unit banner = .ok text) :
    ∃ below, ∀ other : Banner, ∃ text', render unit other = .ok text' ∧
      Text.lines text'.toList = other.lines ++ below := by
  rcases exists_lines_of_render unit banner text h with ⟨ls, body, hcanonical, hbody, hlines, _⟩
  rcases exists_body_of_render unit banner text h with ⟨hviolation, _⟩
  refine ⟨[] :: ls ++ [[]], fun other => ⟨other.text ++ "\n" ++ body, ?_, ?_⟩⟩
  · rw [render, hviolation, hbody]
  -- The lines are found again, since none of them has a feed in it.
  · have hfeed : ∀ l ∈ other.lines ++ [] :: ls, '\n' ∉ l := by
      intro l hl
      rcases List.mem_append.mp hl with hl | hl
      · exact Banner.notMem_of_isComment l '\n' (by decide) (other.isComment_of_mem_lines l hl)
      · exact (hcanonical.line l (List.mem_append_right _ hl)).unbroken.1
    have hlist : (other.text ++ "\n" ++ body).toList = Text.terminate (other.lines ++ [] :: ls) := by
      rw [String.toList_append, String.toList_append, other.toList_text, hlines, Text.terminate_append,
        List.append_assoc]
      rfl
    rw [hlist, Text.lines_terminate _ hfeed, List.append_assoc]

/-- Another version of the same tool changes one line of a generated text, if neither version has a line end. There is
    a text for the other version, it has as many lines, and each of them is the same but the one below the name of the
    tool, which is moved down by the line ends in that name. There each text has its own version, with tabs expanded and
    without blanks at the end. -/
theorem render_version (unit : Syntax.CompilationUnit) (banner other : Banner) (text : String)
    (h : render unit banner = .ok text) (hname : other.toolName = banner.toolName)
    (hversion : ∀ c ∈ banner.version.toList, Text.endsLine c = false)
    (hother : ∀ c ∈ other.version.toList, Text.endsLine c = false) :
    ∃ text', render unit other = .ok text' ∧
      (Text.lines text'.toList).length = (Text.lines text.toList).length ∧
      (∀ i, i ≠ 3 + Text.lineEnds banner.toolName.toList →
        (Text.lines text'.toList)[i]? = (Text.lines text.toList)[i]?) ∧
      (Text.lines text.toList)[3 + Text.lineEnds banner.toolName.toList]? =
        some ("//     Version: ".toList ++ Text.tidyLine banner.version.toList) ∧
      (Text.lines text'.toList)[3 + Text.lineEnds banner.toolName.toList]? =
        some ("//     Version: ".toList ++ Text.tidyLine other.version.toList) := by
  rcases exists_lines_render unit banner text h with ⟨rest, hlines⟩
  rcases Banner.exists_lines_banner banner.toolName with ⟨above, below, hlength, habove⟩
  rcases hlines other with ⟨text', htext', hlines'⟩
  rcases hlines banner with ⟨same, hsame, hlines⟩
  rw [h, Except.ok.injEq] at hsame
  -- Both texts are the same lines around that of the version.
  rw [← hsame, habove banner rfl hversion, List.append_assoc, List.cons_append] at hlines
  rw [habove other hname hother, List.append_assoc, List.cons_append] at hlines'
  have hline (line : List Char) (more : List (List Char)) : (above ++ line :: more)[above.length]? = some line := by
    rw [List.getElem?_append_right (Nat.le_refl _), Nat.sub_self, List.getElem?_cons_zero]
  refine ⟨text', htext', ?_, fun i hi => ?_, ?_, ?_⟩
  · rw [hlines, hlines', List.length_append, List.length_append, List.length_cons, List.length_cons]
  · rw [hlines, hlines']
    exact getElem?_append_cons_ne _ _ _ _ i (hlength ▸ hi)
  · rw [hlines, ← hlength, hline]
    rfl
  · rw [hlines', ← hlength, hline]
    rfl

/-- A name with every kind of line end, the first of them a pair. -/
def brokenName : String := "\r\nA\rB\n\u000b\u000c\u001c\u001d\u001e\u0085\u2028\u2029\r"

/-- A tool of this name in a version with a tab and blanks at its end. -/
def tabbedBanner : Banner where
  toolName := brokenName
  version := "1\t\x7b \t"
  toolName_visible := by decide +kernel
  version_visible := by decide +kernel

/-- The same tool in a later version. -/
def laterBanner : Banner where
  toolName := brokenName
  version := "10.0.0"
  toolName_visible := by decide +kernel
  version_visible := by decide +kernel

theorem render_version_broken :
    ∃ text text', render smuggledUnit tabbedBanner = .ok text ∧ render smuggledUnit laterBanner = .ok text' ∧
      (Text.lines text'.toList).length = (Text.lines text.toList).length ∧
      (∀ i, i ≠ 15 → (Text.lines text'.toList)[i]? = (Text.lines text.toList)[i]?) ∧
      (Text.lines text.toList)[15]? = some "//     Version: 1   \x7b".toList ∧
      (Text.lines text'.toList)[15]? = some "//     Version: 10.0.0".toList := by
  have hindex : 3 + Text.lineEnds tabbedBanner.toolName.toList = 15 := by decide +kernel
  have hold : "//     Version: ".toList ++ Text.tidyLine tabbedBanner.version.toList =
      "//     Version: 1   \x7b".toList := by decide +kernel
  have hnew : "//     Version: ".toList ++ Text.tidyLine laterBanner.version.toList =
      "//     Version: 10.0.0".toList := by decide +kernel
  have hversions : (tabbedBanner.version ++ laterBanner.version).toList.all (fun c => Text.endsLine c == false) =
      true := by decide +kernel
  rw [String.toList_append, List.all_append, Bool.and_eq_true, List.all_eq_true, List.all_eq_true] at hversions
  rcases exists_render smuggledUnit tabbedBanner (by decide +kernel) (by decide +kernel) with ⟨text, htext⟩
  rcases render_version smuggledUnit tabbedBanner laterBanner text htext rfl
    (fun c hc => eq_of_beq (hversions.1 c hc)) (fun c hc => eq_of_beq (hversions.2 c hc)) with
      ⟨text', htext', hlength, hlines, hline, hline'⟩
  rw [hindex] at hlines hline hline'
  rw [hold] at hline
  rw [hnew] at hline'
  exact ⟨text, text', htext, htext', hlength, hlines, hline, hline'⟩

end CodeBehind
