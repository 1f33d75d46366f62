import CodeBehind.Proofs.Syntax.Opening
import CodeBehind.Proofs.Template.Banner
import CodeBehind.Synthesis

/-!
# Generated texts

What holds of a generated text as a whole, when its banner and its body were made apart.

Banner and body each come out of the canonical pass, and a line feed is put between them. Nobody looks at the
result again. That it is canonical is a matter of the seam: the banner ends with a rule, which opens no block, and
the body begins with a word, which closes none and is not blank. The names in a tree and the name of the tool may
hold line ends and braces, but none of them stands at the seam.

The blank line of the seam is also the first one of the text, as no line of the banner is blank. So the banner can
be cut off without knowing it, and the text determines both parts. The lines of the banner are comments under every
notion of a line that the readers of the text may have; for the language of the generated source these are the
lines that `sourceLines` breaks at.

## Main definitions

* `endsSourceLine`, `sourceLines`: What ends a line of generated source, and its lines.
* `cutAtGap`: A text before and after its first blank line.

## Main results

* `render_canonical`: A generated text is canonical.
* `banner_confined`: The banner of a generated text is a comment that can be cut off.

## Theorems

* `cutAtGap_joinLines`: Lines that are not blank are cut off as a whole.
* `exists_render`, `exists_body_of_render`: Which trees have a text, and what it is made of.
* `exists_lines_of_render`: The lines of a generated text.
* `sourceLines_text`: The lines of a banner in the language of the generated source.
* `cutAtGap_render`: A generated text is cut into its banner and its body.
-/

namespace CodeBehind

open Text (IsCanonicalLines closesBlock isBlank joinLines normalize opensBlock terminate)

/-- Whether a character ends a line in the language of the generated source. -/
def endsSourceLine (c : Char) : Bool :=
  c == '\n' || c == '\r' || c == '\u0085' || c == '\u2028' || c == '\u2029'

/-- The lines of generated source, and what is left after the last line end. -/
def sourceLines (text : String) : List (List Char) :=
  text.toList.splitOnP endsSourceLine

/-- A text before and after the first two line feeds in a row, if there are any. -/
def cutAtGap : List Char → Option (List Char × List Char)
  | [] => none
  | '\n' :: '\n' :: cs => some ([], cs)
  | c :: cs => (cutAtGap cs).map fun (before, after) => (c :: before, after)

/-! ## Cutting -/

theorem cutAtGap_cons (c : Char) (cs : List Char) (h : ∀ rest, c = '\n' → cs = '\n' :: rest → False) :
    cutAtGap (c :: cs) = (cutAtGap cs).map fun (before, after) => (c :: before, after) := by
  rw [cutAtGap]
  exact h

/-- A line is passed as a whole. -/
theorem cutAtGap_line (l before after cs : List Char) (hl : '\n' ∉ l) (h : cutAtGap cs = some (before, after)) :
    cutAtGap (l ++ cs) = some (l ++ before, after) := by
  induction l with
  | nil => exact h
  | cons c rest ih =>
      rw [List.mem_cons, not_or] at hl
      rw [List.cons_append, cutAtGap_cons c _ (fun _ hc => absurd hc.symm hl.1), ih hl.2]
      rfl

/-- Lines that are not blank are cut off as a whole at the blank line below them. -/
theorem cutAtGap_joinLines (ls : List (List Char)) (after : List Char) (hne : ls ≠ [])
    (h : ∀ l ∈ ls, l ≠ [] ∧ '\n' ∉ l) :
    cutAtGap (joinLines ls ++ '\n' :: '\n' :: after) = some (joinLines ls, after) := by
  induction ls with
  | nil => exact absurd rfl hne
  | cons l rest ih =>
      have hl := h l (List.mem_cons_self ..)
      cases rest with
      | nil =>
          have hcut := cutAtGap_line l [] after ('\n' :: '\n' :: after) hl.2 rfl
          rw [List.append_nil] at hcut
          rw [Text.joinLines_singleton]
          exact hcut
      | cons next more =>
          have hrest := ih (List.cons_ne_nil next more) (fun x hx => h x (List.mem_cons_of_mem l hx))
          have hnext := h next (List.mem_cons_of_mem l (List.mem_cons_self ..))
          -- The line feed behind the line is followed by the beginning of the next one.
          have hfeed : cutAtGap ('\n' :: (joinLines (next :: more) ++ '\n' :: '\n' :: after)) =
              some ('\n' :: joinLines (next :: more), after) := by
            rw [cutAtGap_cons, hrest]
            · rfl
            · intro tail _ htail
              cases hstart : next with
              | nil => exact hnext.1 hstart
              | cons c cs =>
                  rcases Text.exists_joinLines_cons c cs more with ⟨below, hbelow⟩
                  rw [hstart, hbelow, List.cons_append, List.cons.injEq] at htail
                  exact hnext.2 (by rw [hstart, htail.1]; exact List.mem_cons_self ..)
          rw [Text.joinLines_cons_cons, List.append_assoc, List.cons_append]
          exact cutAtGap_line l _ after _ hl.2 hfeed

/-! ## Generated texts -/

theorem types_ne_nil_of_violation? (unit : Syntax.CompilationUnit) (h : unit.violation? = none) :
    unit.types ≠ [] := by
  intro hnil
  rw [Syntax.CompilationUnit.violation?, hnil] at h
  exact absurd h (by simp only [List.isEmpty_nil, if_true, reduceCtorEq, not_false_eq_true])

/-- A tree that keeps the rules and can be laid out has a text. -/
theorem exists_render (unit : Syntax.CompilationUnit) (banner : Banner) (hviolation : unit.violation? = none)
    (hrenderable : unit.isRenderable = true) : ∃ text, render unit banner = .ok text := by
  rw [render, hviolation, Syntax.body_eq_normalize unit hrenderable]
  exact ⟨_, rfl⟩

/-- What a generated text is made of. -/
theorem exists_body_of_render (unit : Syntax.CompilationUnit) (banner : Banner) (text : String)
    (h : render unit banner = .ok text) :
    unit.violation? = none ∧ ∃ body, unit.body = .ok body ∧ text = banner.text ++ "\n" ++ body := by
  rw [render] at h
  cases hviolation : unit.violation? with
  | some violation =>
      rw [hviolation] at h
      exact absurd h (by simp only [reduceCtorEq, not_false_eq_true])
  | none =>
      rw [hviolation] at h
      cases hbody : unit.body with
      | error unsupported =>
          rw [hbody] at h
          exact absurd h (by simp only [reduceCtorEq, not_false_eq_true])
      | ok body =>
          rw [hbody] at h
          exact ⟨rfl, body, rfl, (Except.ok.inj h).symm⟩

/-- The lines of a generated text are those of the banner, a blank one and those of the body, and they are the lines
    of a canonical text. -/
theorem exists_lines_of_render (unit : Syntax.CompilationUnit) (banner : Banner) (text : String)
    (h : render unit banner = .ok text) :
    ∃ ls body, IsCanonicalLines (banner.lines ++ [] :: ls) ∧ unit.body = .ok body ∧ body.toList = terminate ls ∧
      text.toList = terminate (banner.lines ++ [] :: ls) := by
  rcases exists_body_of_render unit banner text h with ⟨hviolation, body, hbody, htext⟩
  have htypes := types_ne_nil_of_violation? unit hviolation
  rcases Syntax.exists_body_lines unit body htypes hbody with ⟨first, rest, hcanonical, hcloses, hlines⟩
  refine ⟨first :: rest, body, ?_, hbody, hlines, ?_⟩
  · -- At the seam stand the rule and the word that the body begins with.
    exact Text.isCanonicalLines_append_blank _ _ _ first banner.isCanonicalLines_lines hcanonical
      banner.getLast?_lines rfl (by decide) hcloses
  · rw [htext, String.toList_append, String.toList_append, banner.toList_text, hlines, Text.terminate_append,
      List.append_assoc]
    rfl

/-- A generated text is canonical: the canonical pass leaves it alone, it is not empty, has line feeds only and ends
    in exactly one. -/
theorem render_canonical (unit : Syntax.CompilationUnit) (banner : Banner) (text : String)
    (h : render unit banner = .ok text) :
    normalize text = text ∧ text ≠ "" ∧ '\r' ∉ text.toList ∧
      ∃ before c, text.toList = before ++ [c, '\n'] ∧ c ≠ '\n' := by
  rcases exists_lines_of_render unit banner text h with ⟨ls, body, hcanonical, _, _, htext⟩
  have hne : banner.lines ++ [] :: ls ≠ [] := List.append_ne_nil_of_right_ne_nil _ (List.cons_ne_nil _ _)
  rcases Text.exists_terminate_end _ hne hcanonical with ⟨before, c, hend, hc⟩
  refine ⟨?_, ?_, ?_, before, c, htext.trans hend, hc⟩
  · exact Text.normalize_of_isCanonical text ((Text.isCanonical_iff text).mpr ⟨_, hcanonical, htext⟩)
  · intro hempty
    rw [hempty, hend] at htext
    exact List.append_ne_nil_of_right_ne_nil _ (List.cons_ne_nil _ _) htext.symm
  · rw [htext]
    exact Text.return_notMem_terminate _ (fun l hl => (hcanonical.line l hl).unbroken.2)

/-- A file whose names try to close its blocks and to end its lines. -/
def smuggledUnit : Syntax.CompilationUnit where
  imports := ["A;\n\n\x7d\r"]
  types := [
    { name := "\x7d\r\n\t\x7b", baseType := "B\n\n\n", members := [
        .field { name := "a\x7b\n\n", typeName := "T", attributes := ["\x7d\r"] },
        .property { name := "P\n", typeName := "\t", getter := .access "\x7d" "\n\n" true }] }]

/-- A tool whose name tries to leave the comment. -/
def smuggledBanner : Banner where
  toolName := "\n\x7d\r\n\n\x7b\u2028*/ class C\u0085"
  version := "\r\r1\n// "
  toolName_visible := by decide +kernel
  version_visible := by decide +kernel

theorem render_canonical_smuggled :
    ∃ text, render smuggledUnit smuggledBanner = .ok text ∧ normalize text = text ∧ text ≠ "" ∧ '\r' ∉ text.toList ∧
      ∃ before c, text.toList = before ++ [c, '\n'] ∧ c ≠ '\n' := by
  rcases exists_render smuggledUnit smuggledBanner (by decide +kernel) (by decide +kernel) with ⟨text, htext⟩
  exact ⟨text, htext, render_canonical smuggledUnit smuggledBanner text htext⟩

/-! ## The banner of a text -/

/-- What ends a line of generated source ends a line for some reader of a banner. -/
theorem endsLine_of_endsSourceLine (c : Char) (h : endsSourceLine c = true) : Text.endsLine c = true := by
  simp only [endsSourceLine, Bool.or_eq_true, beq_iff_eq] at h
  rcases h with (((heq | heq) | heq) | heq) | heq <;> rw [heq] <;> decide

/-- The lines of a banner, as the language of the generated source breaks it, are those it was put together from. -/
theorem sourceLines_text (banner : Banner) : sourceLines banner.text = banner.lines ++ [[]] := by
  rw [sourceLines, banner.toList_text]
  refine Text.splitOnP_terminate endsSourceLine rfl banner.lines (fun l hl c hc => ?_)
  rw [Bool.eq_false_iff]
  intro hends
  exact Banner.notMem_of_isComment l c (endsLine_of_endsSourceLine c hends) (banner.isComment_of_mem_lines l hl) hc

theorem lines_ne_nil (banner : Banner) : banner.lines ≠ [] := by
  intro hnil
  have hlast := banner.getLast?_lines
  rw [hnil] at hlast
  exact absurd hlast.symm (Option.some_ne_none _)

/-- A generated text is cut into its banner and its body. -/
theorem cutAtGap_render (unit : Syntax.CompilationUnit) (banner : Banner) (text : String)
    (h : render unit banner = .ok text) :
    ∃ body, unit.body = .ok body ∧ cutAtGap text.toList = some (joinLines banner.lines, body.toList) := by
  rcases exists_body_of_render unit banner text h with ⟨_, body, hbody, htext⟩
  refine ⟨body, hbody, ?_⟩
  have hlines : ∀ l ∈ banner.lines, l ≠ [] ∧ '\n' ∉ l := by
    intro l hl
    have hcomment := banner.isComment_of_mem_lines l hl
    exact ⟨Banner.ne_nil_of_isComment l hcomment, Banner.notMem_of_isComment l '\n' (by decide) hcomment⟩
  -- The last line end of the banner and the line feed behind it are the first two in a row.
  have hlist : text.toList = joinLines banner.lines ++ '\n' :: '\n' :: body.toList := by
    rw [htext, String.toList_append, String.toList_append, banner.toList_text,
      Text.terminate_eq_joinLines _ (lines_ne_nil banner), List.append_assoc, List.append_assoc]
    rfl
  rw [hlist]
  exact cutAtGap_joinLines banner.lines body.toList (lines_ne_nil banner) hlines

/-- With one banner a tree has a text if it has one with any other. -/
theorem render_of_render (unit : Syntax.CompilationUnit) (banner banner' : Banner) (text : String)
    (h : render unit banner = .ok text) : ∃ text', render unit banner' = .ok text' := by
  rcases exists_body_of_render unit banner text h with ⟨hviolation, body, hbody, _⟩
  rw [render, hviolation, hbody]
  exact ⟨_, rfl⟩

/-- A banner never leaves its comment, and a generated text can be cut into its banner and its body. Rendering the
    template of the banner gives a text, each line of it after the canonical pass is a comment with something to see,
    and the last one is the rule. What stands before the first two line feeds in a row of a generated text is its
    banner, what stands behind them is the body of the tree, whatever the banner. -/
theorem banner_confined (banner : Banner) :
    (∀ files, ∃ draft, Template.renderFile files .included Template.bannerName
        [(.text "tool_name", .text banner.toolName), (.text "version", .text banner.version)] = .ok draft ∧
      banner.text = normalize draft) ∧
    (∃ ls, sourceLines banner.text = ls ++ [[]] ∧ ls.getLast? = some ('/' :: '/' :: List.replicate 78 '-') ∧
      ∀ l ∈ ls, ['/', '/'] <+: l ∧ l.all isBlank = false) ∧
    ∀ unit text, render unit banner = .ok text →
      (∃ head body, banner.text.toList = head ++ ['\n'] ∧ unit.body = .ok body ∧
        cutAtGap text.toList = some (head, body.toList) ∧
        ∀ banner', ∃ head' text', render unit banner' = .ok text' ∧
          cutAtGap text'.toList = some (head', body.toList)) ∧
      ∀ unit' banner', render unit' banner' = .ok text → banner'.text = banner.text ∧ unit'.body = unit.body := by
  -- The template is rendered, the lines are those the banner was put together from, and the cut is at the seam.
  refine ⟨fun files => ⟨banner.draft, Template.renderFile_banner files banner, banner.text_eq_normalize⟩, ?_, ?_⟩
  · refine ⟨banner.lines, sourceLines_text banner, ?_, fun l hl => ?_⟩
    · rw [banner.getLast?_lines, show Banner.rule.toList = '/' :: '/' :: List.replicate 78 '-' by decide]
    · have hcomment := banner.isComment_of_mem_lines l hl
      rcases hcomment.marked with ⟨rest, heq⟩
      exact ⟨⟨rest, heq.symm⟩, Banner.all_isBlank_of_isComment l hcomment⟩
  · intro unit text h
    rcases cutAtGap_render unit banner text h with ⟨body, hbody, hcut⟩
    have hhead (b : Banner) : b.text.toList = joinLines b.lines ++ ['\n'] := by
      rw [b.toList_text, Text.terminate_eq_joinLines _ (lines_ne_nil b)]
    refine ⟨⟨joinLines banner.lines, body, hhead banner, hbody, hcut, fun banner' => ?_⟩, fun unit' banner' h' => ?_⟩
    · rcases render_of_render unit banner banner' text h with ⟨text', h'⟩
      rcases cutAtGap_render unit banner' text' h' with ⟨body', hbody', hcut'⟩
      rw [hbody, Except.ok.injEq] at hbody'
      rw [← hbody'] at hcut'
      exact ⟨_, text', h', hcut'⟩
    · -- The same text is cut at the same place.
      rcases cutAtGap_render unit' banner' text h' with ⟨body', hbody', hcut'⟩
      rw [hcut, Option.some.injEq, Prod.mk.injEq] at hcut'
      refine ⟨String.toList_injective ?_, ?_⟩
      · rw [hhead, hhead, hcut'.1]
      · rw [hbody', hbody, String.toList_injective hcut'.2]

theorem banner_confined_smuggled :
    ∃ text, render smuggledUnit smuggledBanner = .ok text ∧
      ∃ head body, smuggledBanner.text.toList = head ++ ['\n'] ∧ smuggledUnit.body = .ok body ∧
        cutAtGap text.toList = some (head, body.toList) := by
  rcases exists_render smuggledUnit smuggledBanner (by decide +kernel) (by decide +kernel) with ⟨text, htext⟩
  rcases ((banner_confined smuggledBanner).2.2 smuggledUnit text htext).1 with ⟨head, body, hbanner, hbody, hcut, _⟩
  exact ⟨text, htext, head, body, hbanner, hbody, hcut⟩

end CodeBehind
