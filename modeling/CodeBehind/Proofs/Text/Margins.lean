import CodeBehind.Proofs.Text.Canonical
import CodeBehind.Text.Indent

/-!
# Texts behind a margin

That a text may be indented before the canonical pass or after it.

A margin of whole indentation units ends at a tab stop, so the tabs of a line are as wide behind it as they are at the
beginning of a line. That is all the pass knows of columns. For the rest it looks at a line in two ways only: whether
there is something to see in it, and whether its first or last visible character is a brace. A margin changes neither,
and a line that shows nothing gets none. So a line may be moved before it is tidied or after it (`tidyLine_indentLine`),
and the walk over the lines takes the same decisions about moved lines (`settle_map`).

Indenting cuts a text at its line feeds only. A carriage return would end a line for the pass that has no margin of its
own, hence the condition on the text.

## Main definitions

* `margin`: The margin of a depth.

## Main results

* `normalize_indent`: The canonical pass and indenting can change places.

## Theorems

* `repeated_indentUnit`: The repeated unit of indentation is a margin.
* `repeated_add`, `notMem_repeated`: Copies of a unit in a row, and what is in them.
* `tidyLine_margin`, `tidyLine_indentLine`: A line behind a margin.
* `settle_map`: The walk over lines that were changed without changing what it looks at.
* `lines_indent`, `canonicalLines_indent`: The lines of an indented text, and those that are kept.
-/

namespace CodeBehind

namespace Text

/-- The margin of a depth. -/
def margin (depth : Nat) : List Char :=
  List.replicate (4 * depth) ' '

/-- The repeated unit of indentation is a margin. -/
theorem repeated_indentUnit (level : Int) : repeated indentUnit.toList level = margin level.toNat := by
  -- A level below zero has no margin, like level zero.
  have hunit : indentUnit.toList = List.replicate 4 ' ' := by decide
  rw [repeated, margin, hunit, List.flatten_replicate_replicate, Nat.mul_comm]

theorem repeated_add (unit : List Char) (m n : Nat) :
    repeated unit (m + n : Nat) = repeated unit m ++ repeated unit n := by
  simp only [repeated, Int.toNat_natCast, ← List.replicate_append_replicate, List.flatten_append]

theorem notMem_repeated (unit : List Char) (count : Int) (c : Char) (hc : c ∉ unit) : c ∉ repeated unit count := by
  intro hmem
  rcases List.mem_flatten.mp hmem with ⟨copy, hcopy, hmem⟩
  rw [List.eq_of_mem_replicate hcopy] at hmem
  exact hc hmem

/-! ## A line behind a margin -/

theorem isBlank_of_mem_margin (depth : Nat) (c : Char) (hc : c ∈ margin depth) : isBlank c = true := by
  rw [List.eq_of_mem_replicate hc]
  decide

/-- A margin ends at a tab stop. -/
theorem expandTabs_margin (depth : Nat) (line : List Char) :
    expandTabs (margin depth ++ line) = margin depth ++ expandTabs line := by
  -- A margin has no tabs of its own and is as long as some tab stops.
  have htab : '\t' ∉ margin depth := fun hc => absurd (List.eq_of_mem_replicate hc) (by decide)
  have hstop : (0 + (margin depth).length) % tabWidth = 0 % tabWidth := by
    rw [margin, List.length_replicate, Nat.zero_add, tabWidth]
    omega
  rw [expandTabs, expandTabsFrom_append, expandTabsFrom_of_notMem 0 _ htab, expandTabsFrom_congr _ 0 line hstop,
    expandTabs]

/-- A line with something to see is tidied behind a margin as without it. -/
theorem tidyLine_margin (depth : Nat) (line : List Char) (h : ∃ c ∈ line, isBlank c = false) :
    tidyLine (margin depth ++ line) = margin depth ++ tidyLine line := by
  rcases h with ⟨c, hmem, hc⟩
  have hvisible : ∃ d ∈ expandTabs line, isBlank d = false :=
    ⟨c, mem_expandTabsFrom_of_visible 0 line c hmem hc, hc⟩
  rw [tidyLine, expandTabs_margin, trimEnd_append_of_visible _ _ hvisible, tidyLine]

theorem tidyLine_of_blank (line : List Char) (h : ∀ c ∈ line, isBlank c = true) : tidyLine line = [] :=
  trimEnd_append_blanks [] (expandTabs line) (isBlank_of_mem_expandTabsFrom 0 line h)

/-- A line that is not blank has something to see. -/
theorem exists_visible (line : List Char) (h : ¬ line.all isBlank = true) : ∃ c ∈ line, isBlank c = false := by
  rw [List.all_eq_true] at h
  push Not at h
  rcases h with ⟨c, hmem, hc⟩
  exact ⟨c, hmem, Bool.eq_false_iff.mpr hc⟩

theorem indentLine_of_visible (front line : List Char) (h : ∃ c ∈ line, isBlank c = false) :
    indentLine front line = front ++ line := by
  rcases h with ⟨c, hmem, hc⟩
  refine if_neg (fun hall => ?_)
  rw [List.all_eq_true.mp hall c hmem] at hc
  exact Bool.false_ne_true hc.symm

/-- A margin brings nothing but spaces. -/
theorem notMem_indentLine (depth : Nat) (line : List Char) (c : Char) (hspace : c ≠ ' ') (hc : c ∉ line) :
    c ∉ indentLine (margin depth) line := by
  rw [indentLine]
  split
  · exact hc
  · rw [List.mem_append, not_or]
    exact ⟨fun hmem => hspace (List.eq_of_mem_replicate hmem), hc⟩

/-- A line may be indented before it is tidied or after it. -/
theorem tidyLine_indentLine (depth : Nat) (line : List Char) :
    tidyLine (indentLine (margin depth) line) = indentLine (margin depth) (tidyLine line) := by
  by_cases hblank : line.all isBlank = true
  · have htidy := tidyLine_of_blank line (List.all_eq_true.mp hblank)
    rw [indentLine, if_pos hblank, htidy]
    rfl
  · -- What is to be seen in the line is still there when the line is tidy.
    rcases exists_visible line hblank with ⟨c, hmem, hc⟩
    rcases List.append_of_mem hmem with ⟨before, after, hline⟩
    rcases tidyLine_append_visible before after c hc with ⟨kept, hkept⟩
    have hvisible : ∃ d ∈ tidyLine line, isBlank d = false :=
      ⟨c, by rw [hline, hkept]; exact List.mem_append_right _ (List.mem_cons_self ..), hc⟩
    rw [indentLine_of_visible _ _ ⟨c, hmem, hc⟩, indentLine_of_visible _ _ hvisible,
      tidyLine_margin depth line ⟨c, hmem, hc⟩]

theorem indentLine_eq_nil_iff (front line : List Char) : indentLine front line = [] ↔ line = [] := by
  rw [indentLine]
  split
  · exact Iff.rfl
  · next hvisible =>
      -- A line with something to see is not empty.
      have hne : line ≠ [] := by
        intro hnil
        rw [hnil] at hvisible
        exact hvisible rfl
      exact ⟨fun h => absurd (List.append_eq_nil_iff.mp h).2 hne, fun h => absurd h hne⟩

theorem opensBlock_indentLine (front line : List Char) : opensBlock (indentLine front line) = opensBlock line := by
  rw [indentLine]
  split
  · rfl
  · next hvisible =>
      rcases exists_visible line hvisible with ⟨c, hmem, _⟩
      rw [opensBlock, opensBlock, List.getLast?_append, List.getLast?_eq_some_getLast (List.ne_nil_of_mem hmem),
        Option.some_or]

theorem closesBlock_indentLine (depth : Nat) (line : List Char) :
    closesBlock (indentLine (margin depth) line) = closesBlock line := by
  rw [indentLine]
  split
  · rfl
  · -- The search for the first visible character passes over the margin.
    have hskip : (margin depth).dropWhile isBlank = [] :=
      List.dropWhile_eq_nil_iff.mpr (isBlank_of_mem_margin depth)
    rw [closesBlock, closesBlock, trimStart, List.dropWhile_append, hskip, List.isEmpty_nil, if_pos rfl, trimStart]

theorem separable_indentLine (depth : Nat) (before after : List Char) :
    separable (indentLine (margin depth) before) (indentLine (margin depth) after) = separable before after := by
  rw [separable, opensBlock_indentLine, closesBlock_indentLine, separable]

/-! ## The walk over the lines -/

/-- The walk over lines that were changed takes the same decisions, if it sees the same empty lines and braces. -/
theorem settle_map (change : List Char → List Char) (hempty : ∀ l, change l = [] ↔ l = [])
    (hsame : ∀ l l', separable (change l) (change l') = separable l l') (last : Option (List Char)) (gap : Bool)
    (ls : List (List Char)) :
    settle (last.map change) gap (ls.map change) = (settle last gap ls).map change := by
  -- A blank is due before a changed line exactly when it was due before the line.
  have hdue : ∀ last gap line,
      blankBefore (Option.map change last) gap (change line) = (blankBefore last gap line).map change := by
    intro last gap line
    cases last with
    | none => rfl
    | some before =>
        rw [Option.map_some, blankBefore, blankBefore, hsame]
        split
        · rw [List.map_singleton, (hempty []).mpr rfl]
        · rfl
  induction ls generalizing last gap with
  | nil => rfl
  | cons line rest ih =>
      rw [List.map_cons]
      by_cases hline : line = []
      · rw [hline, (hempty []).mpr rfl, settle_blank, settle_blank]
        exact ih last true
      · rw [settle_line _ _ _ _ (fun h => hline ((hempty line).mp h)), settle_line _ _ _ _ hline, hdue,
          List.map_append, List.map_cons, ← ih]
        rfl

/-! ## Texts -/

theorem lines_indent (text : String) (level : Int) :
    lines (indent text level indentUnit).toList = (lines text.toList).map (indentLine (margin level.toNat)) := by
  rw [indent, String.toList_ofList, repeated_indentUnit]
  refine lines_joinLines _ ?_ (fun l hl => ?_)
  · rw [ne_eq, List.map_eq_nil_iff]
    exact List.splitOn_ne_nil '\n' _
  · rcases List.mem_map.mp hl with ⟨line, hline, heq⟩
    rw [← heq]
    exact notMem_indentLine _ line '\n' (by decide) (feed_notMem_of_mem_lines _ line hline)

/-- Indenting brings no carriage return into a text. -/
theorem return_notMem_indent (text : String) (level : Int) (h : '\r' ∉ text.toList) :
    '\r' ∉ (indent text level indentUnit).toList := by
  rw [indent, String.toList_ofList, repeated_indentUnit]
  refine return_notMem_joinLines _ (fun l hl => ?_)
  rcases List.mem_map.mp hl with ⟨line, hline, heq⟩
  rw [← heq]
  exact notMem_indentLine _ line '\r' (by decide) (fun hr => h (mem_of_mem_splitOn '\r' '\n' line _ hline hr))

/-- The kept lines of an indented text are those of the text behind the margin. -/
theorem canonicalLines_indent (text : String) (level : Int) (h : '\r' ∉ text.toList) :
    canonicalLines (indent text level indentUnit).toList =
      (canonicalLines text.toList).map (indentLine (margin level.toNat)) := by
  have htidy : ((lines text.toList).map (indentLine (margin level.toNat))).map tidyLine =
      ((lines text.toList).map tidyLine).map (indentLine (margin level.toNat)) := by
    rw [List.map_map, List.map_map]
    exact List.map_congr_left (fun line _ => tidyLine_indentLine _ line)
  rw [canonicalLines, canonicalLines, unifyLineEndings_of_notMem _ h,
    unifyLineEndings_of_notMem _ (return_notMem_indent text level h), lines_indent, htidy]
  exact settle_map _ (indentLine_eq_nil_iff _) (separable_indentLine _) none false _

/-- The canonical pass and indenting can change places. -/
theorem normalize_indent (text : String) (level : Int) (h : '\r' ∉ text.toList) :
    normalize (indent text level indentUnit) = indent (normalize text) level indentUnit := by
  have hlast : indentLine (margin level.toNat) [] = [] := rfl
  rw [normalize, canonicalLines_indent text level h, indent, lines_normalize, repeated_indentUnit, List.map_append,
    List.map_singleton, hlast, joinLines_append_blank]

theorem normalize_indent_block :
    '\r' ∉ "a\t\x7b\n\u00a0 \n\tb;\n\n \n c\t \n\n\x7d".toList ∧
      normalize (indent "a\t\x7b\n\u00a0 \n\tb;\n\n \n c\t \n\n\x7d" 1 indentUnit) =
        "    a   \x7b\n        b;\n\n     c\n    \x7d\n" := by
  have hreturn : '\r' ∉ "a\t\x7b\n\u00a0 \n\tb;\n\n \n c\t \n\n\x7d".toList := by decide
  have hindent := normalize_indent "a\t\x7b\n\u00a0 \n\tb;\n\n \n c\t \n\n\x7d" 1 hreturn
  have hcanonical : normalize "a\t\x7b\n\u00a0 \n\tb;\n\n \n c\t \n\n\x7d" = "a   \x7b\n    b;\n\n c\n\x7d\n" := by
    decide +kernel
  rw [hcanonical] at hindent
  refine ⟨hreturn, hindent.trans ?_⟩
  decide +kernel

end Text

end CodeBehind
