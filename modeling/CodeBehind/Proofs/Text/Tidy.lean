import CodeBehind.Proofs.Text.Lines
import Mathlib.Data.List.TakeWhile

/-!
# Tidy lines

What expanding the tabs of a line and dropping the blanks at its end leaves of it.

Both operations touch blanks only. A character that can be seen stays where it stands in the row of visible
characters, so a line shows its first visible character first and its last one last, before and after. That is
all the pass over the lines wants to know of them: whether a line is empty, whether it begins with a closing
brace and whether it ends with an opening one. The lemmas here answer these questions for a line given as its
visible ends and anything between.

Nothing else gets in: a tidy line has the characters of the line and spaces, and no tabs.

A text is also taken apart into lines and put together again, and the two undo each other as long as the lines
have no line ends in them.

## Theorems

* `lines_joinLines`: Lines that were put together are found again.
* `tidyLine_append_visible`: A visible character and what stands before it are kept.
* `mem_of_mem_tidyLine`, `visible_of_getLast?_trimEnd`: What is in a tidy line, and what is at its end.
* `tidyLine_trimEnd`: A line may be trimmed before it is tidied.
* `tidyLine_ne_nil`: A line with something to see is not empty.
* `closesBlock_tidyLine`, `opensBlock_tidyLine`: The first and the last visible character.
* `tidyLine_eq_expandTabs`: A line that ends with something to see only has its tabs expanded.
* `tidyLine_eq_self`: A line without tabs and without blanks at its end is tidy.
-/

namespace CodeBehind

namespace Text

theorem mergeReturns_of_notMem (cs : List Char) (h : '\r' ∉ cs) : mergeReturns cs = cs := by
  induction cs with
  | nil => rfl
  | cons c rest ih =>
      rw [List.mem_cons, not_or] at h
      rw [mergeReturns, ih h.2]
      intro tail heq _
      exact absurd heq.symm h.1

/-- A text without carriage returns has its line ends unified. -/
theorem unifyLineEndings_of_notMem (cs : List Char) (h : '\r' ∉ cs) : unifyLineEndings cs = cs := by
  rw [unifyLineEndings, mergeReturns_of_notMem cs h]
  have hkeep : ∀ c ∈ cs, (if c = '\r' then '\n' else c) = c := by
    intro c hc
    refine if_neg (fun heq => ?_)
    rw [heq] at hc
    exact h hc
  rw [List.map_congr_left hkeep, List.map_id']

/-- Lines that were put together are found again. -/
theorem lines_joinLines (ls : List (List Char)) (hne : ls ≠ []) (h : ∀ l ∈ ls, '\n' ∉ l) :
    lines (joinLines ls) = ls :=
  List.splitOn_intercalate '\n' h hne

/-- Tabs are expanded from left to right. -/
theorem expandTabsFrom_append (column : Nat) (before after : List Char) :
    expandTabsFrom column (before ++ after) =
      expandTabsFrom column before ++ expandTabsFrom (column + (expandTabsFrom column before).length) after := by
  induction before generalizing column with
  | nil => rfl
  | cons c rest ih =>
      by_cases hc : c = '\t'
      · simp only [List.cons_append, expandTabsFrom, if_pos hc, ih, List.append_assoc, List.length_append,
          List.length_replicate, Nat.add_assoc]
      · have hcolumn : ∀ n, column + 1 + n = column + (n + 1) := fun n => by omega
        simp only [List.cons_append, expandTabsFrom, if_neg hc, ih, List.length_cons, hcolumn]

theorem expandTabsFrom_of_notMem (column : Nat) (line : List Char) (h : '\t' ∉ line) :
    expandTabsFrom column line = line := by
  induction line generalizing column with
  | nil => rfl
  | cons c rest ih =>
      rw [List.mem_cons, not_or] at h
      rw [expandTabsFrom, if_neg (Ne.symm h.1), ih (column + 1) h.2]

/-- Only the distance to the next tab stop matters. -/
theorem expandTabsFrom_congr (column column' : Nat) (line : List Char)
    (h : column % tabWidth = column' % tabWidth) : expandTabsFrom column line = expandTabsFrom column' line := by
  induction line generalizing column column' with
  | nil => rfl
  | cons c rest ih =>
      have hnext : ∀ n, (column + n) % tabWidth = (column' + n) % tabWidth := fun n => by
        rw [Nat.add_mod, h, ← Nat.add_mod]
      rw [expandTabsFrom, expandTabsFrom, h]
      simp only [ih _ _ (hnext _)]

/-- What is in a line after its tabs are expanded was there before, or is a space; tabs are gone. -/
theorem mem_of_mem_expandTabsFrom (column : Nat) (line : List Char) (c : Char)
    (hc : c ∈ expandTabsFrom column line) : c = ' ' ∨ (c ∈ line ∧ c ≠ '\t') := by
  induction line generalizing column with
  | nil => exact absurd hc List.not_mem_nil
  | cons d rest ih =>
      have hlater : ∀ n, c ∈ expandTabsFrom n rest → c = ' ' ∨ (c ∈ d :: rest ∧ c ≠ '\t') := by
        intro n hn
        rcases ih n hn with hspace | ⟨hmem, htab⟩
        · exact Or.inl hspace
        · exact Or.inr ⟨List.mem_cons_of_mem d hmem, htab⟩
      rw [expandTabsFrom] at hc
      split at hc
      · rcases List.mem_append.mp hc with hspace | hrest
        · exact Or.inl (List.eq_of_mem_replicate hspace)
        · exact hlater _ hrest
      · next hd =>
          rcases List.mem_cons.mp hc with heq | hrest
          · rw [heq]
            exact Or.inr ⟨List.mem_cons_self .., hd⟩
          · exact hlater _ hrest

/-- Expanding tabs makes blanks of blanks. -/
theorem isBlank_of_mem_expandTabsFrom (column : Nat) (line : List Char) (h : ∀ c ∈ line, isBlank c = true)
    (c : Char) (hc : c ∈ expandTabsFrom column line) : isBlank c = true := by
  rcases mem_of_mem_expandTabsFrom column line c hc with hspace | ⟨hmem, _⟩
  · rw [hspace]
    decide
  · exact h c hmem

/-- A visible character and what stands before it are out of reach of trimming. -/
theorem trimEnd_append_visible (before after : List Char) (c : Char) (hc : isBlank c = false) :
    trimEnd (before ++ c :: after) = before ++ c :: trimEnd after := by
  have hreverse : (before ++ c :: after).reverse = after.reverse ++ c :: before.reverse := by
    rw [List.reverse_append, List.reverse_cons, List.append_assoc, List.singleton_append]
  -- Trimming works from the end and stops at the visible character.
  have hstop : (c :: before.reverse).dropWhile isBlank = c :: before.reverse :=
    List.dropWhile_cons_of_neg (by rw [hc]; exact Bool.false_ne_true)
  rw [trimEnd, hreverse, List.dropWhile_append, hstop, trimEnd]
  split
  · next hempty =>
      rw [List.isEmpty_iff.mp hempty, List.reverse_cons, List.reverse_reverse, List.reverse_nil]
  · rw [List.reverse_append, List.reverse_cons, List.reverse_reverse, List.append_assoc, List.singleton_append]

/-- What stands before a text with something to see is out of reach of trimming. -/
theorem trimEnd_append_of_visible (before cs : List Char) (h : ∃ c ∈ cs, isBlank c = false) :
    trimEnd (before ++ cs) = before ++ trimEnd cs := by
  rcases h with ⟨c, hmem, hc⟩
  rcases List.append_of_mem hmem with ⟨front, after, heq⟩
  rw [heq, trimEnd_append_visible front after c hc, ← List.append_assoc, ← List.append_assoc,
    trimEnd_append_visible _ after c hc]

theorem ne_tab_of_visible (c : Char) (hc : isBlank c = false) : c ≠ '\t' := by
  intro heq
  rw [heq] at hc
  exact absurd hc (by decide)

/-- Expanding tabs keeps what can be seen. -/
theorem mem_expandTabsFrom_of_visible (column : Nat) (line : List Char) (c : Char) (hmem : c ∈ line)
    (hc : isBlank c = false) : c ∈ expandTabsFrom column line := by
  rcases List.append_of_mem hmem with ⟨before, after, heq⟩
  rw [heq, expandTabsFrom_append, expandTabsFrom, if_neg (ne_tab_of_visible c hc)]
  exact List.mem_append_right _ (List.mem_cons_self ..)

/-- A visible character and what stands before it are kept, with the tabs before it expanded. -/
theorem tidyLine_append_visible (before after : List Char) (c : Char) (hc : isBlank c = false) :
    ∃ kept, tidyLine (before ++ c :: after) = expandTabs before ++ c :: kept := by
  refine ⟨trimEnd (expandTabsFrom (0 + (expandTabsFrom 0 before).length + 1) after), ?_⟩
  rw [tidyLine, expandTabs, expandTabsFrom_append, expandTabsFrom, if_neg (ne_tab_of_visible c hc),
    trimEnd_append_visible _ _ c hc]
  rfl

/-- What is left of a line after trimming is its beginning. -/
theorem trimEnd_isPrefix (cs : List Char) : trimEnd cs <+: cs := by
  have hsuffix := List.dropWhile_suffix isBlank (l := cs.reverse)
  rwa [← List.reverse_prefix, List.reverse_reverse] at hsuffix

/-- What trimming takes away is blank. -/
theorem exists_trimEnd_append (cs : List Char) :
    ∃ blanks, cs = trimEnd cs ++ blanks ∧ ∀ c ∈ blanks, isBlank c = true := by
  refine ⟨(cs.reverse.takeWhile isBlank).reverse, ?_, fun c hc => ?_⟩
  · rw [trimEnd, ← List.reverse_append, List.takeWhile_append_dropWhile, List.reverse_reverse]
  · exact List.mem_takeWhile_imp (List.mem_reverse.mp hc)

/-- Blanks at the end make no difference to what trimming leaves. -/
theorem trimEnd_append_blanks (cs blanks : List Char) (h : ∀ c ∈ blanks, isBlank c = true) :
    trimEnd (cs ++ blanks) = trimEnd cs := by
  have hskip : blanks.reverse.dropWhile isBlank = [] :=
    List.dropWhile_eq_nil_iff.mpr (fun c hc => h c (List.mem_reverse.mp hc))
  rw [trimEnd, List.reverse_append, List.dropWhile_append, hskip, List.isEmpty_nil, if_pos rfl, trimEnd]

/-- A line may be trimmed before it is tidied: the tabs of blanks become blanks. -/
theorem tidyLine_trimEnd (line : List Char) : tidyLine (trimEnd line) = tidyLine line := by
  rcases exists_trimEnd_append line with ⟨blanks, hline, hblanks⟩
  have hexpanded : expandTabs line = expandTabs (trimEnd line) ++
      expandTabsFrom (0 + (expandTabs (trimEnd line)).length) blanks := by
    rw [expandTabs, expandTabs, ← expandTabsFrom_append, ← hline]
  rw [tidyLine, tidyLine, hexpanded,
    trimEnd_append_blanks _ _ (fun c hc => isBlank_of_mem_expandTabsFrom _ blanks hblanks c hc)]

theorem visible_of_getLast?_trimEnd (cs : List Char) (c : Char) (h : (trimEnd cs).getLast? = some c) :
    isBlank c = false := by
  rw [trimEnd, List.getLast?_reverse] at h
  have hhead := List.head?_dropWhile_not isBlank cs.reverse
  rw [h] at hhead
  exact hhead

/-- Tidying a line adds nothing but spaces and takes the tabs away. -/
theorem mem_of_mem_tidyLine (line : List Char) (c : Char) (hc : c ∈ tidyLine line) :
    c = ' ' ∨ (c ∈ line ∧ c ≠ '\t') :=
  mem_of_mem_expandTabsFrom 0 line c ((trimEnd_isPrefix _).subset hc)

theorem notMem_tidyLine (line : List Char) (c : Char) (hspace : c ≠ ' ') (hc : c ∉ line) : c ∉ tidyLine line := by
  intro hmem
  rcases mem_of_mem_tidyLine line c hmem with heq | ⟨hline, _⟩
  · exact hspace heq
  · exact hc hline

/-- A line with something to see is not empty. -/
theorem tidyLine_ne_nil (line : List Char) (c : Char) (hmem : c ∈ line) (hc : isBlank c = false) :
    tidyLine line ≠ [] := by
  rcases List.append_of_mem hmem with ⟨before, after, hline⟩
  rcases tidyLine_append_visible before after c hc with ⟨kept, hkept⟩
  rw [hline, hkept]
  exact List.append_ne_nil_of_right_ne_nil _ (List.cons_ne_nil c kept)

/-- Whether a line closes a block is seen at its first visible character. -/
theorem closesBlock_tidyLine (before after : List Char) (c : Char) (hbefore : ∀ x ∈ before, isBlank x = true)
    (hc : isBlank c = false) : closesBlock (tidyLine (before ++ c :: after)) = (c == '}') := by
  rcases tidyLine_append_visible before after c hc with ⟨kept, hkept⟩
  have hskip : (expandTabs before).dropWhile isBlank = [] :=
    List.dropWhile_eq_nil_iff.mpr (isBlank_of_mem_expandTabsFrom 0 before hbefore)
  rw [closesBlock, hkept, trimStart, List.dropWhile_append, hskip, List.isEmpty_nil, if_pos rfl,
    List.dropWhile_cons_of_neg (by rw [hc]; exact Bool.false_ne_true), List.head?_cons]
  rfl

theorem expandTabs_concat_visible (before : List Char) (c : Char) (hc : isBlank c = false) :
    expandTabs (before ++ [c]) = expandTabs before ++ [c] := by
  rw [expandTabs, expandTabs, expandTabsFrom_append, expandTabsFrom, if_neg (ne_tab_of_visible c hc), expandTabsFrom]

/-- A line that ends with something to see only has its tabs expanded. -/
theorem tidyLine_eq_expandTabs (line : List Char) (c : Char) (hlast : line.getLast? = some c)
    (hc : isBlank c = false) : tidyLine line = expandTabs line := by
  rcases List.getLast?_eq_some_iff.mp hlast with ⟨before, hline⟩
  rw [tidyLine, hline, expandTabs_concat_visible before c hc, trimEnd_append_visible _ [] c hc]
  rfl

/-- Whether a line opens a block is seen at its last visible character. -/
theorem opensBlock_tidyLine (before : List Char) (c : Char) (hc : isBlank c = false) :
    opensBlock (tidyLine (before ++ [c])) = (c == '{') := by
  rw [opensBlock, tidyLine_eq_expandTabs _ c List.getLast?_concat hc, expandTabs_concat_visible before c hc,
    List.getLast?_concat]
  rfl

/-- A line without tabs and without blanks at its end is tidy. -/
theorem tidyLine_eq_self (line : List Char) (htab : '\t' ∉ line) (c : Char) (hlast : line.getLast? = some c)
    (hc : isBlank c = false) : tidyLine line = line := by
  rw [tidyLine_eq_expandTabs line c hlast hc, expandTabs, expandTabsFrom_of_notMem 0 line htab]

/-- Ending every line with a line feed is undone by taking the text apart. -/
theorem terminate_injective (ls ls' : List (List Char)) (h : ∀ l ∈ ls, '\n' ∉ l) (h' : ∀ l ∈ ls', '\n' ∉ l)
    (heq : terminate ls = terminate ls') : ls = ls' := by
  have hsame := congrArg lines heq
  rw [lines_terminate ls h, lines_terminate ls' h'] at hsame
  exact List.append_cancel_right hsame

end Text

end CodeBehind
