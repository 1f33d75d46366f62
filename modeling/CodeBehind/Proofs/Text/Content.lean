import CodeBehind.Proofs.Text.Canonical

/-!
# The content of a text under the canonical pass

What the canonical pass changes about a text, and what it leaves.

Only the number of blank lines changes. The lines that show something are the tidy lines of the given text, in
the same order and each as often. Between two of them one blank line is left where there was at least one, unless
the upper one opens a block or the lower one closes one; then none is left.

The walk over the lines carries a last line and a flag along, and a flag that is not taken back in time would put
a blank where it does not belong. So the law is about any place of a text: a line, a row of blanks, a line. What
stands before that place brings the walk to the first line with the flag down (`exists_settle_append`), and after
the second line the walk goes on in the same state as if it had just begun there. The blanks in between only set
the flag.

## Main definitions

* `solid`: The lines that show something.
* `tidyLines`: The lines of a text as the pass sees them.

## Main results

* `normalize_content`: The lines that show something, and the blanks between any two of them.

## Theorems

* `solid_settle`: The walk keeps the lines that show something.
* `exists_settle_append`: What the walk has kept when it comes to a line.
* `settle_gap`: What it does with a row of blanks.
-/

namespace CodeBehind

namespace Text

/-- The lines that show something, in order. -/
def solid (ls : List (List Char)) : List (List Char) :=
  ls.filter fun l => !l.isEmpty

/-- The lines of a text with their tabs expanded and the blanks at their ends dropped. -/
def tidyLines (text : String) : List (List Char) :=
  (breakLines text.toList).map tidyLine

theorem solid_blank (ls : List (List Char)) : solid ([] :: ls) = solid ls := rfl

theorem solid_cons (l : List Char) (ls : List (List Char)) (hl : l ≠ []) : solid (l :: ls) = l :: solid ls := by
  rw [solid, List.filter_cons_of_pos]
  · rfl
  · rw [List.isEmpty_eq_false_iff.mpr hl]
    rfl

theorem solid_append (ls ls' : List (List Char)) : solid (ls ++ ls') = solid ls ++ solid ls' :=
  List.filter_append ..

theorem solid_blankBefore (last : Option (List Char)) (gap : Bool) (line : List Char) :
    solid (blankBefore last gap line) = [] := by
  cases last with
  | none => rfl
  | some before =>
      rcases blankBefore_some before gap line with hnone | ⟨hdue, _⟩
      · rw [hnone]
        rfl
      · rw [hdue]
        rfl

/-- The walk keeps the lines that show something. -/
theorem solid_settle (last : Option (List Char)) (gap : Bool) (ls : List (List Char)) :
    solid (settle last gap ls) = solid ls := by
  induction ls generalizing last gap with
  | nil => rfl
  | cons line rest ih =>
      by_cases hline : line = []
      · rw [hline, settle_blank, solid_blank]
        exact ih last true
      · rw [settle_line _ _ _ _ hline, solid_append, solid_blankBefore, solid_cons line _ hline,
          solid_cons line _ hline, ih]
        rfl

/-- When the walk comes to a line that shows something, what it has kept before shows what came before, and it goes
    on with that line behind it and no blank passed. -/
theorem exists_settle_append (last : Option (List Char)) (gap : Bool) (before : List (List Char)) (x : List Char)
    (hx : x ≠ []) :
    ∃ kept, solid kept = solid before ∧
      ∀ rest, settle last gap (before ++ x :: rest) = kept ++ x :: settle (some x) false rest := by
  induction before generalizing last gap with
  | nil =>
      refine ⟨blankBefore last gap x, solid_blankBefore last gap x, fun rest => ?_⟩
      rw [List.nil_append, settle_line _ _ _ _ hx]
  | cons line more ih =>
      by_cases hline : line = []
      · rcases ih last true with ⟨kept, hkept, hwalk⟩
        refine ⟨kept, ?_, fun rest => ?_⟩
        · rw [hline, solid_blank, hkept]
        · rw [hline, List.cons_append, settle_blank, hwalk]
      · rcases ih (some line) false with ⟨kept, hkept, hwalk⟩
        refine ⟨blankBefore last gap line ++ line :: kept, ?_, fun rest => ?_⟩
        · rw [solid_append, solid_blankBefore, solid_cons line _ hline, solid_cons line _ hline, hkept]
          rfl
        · rw [List.cons_append, settle_line _ _ _ _ hline, hwalk, List.append_assoc, List.cons_append]

/-- A row of blanks only says that there was one. -/
theorem settle_replicate (last : Option (List Char)) (gap : Bool) (n : Nat) (rest : List (List Char)) :
    settle last gap (List.replicate n [] ++ rest) = settle last (gap || decide (0 < n)) rest := by
  induction n generalizing gap with
  | zero =>
      rw [List.replicate_zero, List.nil_append, decide_eq_false (Nat.lt_irrefl 0), Bool.or_false]
  | succ n ih =>
      rw [List.replicate_succ, List.cons_append, settle_blank, ih, Bool.true_or, decide_eq_true (Nat.succ_pos n),
        Bool.or_true]

/-- Between two lines that show something one blank is kept of a row of them, if the two may be separated. -/
theorem settle_gap (x y : List Char) (n : Nat) (after : List (List Char)) (hy : y ≠ []) :
    settle (some x) false (List.replicate n [] ++ y :: after) =
      List.replicate (if 0 < n ∧ opensBlock x = false ∧ closesBlock y = false then 1 else 0) [] ++
        y :: settle (some y) false after := by
  rw [settle_replicate, Bool.false_or, settle_line _ _ _ _ hy]
  congr 1
  by_cases hn : 0 < n
  · -- A blank is due; it is written unless a brace forbids it.
    by_cases hsep : separable x y = true
    · rw [if_pos ⟨hn, (separable_iff x y).mp hsep⟩, blankBefore, hsep, decide_eq_true hn]
      rfl
    · rw [if_neg (fun h => hsep ((separable_iff x y).mpr h.2)), blankBefore, Bool.eq_false_iff.mpr hsep, Bool.and_false]
      rfl
  · rw [decide_eq_false hn, blankBefore_close, if_neg (fun h => hn h.1)]
    rfl

/-- The lines of a text after the pass: those that are kept, and the empty piece after the last line end. -/
theorem breakLines_normalize (text : String) :
    breakLines (normalize text).toList = canonicalLines text.toList ++ [[]] := by
  have hcanonical := isCanonicalLines_canonicalLines text.toList
  have hreturn : '\r' ∉ (normalize text).toList := by
    rw [toList_normalize]
    exact return_notMem_terminate _ (fun l hl => (hcanonical.line l hl).unbroken.2)
  rw [← lines_unifyLineEndings, unifyLineEndings_of_notMem _ hreturn, lines_normalize]

theorem canonicalLines_eq_settle (text : String) :
    canonicalLines text.toList = settle none false (tidyLines text) := by
  rw [canonicalLines, lines_unifyLineEndings, tidyLines]

/-- The pass keeps the lines that show something, in order, and of the blanks between two of them one, if there was
    one and the upper line does not open a block nor the lower one close one. -/
theorem normalize_content (text : String) :
    solid (breakLines (normalize text).toList) = solid (tidyLines text) ∧
      ∀ before x n y after, x ≠ [] → y ≠ [] →
        tidyLines text = before ++ x :: (List.replicate n [] ++ y :: after) →
        ∃ before' after', solid before' = solid before ∧ solid after' = solid after ∧
          breakLines (normalize text).toList =
            before' ++ x :: (List.replicate (if 0 < n ∧ opensBlock x = false ∧ closesBlock y = false then 1 else 0) [] ++
              y :: after') := by
  have hkept := canonicalLines_eq_settle text
  rw [breakLines_normalize, hkept]
  refine ⟨?_, fun before x n y after hx hy htext => ?_⟩
  · rw [solid_append, solid_settle, solid_blank]
    exact List.append_nil _
  · -- The walk comes to the upper line, passes the blanks, and goes on from the lower one.
    rcases exists_settle_append none false before x hx with ⟨before', hbefore, hwalk⟩
    refine ⟨before', settle (some y) false after ++ [[]], hbefore, ?_, ?_⟩
    · rw [solid_append, solid_settle, solid_blank]
      exact List.append_nil _
    · rw [htext, hwalk, settle_gap x y n after hy]
      simp only [List.append_assoc, List.cons_append]

theorem normalize_content_gap :
    tidyLines "\tx;\r\n \r\r\n\ty \n\x7d" =
        [] ++ "    x;".toList :: (List.replicate 2 [] ++ "    y".toList :: ["\x7d".toList]) ∧
      ∃ before' after', solid before' = solid [] ∧ solid after' = solid ["\x7d".toList] ∧
        breakLines (normalize "\tx;\r\n \r\r\n\ty \n\x7d").toList =
          before' ++ "    x;".toList :: (List.replicate 1 [] ++ "    y".toList :: after') := by
  have htext : tidyLines "\tx;\r\n \r\r\n\ty \n\x7d" =
      [] ++ "    x;".toList :: (List.replicate 2 [] ++ "    y".toList :: ["\x7d".toList]) := by decide +kernel
  have hgap := (normalize_content "\tx;\r\n \r\r\n\ty \n\x7d").2 [] "    x;".toList 2 "    y".toList ["\x7d".toList]
    (by decide) (by decide) htext
  rw [if_pos (by decide)] at hgap
  exact ⟨htext, hgap⟩

end Text

end CodeBehind
