import CodeBehind.Proofs.Text.LineEndings

/-!
# Texts put together

What the canonical pass makes of two texts with a blank line between them.

It makes of each what it would make of it alone, and only the seam is its own decision: a blank line stands there
unless a text is missing or a brace forbids it. The texts may end and begin in any way. What the walk carries over the
seam is the last line it kept and the fact that it has passed a blank, and neither remembers how the first text ended.
From there it walks the second text as if it began, except that one blank may be due before the first line that it
keeps.

A carriage return at the end of the first text is the one thing that reaches over the seam, as it takes the first line
feed of the blank line along. What it leaves of the blank line is still enough to pass for one: the first text then
ends with a line end of its own (`exists_unifyLineEndings_gap`).

## Main definitions

* `seam`: The blank line that is due where two texts meet.
* `endsOpening`, `beginsClosing`: The texts that take no blank after or before them.

## Main results

* `normalize_paragraphs`: The canonical form of two texts with a blank line between them.

## Theorems

* `settle_append_gap`: The walk over the lines before and after a blank one.
* `settle_true`: What a passed blank does to the walk.
* `exists_unifyLineEndings_gap`: The line ends of two texts with a blank line between them.
* `canonicalLines_gap`: The kept lines of two texts with a blank line between them.
* `normalize_eq_empty_iff`: The texts without content.
-/

namespace CodeBehind

namespace Text

/-- The blank line that is due before some kept lines, if a blank has been passed since `last`. -/
def seam (last : Option (List Char)) : List (List Char) → List (List Char)
  | [] => []
  | first :: _ => blankBefore last true first

/-- Whether the last line of a text, which ends with a line feed, opens a block. -/
def endsOpening (text : String) : Bool :=
  (lines text.toList).dropLast.getLast?.any opensBlock

/-- Whether the first line of a text closes a block. -/
def beginsClosing (text : String) : Bool :=
  (lines text.toList).head?.any closesBlock

/-! ## The walk over a blank line -/

/-- The walk over the lines after a blank one goes on from the last line that was kept before it. -/
theorem settle_append_gap (last : Option (List Char)) (gap : Bool) (ls rest : List (List Char)) :
    settle last gap (ls ++ [] :: rest) =
      settle last gap ls ++ settle ((settle last gap ls).getLast?.or last) true rest := by
  induction ls generalizing last gap with
  | nil => rfl
  | cons line more ih =>
      by_cases hline : line = []
      · rw [hline, List.cons_append, settle_blank, settle_blank]
        exact ih last true
      · -- The line takes the place of `last`, unless a later one is kept.
        have hlast : (blankBefore last gap line ++ line :: settle (some line) false more).getLast?.or last =
            (settle (some line) false more).getLast?.or (some line) := by
          rw [List.getLast?_append_cons, List.getLast?_cons]
          cases (settle (some line) false more).getLast? <;> rfl
        rw [List.cons_append, settle_line _ _ _ _ hline, settle_line _ _ _ _ hline, hlast, ih, List.append_assoc,
          List.cons_append]

/-- A passed blank only matters for the first line that is kept. -/
theorem settle_true (last : Option (List Char)) (gap : Bool) (ls : List (List Char)) :
    settle last true ls = seam last (settle none gap ls) ++ settle none gap ls := by
  induction ls generalizing gap with
  | nil => rfl
  | cons line rest ih =>
      by_cases hline : line = []
      · rw [hline, settle_blank, settle_blank]
        exact ih true
      · rw [settle_line _ _ _ _ hline, settle_line _ _ _ _ hline]
        rfl

/-! ## The seam of two texts -/

/-- Where a blank line stands between two texts two line feeds stand in the unified text. The first of them may have
    been taken by a carriage return, which then has ended the last line of the first text. -/
theorem exists_unifyLineEndings_gap (cs ds : List Char) :
    ∃ front, (unifyLineEndings cs = front ∨ unifyLineEndings cs = front ++ ['\n']) ∧
      unifyLineEndings (cs ++ '\n' :: '\n' :: ds) = front ++ '\n' :: '\n' :: unifyLineEndings ds := by
  by_cases hlast : cs.getLast? = some '\r'
  · -- The carriage return makes a pair with the first line feed, so the texts are cut before it.
    rcases List.getLast?_eq_some_iff.mp hlast with ⟨before, hcs⟩
    refine ⟨unifyLineEndings before, Or.inr ?_, ?_⟩
    · rw [hcs, unifyLineEndings_append before ['\r'] (fun _ => by decide)]
      rfl
    · rw [hcs, List.append_assoc, List.singleton_append, unifyLineEndings_append, unifyLineEndings_pair,
        unifyLineEndings_feed]
      intro _ hhead
      exact absurd (Option.some.inj hhead) (by decide)
  · -- Nothing reaches over the seam.
    refine ⟨unifyLineEndings cs, Or.inl rfl, ?_⟩
    rw [unifyLineEndings_append cs _ (fun h => absurd h hlast), unifyLineEndings_feed, unifyLineEndings_feed]

/-- The kept lines of two texts with a blank line between them are those of both, and a blank if one is due. -/
theorem canonicalLines_gap (cs ds : List Char) :
    canonicalLines (cs ++ '\n' :: '\n' :: ds) =
      canonicalLines cs ++ (seam (canonicalLines cs).getLast? (canonicalLines ds) ++ canonicalLines ds) := by
  rcases exists_unifyLineEndings_gap cs ds with ⟨front, hfront, hwhole⟩
  have hcs : canonicalLines cs = settle none false ((lines front).map tidyLine) := by
    rw [canonicalLines]
    rcases hfront with heq | heq
    · rw [heq]
    · -- A line end at the end of the text leaves an empty piece behind.
      have hlines : lines (front ++ ['\n']) = lines front ++ [[]] := List.splitOn_append_cons_self front []
      rw [heq, hlines, List.map_append]
      exact settle_append_blank none false _
  have hlines : (lines (unifyLineEndings (cs ++ '\n' :: '\n' :: ds))).map tidyLine =
      (lines front).map tidyLine ++ [] :: (lines (unifyLineEndings ds)).map tidyLine := by
    rw [hwhole, lines, List.splitOn_append_cons_self, ← lines, ← lines, lines_cons, if_pos rfl, List.map_append,
      List.map_cons]
    rfl
  rw [canonicalLines, hlines, settle_append_gap, ← hcs, Option.or_none, settle_true _ false, ← canonicalLines]

/-! ## Texts -/

theorem terminate_eq_nil_iff (ls : List (List Char)) : terminate ls = [] ↔ ls = [] := by
  constructor
  · intro h
    cases ls with
    | nil => rfl
    | cons l rest =>
        rw [terminate_cons] at h
        exact absurd h (List.append_ne_nil_of_right_ne_nil _ (List.cons_ne_nil _ _))
  · intro h
    rw [h]
    rfl

/-- The texts without content are those of which no line is kept. -/
theorem normalize_eq_empty_iff (text : String) : normalize text = "" ↔ canonicalLines text.toList = [] := by
  rw [← String.toList_inj, toList_normalize]
  exact terminate_eq_nil_iff _

theorem endsOpening_normalize (text : String) (above : List (List Char)) (last : List Char)
    (h : canonicalLines text.toList = above ++ [last]) : endsOpening (normalize text) = opensBlock last := by
  rw [endsOpening, lines_normalize, List.dropLast_concat, h, List.getLast?_concat, Option.any_some]

theorem beginsClosing_normalize (text : String) (first : List Char) (below : List (List Char))
    (h : canonicalLines text.toList = first :: below) : beginsClosing (normalize text) = closesBlock first := by
  rw [beginsClosing, lines_normalize, h, List.cons_append, List.head?_cons, Option.any_some]

/-- Two texts with a blank line between them keep what they have alone, and the seam is put in between. -/
theorem normalize_gap (a b : String) :
    normalize (a ++ "\n\n" ++ b) =
      normalize a ++ String.ofList (terminate (seam (canonicalLines a.toList).getLast? (canonicalLines b.toList))) ++
        normalize b := by
  have hlist : (a ++ "\n\n" ++ b).toList = a.toList ++ '\n' :: '\n' :: b.toList := by
    rw [String.toList_append, String.toList_append, List.append_assoc]
    rfl
  rw [normalize, hlist, canonicalLines_gap, terminate_append, terminate_append, String.ofList_append,
    String.ofList_append, ← String.append_assoc]
  rfl

/-- The canonical form of two texts with a blank line between them is put together from their canonical forms. A text
    without content leaves nothing. Otherwise the blank line stays, unless the first text ends by opening a block or
    the second begins by closing one. -/
theorem normalize_paragraphs (a b : String) :
    normalize (a ++ "\n\n" ++ b) =
      if normalize a = "" then normalize b
      else if normalize b = "" then normalize a
      else if endsOpening (normalize a) || beginsClosing (normalize b) then normalize a ++ normalize b
      else normalize a ++ "\n" ++ normalize b := by
  rw [normalize_gap]
  rcases List.eq_nil_or_concat (canonicalLines a.toList) with hnil | ⟨above, last, ha⟩
  · -- Nothing is due after nothing.
    have hseam : ∀ ls, seam none ls = [] := by
      intro ls
      cases ls <;> rfl
    have hempty := (normalize_eq_empty_iff a).mpr hnil
    rw [if_pos hempty, hempty, hnil, List.getLast?_nil, hseam]
    exact String.empty_append
  · rw [List.concat_eq_append] at ha
    have hne : canonicalLines a.toList ≠ [] := ha ▸ List.append_ne_nil_of_right_ne_nil _ (List.cons_ne_nil _ _)
    rw [if_neg (fun hempty => hne ((normalize_eq_empty_iff a).mp hempty))]
    cases hb : canonicalLines b.toList with
    | nil =>
        -- Nothing is due before nothing.
        have hempty := (normalize_eq_empty_iff b).mpr hb
        rw [if_pos hempty, hempty, String.append_empty]
        exact String.append_empty
    | cons first below =>
        have hnotEmpty : normalize b ≠ "" := by
          intro hempty
          rw [(normalize_eq_empty_iff b).mp hempty] at hb
          exact absurd hb (List.cons_ne_nil first below).symm
        rw [if_neg hnotEmpty, endsOpening_normalize a above last ha, beginsClosing_normalize b first below hb, ha,
          List.getLast?_concat, seam, blankBefore, Bool.true_and, separable]
        by_cases hbrace : (opensBlock last || closesBlock first) = true
        · -- A brace takes the blank line away.
          rw [if_pos hbrace, hbrace]
          exact congrArg (· ++ normalize b) String.append_empty
        · rw [if_neg hbrace, Bool.eq_false_iff.mpr hbrace]
          rfl

/-- A carriage return at the end of the first text makes a pair with the first line feed behind it. -/
example : normalize ("a;\r" ++ "\n\n" ++ "\n \tb;\n") = "a;\n\n    b;\n" := by decide +kernel

end Text

end CodeBehind
