import CodeBehind.Proofs.Text.Tidy

/-!
# Paragraphs

What the walk over the lines does to a group of them, whatever comes before and after.

`settle` carries two facts along: the last line it kept, and whether it has passed a blank since. A group of
lines therefore acts on it in a simple way when it begins and ends with lines that are not blank. It is kept
from its first line on, with a blank before it if one is due there, and it leaves its last line behind.
`SettlesTo` says just this of a group and of what is kept of it. Such groups can be put in a row and in a
block, which is how the lines of a file are made, so the walk never has to be followed line by line again.

The blank lines a writer leaves at the end of a block disappear here: nothing is due before a line that closes
one. Those between two paragraphs stay, because a paragraph neither begins by closing a block nor ends by
opening one.

## Main definitions

* `blankBefore`: The blank line that is due before a line.
* `SettlesTo`: What is kept of a group of lines, anywhere in a text.
* `paragraphs`: Groups of lines with one empty line between any two.

## Theorems

* `map_paragraphs`: A change of the lines of paragraphs.
* `settlesTo_solid`: A group without blank lines is kept as it is.
* `settlesTo_append`: Two groups with a blank between them keep one.
* `settlesTo_flatMap`: A row of paragraphs, with a blank after each.
* `settlesTo_braced`: A block loses the blanks at its ends.
* `settle_eq_of_settlesTo`: What is kept of a text that is such a group.
-/

namespace CodeBehind

namespace Text

/-- The blank line that is due before a line. -/
def blankBefore (last : Option (List Char)) (gap : Bool) (line : List Char) : List (List Char) :=
  match last with
  | none => []
  | some before => if gap && separable before line then [[]] else []

/-- What is kept of a group of lines, anywhere in a text: its first line gets a blank if one is due, and the
    walk goes on after its last line, with a blank passed since or not. -/
def SettlesTo (group kept : List (List Char)) (gapAfter : Bool) : Prop :=
  ∃ first last, closesBlock first = false ∧ opensBlock last = false ∧
    ∀ before gap rest, settle before gap (group ++ rest) =
      blankBefore before gap first ++ (kept ++ settle (some last) gapAfter rest)

/-- Groups of lines with one empty line between any two. -/
def paragraphs (groups : List (List (List Char))) : List (List Char) :=
  [[]].intercalate groups

theorem paragraphs_cons_cons (group next : List (List Char)) (groups : List (List (List Char))) :
    paragraphs (group :: next :: groups) = group ++ [] :: paragraphs (next :: groups) := by
  rw [paragraphs, List.intercalate_cons_cons, List.append_assoc, List.singleton_append]
  rfl

/-- A change of lines that leaves empty ones empty can be made paragraph by paragraph. -/
theorem map_paragraphs (change : List Char → List Char) (hempty : change [] = [])
    (groups : List (List (List Char))) :
    (paragraphs groups).map change = paragraphs (groups.map (List.map change)) := by
  induction groups with
  | nil => rfl
  | cons group rest ih =>
      cases rest with
      | nil => rw [paragraphs, List.intercalate_singleton, List.map_singleton, paragraphs, List.intercalate_singleton]
      | cons next more =>
          rw [paragraphs_cons_cons, List.map_append, List.map_cons, ih, hempty, List.map_cons, List.map_cons,
            List.map_cons, paragraphs_cons_cons]

theorem settle_blank (last : Option (List Char)) (gap : Bool) (rest : List (List Char)) :
    settle last gap ([] :: rest) = settle last true rest := rfl

theorem settle_line (last : Option (List Char)) (gap : Bool) (line : List Char) (rest : List (List Char))
    (hline : line ≠ []) :
    settle last gap (line :: rest) = blankBefore last gap line ++ line :: settle (some line) false rest := by
  cases line with
  | nil => exact absurd rfl hline
  | cons c cs =>
      cases last with
      | none => rfl
      | some before =>
          rw [settle, blankBefore]
          split <;> rfl

/-- No blank is due after a line without a gap. -/
theorem blankBefore_close (last : Option (List Char)) (line : List Char) : blankBefore last false line = [] := by
  cases last <;> rfl

/-- Lines that are not blank are kept as they are. -/
theorem settle_solid (group rest : List (List Char)) (before last : List Char) (hgroup : ∀ l ∈ group, l ≠ [])
    (hlast : (before :: group).getLast? = some last) :
    settle (some before) false (group ++ rest) = group ++ settle (some last) false rest := by
  -- Along the group the last line that was kept is the one just passed.
  induction group generalizing before with
  | nil =>
      rw [List.getLast?_singleton, Option.some.injEq] at hlast
      rw [List.nil_append, List.nil_append, hlast]
  | cons l more ih =>
      rw [List.getLast?_cons_cons] at hlast
      rw [List.cons_append, settle_line _ _ _ _ (hgroup l (List.mem_cons_self ..)), blankBefore_close,
        ih l (fun x hx => hgroup x (List.mem_cons_of_mem l hx)) hlast]
      rfl

/-- A group without blank lines is kept as it is. -/
theorem settlesTo_solid (group : List (List Char)) (first last : List Char) (hfirst : group.head? = some first)
    (hlast : group.getLast? = some last) (hcloses : closesBlock first = false) (hopens : opensBlock last = false)
    (hgroup : ∀ l ∈ group, l ≠ []) : SettlesTo group group false := by
  cases group with
  | nil => simp only [List.head?_nil, reduceCtorEq] at hfirst
  | cons l more =>
      rw [List.head?_cons, Option.some.injEq] at hfirst
      rw [hfirst] at hlast hgroup ⊢
      refine ⟨first, last, hcloses, hopens, ?_⟩
      intro before gap rest
      rw [List.cons_append, settle_line _ _ _ _ (hgroup first (List.mem_cons_self ..)),
        settle_solid more rest first last (fun x hx => hgroup x (List.mem_cons_of_mem first hx)) hlast]
      rfl

/-- A blank after a group is passed over. -/
theorem settlesTo_blank (group kept : List (List Char)) (gapAfter : Bool) (h : SettlesTo group kept gapAfter) :
    SettlesTo (group ++ [[]]) kept true := by
  rcases h with ⟨first, last, hfirst, hlast, hsettle⟩
  refine ⟨first, last, hfirst, hlast, ?_⟩
  intro before gap rest
  rw [List.append_assoc, hsettle, List.singleton_append, settle_blank]

/-- Two groups with a blank between them keep one. -/
theorem settlesTo_append (group group' kept kept' : List (List Char)) (gapAfter : Bool)
    (h : SettlesTo group kept true) (h' : SettlesTo group' kept' gapAfter) :
    SettlesTo (group ++ group') (kept ++ [] :: kept') gapAfter := by
  rcases h with ⟨first, last, hfirst, hlast, hsettle⟩
  rcases h' with ⟨first', last', hfirst', hlast', hsettle'⟩
  refine ⟨first, last', hfirst, hlast', ?_⟩
  intro before gap rest
  -- The first group opens no block and the second closes none, so the blank between them is due.
  have hdue : blankBefore (some last) true first' = [[]] := by
    rw [blankBefore, separable, hlast, hfirst']
    rfl
  rw [List.append_assoc, hsettle, hsettle', hdue, List.append_assoc, List.singleton_append, List.cons_append]

/-- A row of paragraphs with a blank after each keeps one blank between any two. -/
theorem settlesTo_flatMap {α : Type} (group kept : α → List (List Char)) (x : α) (xs : List α)
    (h : ∀ y ∈ x :: xs, SettlesTo (group y) (kept y) false) :
    SettlesTo ((x :: xs).flatMap (fun y => group y ++ [[]])) (paragraphs ((x :: xs).map kept)) true := by
  induction xs generalizing x with
  | nil =>
      rw [List.flatMap_singleton, List.map_singleton, paragraphs, List.intercalate_singleton]
      exact settlesTo_blank _ _ _ (h x (List.mem_cons_self ..))
  | cons y ys ih =>
      have hx := settlesTo_blank _ _ _ (h x (List.mem_cons_self ..))
      have hrest := ih y (fun z hz => h z (List.mem_cons_of_mem x hz))
      rw [List.flatMap_cons, List.map_cons, List.map_cons, paragraphs_cons_cons, ← List.map_cons]
      exact settlesTo_append _ _ _ _ _ hx hrest

/-- What stands between two braces is a row of paragraphs, or nothing. -/
theorem settle_inside (opening closing : List Char) (inner kept rest : List (List Char)) (gapAfter : Bool)
    (hclosing : closing ≠ []) (hcloses : closesBlock closing = true)
    (h : inner = [] ∧ kept = [] ∨ SettlesTo inner kept gapAfter) :
    settle (some opening) false (inner ++ closing :: rest) =
      kept ++ closing :: settle (some closing) false rest := by
  -- Nothing is due before a closing brace, however many blanks were passed.
  have hnone : ∀ last gap, blankBefore (some last) gap closing = [] := by
    intro last gap
    rw [blankBefore, separable, hcloses, Bool.or_true, Bool.not_true, Bool.and_false]
    rfl
  rcases h with ⟨hinner, hkept⟩ | ⟨first, last, _, _, hsettle⟩
  · rw [hinner, hkept, List.nil_append, settle_line _ _ _ _ hclosing, hnone]
  · rw [hsettle, blankBefore_close, settle_line _ _ _ _ hclosing, hnone]
    rfl

/-- A block loses the blanks at its ends. -/
theorem settlesTo_braced (header opening closing : List Char) (inner kept : List (List Char)) (gapAfter : Bool)
    (hheader : header ≠ []) (hopening : opening ≠ []) (hclosing : closing ≠ [])
    (hstarts : closesBlock header = false) (hcloses : closesBlock closing = true)
    (hends : opensBlock closing = false) (h : inner = [] ∧ kept = [] ∨ SettlesTo inner kept gapAfter) :
    SettlesTo (header :: opening :: (inner ++ [closing])) (header :: opening :: (kept ++ [closing])) false := by
  refine ⟨header, closing, hstarts, hends, ?_⟩
  intro before gap rest
  rw [List.cons_append, List.cons_append, List.append_assoc, List.singleton_append,
    settle_line _ _ _ _ hheader, settle_line _ _ _ _ hopening, blankBefore_close,
    settle_inside opening closing inner kept rest gapAfter hclosing hcloses h]
  simp only [List.nil_append, List.cons_append, List.append_assoc]

/-- A text that is such a group begins and ends without a blank. -/
theorem settle_eq_of_settlesTo (group kept : List (List Char)) (gap gapAfter : Bool)
    (h : SettlesTo group kept gapAfter) : settle none gap group = kept := by
  rcases h with ⟨first, last, _, _, hsettle⟩
  have hall := hsettle none gap []
  rw [List.append_nil] at hall
  rw [hall, settle, List.append_nil]
  rfl

end Text

end CodeBehind
