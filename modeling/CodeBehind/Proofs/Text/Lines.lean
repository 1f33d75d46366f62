import CodeBehind.Proofs.Text.Pieces
import CodeBehind.Text.Canonical

/-!
# Breaking a text into lines

What the lines of a text are, said without the two steps that find them.

The library turns every line ending into a line feed first and cuts at the line feeds then. `breakLines` cuts in
one walk, at each of the three endings, and takes a carriage return and the line feed behind it together. The two
agree on every text, so whatever is said about the canonical pass can be said in terms of the lines of the text
that was given.

The way back is simpler: a text in which every line is ended has its lines and an empty piece after the last end.
This holds for every notion of a line end that counts the line feed, as long as the lines hold none of the ends.

## Main definitions

* `breakLines`: The lines of a text that ends them with line feeds, carriage returns or both.

## Theorems

* `lines_unifyLineEndings`: The lines that are found are those of the text that was given.
* `notMem_of_mem_lines`: No line end is left in a line.
* `splitOnP_terminate`, `lines_terminate`: The lines of a text in which every line is ended.
* `terminate_eq_joinLines`: Ending every line is putting the lines together and ending the last.
* `joinLines_cons`, `exists_joinLines_cons`: The beginning of lines that are put together.
* `joinLines_append`, `joinLines_append_below`: Lines that are put together with others above them or below.
* `return_notMem_joinLines`, `return_notMem_terminate`: The texts that lines are put together to.
-/

namespace CodeBehind

namespace Text

/-- The lines of a text that ends them with line feeds, carriage returns or both together. -/
def breakLines : List Char → List (List Char)
  | [] => [[]]
  | '\r' :: '\n' :: cs => [] :: breakLines cs
  | c :: cs => if c = '\n' ∨ c = '\r' then [] :: breakLines cs else (breakLines cs).modifyHead (c :: ·)

theorem lines_cons (c : Char) (cs : List Char) :
    lines (c :: cs) = if c = '\n' then [] :: lines cs else (lines cs).modifyHead (c :: ·) := by
  rw [lines, List.splitOn, List.splitOnP_cons_eq_if_modifyHead]
  simp only [beq_iff_eq]
  rfl

theorem unifyLineEndings_cons (c : Char) (cs : List Char) (h : ∀ rest, c = '\r' → cs = '\n' :: rest → False) :
    unifyLineEndings (c :: cs) = (if c = '\r' then '\n' else c) :: unifyLineEndings cs := by
  rw [unifyLineEndings, mergeReturns, List.map_cons]
  · rfl
  · exact h

/-- The lines that are found are those of the text that was given. -/
theorem lines_unifyLineEndings (cs : List Char) : lines (unifyLineEndings cs) = breakLines cs := by
  fun_induction breakLines cs with
  | case1 => rfl
  | case2 cs ih =>
      have hpair : unifyLineEndings ('\r' :: '\n' :: cs) = '\n' :: unifyLineEndings cs := rfl
      -- The pair has become one line feed.
      rw [hpair, lines_cons, if_pos rfl, ih]
  | case3 c cs hpair hends ih =>
      -- A carriage return on its own has become a line feed.
      have hfeed : (if c = '\r' then '\n' else c) = '\n' := by
        rcases hends with heq | heq
        · rw [heq]
          rfl
        · rw [if_pos heq]
      rw [unifyLineEndings_cons c cs hpair, hfeed, lines_cons, if_pos rfl, ih]
  | case4 c cs hpair hends ih =>
      rw [not_or] at hends
      rw [unifyLineEndings_cons c cs hpair, if_neg hends.2, lines_cons, if_neg hends.1, ih]

theorem return_notMem_unifyLineEndings (cs : List Char) : '\r' ∉ unifyLineEndings cs := by
  intro hmem
  rcases List.mem_map.mp hmem with ⟨c, _, heq⟩
  split at heq
  · exact absurd heq (by decide)
  · next hc => exact hc heq

theorem feed_notMem_of_mem_lines (cs : List Char) : ∀ l ∈ lines cs, '\n' ∉ l :=
  notMem_of_mem_splitOn '\n' cs

/-- No line end is left in a line. -/
theorem notMem_of_mem_lines (cs : List Char) :
    ∀ l ∈ lines (unifyLineEndings cs), '\n' ∉ l ∧ '\r' ∉ l := by
  intro l hl
  refine ⟨feed_notMem_of_mem_lines _ l hl, fun hc => ?_⟩
  exact return_notMem_unifyLineEndings cs (mem_of_mem_splitOn '\r' '\n' l _ hl hc)

theorem terminate_cons (l : List Char) (rest : List (List Char)) :
    terminate (l :: rest) = l ++ '\n' :: terminate rest := by
  rw [terminate, List.flatMap_cons, List.append_assoc, lineEnd, List.singleton_append]
  rfl

theorem terminate_append (ls ls' : List (List Char)) : terminate (ls ++ ls') = terminate ls ++ terminate ls' :=
  List.flatMap_append

theorem joinLines_singleton (l : List Char) : joinLines [l] = l := by
  rw [joinLines, List.intercalate_singleton]

theorem joinLines_cons_cons (l next : List Char) (more : List (List Char)) :
    joinLines (l :: next :: more) = l ++ '\n' :: joinLines (next :: more) := by
  rw [joinLines, List.intercalate_cons_cons, List.append_assoc]
  rfl

/-- Lines that are put together begin with the first, and the others stand behind a line feed each. -/
theorem joinLines_cons (l : List Char) (rest : List (List Char)) :
    joinLines (l :: rest) = l ++ rest.flatMap ('\n' :: ·) := by
  induction rest generalizing l with
  | nil => rw [joinLines_singleton, List.flatMap_nil, List.append_nil]
  | cons next more ih => rw [joinLines_cons_cons, ih, List.flatMap_cons, List.cons_append]

theorem exists_joinLines_cons (c : Char) (l : List Char) (ls : List (List Char)) :
    ∃ rest, joinLines ((c :: l) :: ls) = c :: rest :=
  ⟨_, joinLines_cons (c :: l) ls⟩

/-- Lines above others are ended, each of them. -/
theorem joinLines_append (above ls : List (List Char)) (hne : ls ≠ []) :
    joinLines (above ++ ls) = terminate above ++ joinLines ls := by
  induction above with
  | nil => rfl
  | cons l rest ih =>
      rcases List.exists_cons_of_ne_nil (List.append_ne_nil_of_right_ne_nil rest hne) with ⟨next, more, heq⟩
      rw [heq] at ih
      rw [List.cons_append, heq, joinLines_cons_cons, ih, terminate_cons, List.append_assoc, List.cons_append]

/-- Lines below others stand behind a line feed, each of them. -/
theorem joinLines_append_below (ls below : List (List Char)) (hne : ls ≠ []) :
    joinLines (ls ++ below) = joinLines ls ++ below.flatMap ('\n' :: ·) := by
  rcases List.exists_cons_of_ne_nil hne with ⟨l, rest, rfl⟩
  rw [List.cons_append, joinLines_cons, joinLines_cons, List.flatMap_append, List.append_assoc]

/-- A text in which every line is ended is put together from its lines and an empty one. -/
theorem joinLines_append_blank (ls : List (List Char)) : joinLines (ls ++ [[]]) = terminate ls := by
  rw [joinLines_append ls [[]] (List.cons_ne_nil _ _), joinLines_singleton, List.append_nil]

/-- Ending every line is putting the lines together and ending the last. -/
theorem terminate_eq_joinLines (ls : List (List Char)) (hne : ls ≠ []) : terminate ls = joinLines ls ++ ['\n'] := by
  rw [← joinLines_append_blank, joinLines_append_below ls [[]] hne]
  rfl

/-- Lines that are put together have line feeds only, if they are free of carriage returns. -/
theorem return_notMem_joinLines (ls : List (List Char)) (h : ∀ l ∈ ls, '\r' ∉ l) : '\r' ∉ joinLines ls := by
  intro hmem
  rcases mem_of_mem_intercalate ['\n'] '\r' ls hmem with hfeed | ⟨l, hl, hc⟩
  · exact absurd (List.mem_singleton.mp hfeed) (by decide)
  · exact h l hl hc

/-- A text in which every line is ended has line feeds only, if its lines are free of carriage returns. -/
theorem return_notMem_terminate (ls : List (List Char)) (h : ∀ l ∈ ls, '\r' ∉ l) : '\r' ∉ terminate ls := by
  intro hmem
  rcases List.mem_flatMap.mp hmem with ⟨l, hl, hc⟩
  rcases List.mem_append.mp hc with hc | hc
  · exact h l hl hc
  · exact absurd (List.mem_singleton.mp hc) (by decide)

/-- The pieces of a text in which every line is ended, for a notion of line ends that the lines are free of: the
    lines, and what is left after the last end. -/
theorem splitOnP_terminate (ends : Char → Bool) (hfeed : ends '\n' = true) (ls : List (List Char))
    (h : ∀ l ∈ ls, ∀ c ∈ l, ends c = false) : (terminate ls).splitOnP ends = ls ++ [[]] := by
  induction ls with
  | nil => rfl
  | cons l rest ih =>
      have hl : ∀ c ∈ l, ends c = false := h l (List.mem_cons_self ..)
      have hrest := ih (fun x hx => h x (List.mem_cons_of_mem l hx))
      rw [terminate_cons, List.splitOnP_append_cons_of_forall_mem hl '\n' hfeed, hrest, List.cons_append]

/-- The lines of a text in which every line is ended. -/
theorem lines_terminate (ls : List (List Char)) (h : ∀ l ∈ ls, '\n' ∉ l) : lines (terminate ls) = ls ++ [[]] := by
  refine splitOnP_terminate (· == '\n') rfl ls (fun l hl c hc => ?_)
  rw [beq_eq_false_iff_ne]
  intro heq
  rw [heq] at hc
  exact h l hl hc

end Text

end CodeBehind
