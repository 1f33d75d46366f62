import CodeBehind.Proofs.Text.Lines
import CodeBehind.Proofs.Text.Settle
import Mathlib.Data.List.Chain

/-!
# Canonical texts

Which texts the canonical pass leaves alone, and why every text it makes is one of them.

A canonical text is described by its lines alone. Each line by itself is free of line ends, tabs and trailing
blanks. Of the lines together three things are asked: the text begins and ends with a line that shows something,
and `Adjoin` holds of any two lines one below the other. `Adjoin` is about two lines only, so the condition on a
whole text is a chain, and a chain is what the walk over the lines builds: each line it keeps is put below the
last one it kept, with or without a blank between them.

That makes both directions one induction on the lines. The walk is judged by the lines that came in, the condition
by the lines that come out, and the invariant that ties them together is that the last line kept is never blank: a
blank is written only together with the line below it. On canonical lines the walk meets at most one blank at a
time, writes it when the next line comes, and so gives back what it got.

## Main definitions

* `IsCanonicalLine`: A line as it stands in a canonical text.
* `Adjoin`: Two lines that may stand one below the other.
* `IsCanonicalLines`, `IsCanonical`: The lines of a canonical text, and the text.

## Main results

* `normalize_canonical`: Every text is made canonical, and the canonical texts are those that stay the same.

## Theorems

* `isChain_settle`: What the walk keeps may stand below the line before it.
* `settle_of_isChain`: The walk keeps lines that may stand where they stand.
* `isCanonicalLines_canonicalLines`: The lines that are kept are those of a canonical text.
* `canonicalLines_terminate`: The lines of a canonical text are all kept.
* `lines_normalize`: The lines of a text after the pass.
* `exists_terminate_end`: How a canonical text ends.
* `canonicalLines_cons_feed`, `canonicalLines_cons_visible`: What the beginning of a text leaves in its canonical form.
* `isCanonicalLines_append_blank`: Two canonical texts with a blank line between them.
-/

namespace CodeBehind

namespace Text

/-- A line as it stands in a canonical text. -/
structure IsCanonicalLine (line : List Char) : Prop where
  unbroken : '\n' ∉ line ∧ '\r' ∉ line
  untabbed : '\t' ∉ line
  trimmed : ∀ c, line.getLast? = some c → isBlank c = false

/-- Two lines that may stand one below the other: not both are empty, and an empty one neither follows a line that
    opens a block nor precedes one that closes a block. -/
structure Adjoin (above below : List Char) : Prop where
  single : ¬ (above = [] ∧ below = [])
  opened : below = [] → opensBlock above = false
  closed : above = [] → closesBlock below = false

/-- The lines of a canonical text. -/
structure IsCanonicalLines (ls : List (List Char)) : Prop where
  line : ∀ l ∈ ls, IsCanonicalLine l
  first : ls.head? ≠ some []
  last : ls.getLast? ≠ some []
  adjoin : ls.IsChain Adjoin

/-- A text in canonical form: empty, or such lines joined by line feeds and one line feed more. -/
def IsCanonical (text : String) : Prop :=
  text = "" ∨ ∃ ls, ls ≠ [] ∧ IsCanonicalLines ls ∧ text.toList = joinLines ls ++ ['\n']

/-! ## Lines -/

theorem isCanonicalLine_nil : IsCanonicalLine [] where
  unbroken := ⟨List.not_mem_nil, List.not_mem_nil⟩
  untabbed := List.not_mem_nil
  trimmed := fun c hc => absurd hc (by simp only [List.getLast?_nil, reduceCtorEq, not_false_eq_true])

/-- A line without line ends becomes one of a canonical text. -/
theorem isCanonicalLine_tidyLine (line : List Char) (hfeed : '\n' ∉ line) (hreturn : '\r' ∉ line) :
    IsCanonicalLine (tidyLine line) where
  unbroken := ⟨notMem_tidyLine line '\n' (by decide) hfeed, notMem_tidyLine line '\r' (by decide) hreturn⟩
  untabbed := by
    intro hmem
    rcases mem_of_mem_tidyLine line '\t' hmem with heq | ⟨_, hne⟩
    · exact absurd heq (by decide)
    · exact hne rfl
  trimmed := visible_of_getLast?_trimEnd _

/-- A line of a canonical text is tidy. -/
theorem tidyLine_of_isCanonicalLine (line : List Char) (h : IsCanonicalLine line) : tidyLine line = line := by
  cases hlast : line.getLast? with
  | none =>
      rw [List.getLast?_eq_none_iff.mp hlast]
      rfl
  | some c => exact tidyLine_eq_self line h.untabbed c hlast (h.trimmed c hlast)

/-! ## The walk over the lines -/

theorem separable_iff (before after : List Char) :
    separable before after = true ↔ opensBlock before = false ∧ closesBlock after = false := by
  rw [separable, Bool.not_eq_true', Bool.or_eq_false_iff]

/-- Before a line either nothing is due, or a blank that may stand between it and the last one. -/
theorem blankBefore_some (before : List Char) (gap : Bool) (line : List Char) :
    blankBefore (some before) gap line = [] ∨
      blankBefore (some before) gap line = [[]] ∧ opensBlock before = false ∧ closesBlock line = false := by
  rw [blankBefore]
  split
  · next hdue =>
      rw [Bool.and_eq_true] at hdue
      exact Or.inr ⟨rfl, (separable_iff before line).mp hdue.2⟩
  · exact Or.inl rfl

theorem adjoin_of_ne_nil (above below : List Char) (habove : above ≠ []) (hbelow : below ≠ []) :
    Adjoin above below where
  single := fun h => habove h.1
  opened := fun h => absurd h hbelow
  closed := fun h => absurd h habove

theorem adjoin_blank (above : List Char) (habove : above ≠ []) (h : opensBlock above = false) : Adjoin above [] where
  single := fun hboth => habove hboth.1
  opened := fun _ => h
  closed := fun hnil => absurd hnil habove

theorem blank_adjoin (below : List Char) (hbelow : below ≠ []) (h : closesBlock below = false) : Adjoin [] below where
  single := fun hboth => hbelow hboth.2
  opened := fun hnil => absurd hnil hbelow
  closed := fun _ => h

/-- What the walk keeps may stand below the line before it. -/
theorem isChain_settle (before : List Char) (gap : Bool) (ls : List (List Char)) (hbefore : before ≠ []) :
    (before :: settle (some before) gap ls).IsChain Adjoin := by
  -- The last line that was kept is not blank, and a blank is kept only with the line that follows it.
  induction ls generalizing before gap with
  | nil => exact List.isChain_singleton before
  | cons line rest ih =>
      by_cases hline : line = []
      · rw [hline, settle_blank]
        exact ih before true hbefore
      · have hrest := ih line false hline
        rw [settle_line _ _ _ _ hline]
        rcases blankBefore_some before gap line with hnone | ⟨hdue, hopens, hcloses⟩
        · rw [hnone, List.nil_append]
          exact List.isChain_cons_cons.mpr ⟨adjoin_of_ne_nil before line hbefore hline, hrest⟩
        · rw [hdue, List.singleton_append]
          exact List.isChain_cons_cons.mpr ⟨adjoin_blank before hbefore hopens,
            List.isChain_cons_cons.mpr ⟨blank_adjoin line hline hcloses, hrest⟩⟩

/-- The walk ends with a line that is not blank. -/
theorem getLast?_settle (last : Option (List Char)) (gap : Bool) (ls : List (List Char)) :
    (settle last gap ls).getLast? ≠ some [] := by
  induction ls generalizing last gap with
  | nil => simp only [settle, List.getLast?_nil, ne_eq, reduceCtorEq, not_false_eq_true]
  | cons line rest ih =>
      by_cases hline : line = []
      · rw [hline, settle_blank]
        exact ih last true
      · rw [settle_line _ _ _ _ hline, List.getLast?_append_cons, List.getLast?_cons]
        intro heq
        rw [Option.some.injEq] at heq
        -- The last line is the last one of the rest, or this one if nothing is kept of the rest.
        cases hrest : (settle (some line) false rest).getLast? with
        | none =>
            rw [hrest] at heq
            exact hline heq
        | some l =>
            rw [hrest] at heq
            exact ih (some line) false (hrest.trans (congrArg some heq))

/-- The walk begins with a line that is not blank. -/
theorem head?_settle (gap : Bool) (ls : List (List Char)) : (settle none gap ls).head? ≠ some [] := by
  induction ls generalizing gap with
  | nil => simp only [settle, List.head?_nil, ne_eq, reduceCtorEq, not_false_eq_true]
  | cons line rest ih =>
      by_cases hline : line = []
      · rw [hline, settle_blank]
        exact ih true
      · rw [settle_line _ _ _ _ hline]
        intro heq
        exact hline (Option.some.inj heq)

/-- The walk keeps lines it was given, and blanks. -/
theorem mem_of_mem_settle (last : Option (List Char)) (gap : Bool) (ls : List (List Char)) (l : List Char)
    (hl : l ∈ settle last gap ls) : l = [] ∨ l ∈ ls := by
  induction ls generalizing last gap with
  | nil => exact absurd hl List.not_mem_nil
  | cons line rest ih =>
      by_cases hline : line = []
      · rw [hline, settle_blank] at hl
        exact (ih last true hl).imp_right (List.mem_cons_of_mem line)
      · rw [settle_line _ _ _ _ hline, List.mem_append, List.mem_cons] at hl
        rcases hl with hblank | heq | hrest
        · cases last with
          | none => exact absurd hblank List.not_mem_nil
          | some before =>
              rcases blankBefore_some before gap line with hnone | ⟨hdue, _⟩
              · rw [hnone] at hblank
                exact absurd hblank List.not_mem_nil
              · rw [hdue] at hblank
                exact Or.inl (List.mem_singleton.mp hblank)
        · exact Or.inr (heq ▸ List.mem_cons_self ..)
        · exact (ih (some line) false hrest).imp_right (List.mem_cons_of_mem line)

theorem isChain_settle_none (gap : Bool) (ls : List (List Char)) : (settle none gap ls).IsChain Adjoin := by
  induction ls generalizing gap with
  | nil => exact List.isChain_nil
  | cons line rest ih =>
      by_cases hline : line = []
      · rw [hline, settle_blank]
        exact ih true
      · rw [settle_line _ _ _ _ hline]
        exact isChain_settle line false rest hline

/-- The lines that are kept are those of a canonical text. -/
theorem isCanonicalLines_canonicalLines (cs : List Char) : IsCanonicalLines (canonicalLines cs) where
  line := by
    -- A line that is kept is a tidy line of the text or a blank.
    intro l hl
    rcases mem_of_mem_settle _ _ _ l hl with hnil | hmem
    · rw [hnil]
      exact isCanonicalLine_nil
    · rcases List.mem_map.mp hmem with ⟨line, hline, heq⟩
      rcases notMem_of_mem_lines cs line hline with ⟨hfeed, hreturn⟩
      rw [← heq]
      exact isCanonicalLine_tidyLine line hfeed hreturn
  first := head?_settle false _
  last := getLast?_settle none false _
  adjoin := isChain_settle_none false _

/-- The blank that a walk has passed. -/
def passedBlank (gap : Bool) : List (List Char) :=
  if gap then [[]] else []

/-- Lines that may stand where they stand are kept, together with the blank that was passed before them. -/
theorem settle_of_isChain (before : List Char) (gap : Bool) (ls : List (List Char)) (hbefore : before ≠ [])
    (hchain : (before :: (passedBlank gap ++ ls)).IsChain Adjoin)
    (hlast : (before :: (passedBlank gap ++ ls)).getLast? ≠ some []) :
    settle (some before) gap ls = passedBlank gap ++ ls := by
  induction ls generalizing before gap with
  | nil =>
      cases gap with
      | false => rfl
      | true => exact absurd rfl hlast
  | cons line rest ih =>
      by_cases hline : line = []
      · rw [hline] at hchain hlast ⊢
        cases gap with
        | false => exact ih before true hbefore hchain hlast
        | true =>
            -- Two blanks in a row are not allowed.
            have hpair := (List.isChain_cons_cons.mp (List.isChain_cons_cons.mp hchain).2).1
            exact absurd ⟨rfl, rfl⟩ hpair.single
      · have hwalk := settle_line (some before) gap line rest hline
        cases gap with
        | false =>
            have htail := List.isChain_cons_cons.mp hchain
            have hends : (before :: line :: rest).getLast? ≠ some [] := hlast
            rw [List.getLast?_cons_cons] at hends
            rw [hwalk, blankBefore_close, ih line false hline htail.2 hends]
            rfl
        | true =>
            -- The blank that was passed stands between the two lines, so it is due.
            have htail := List.isChain_cons_cons.mp hchain
            have htail' := List.isChain_cons_cons.mp htail.2
            have hdue : blankBefore (some before) true line = [[]] := by
              have hsep := (separable_iff before line).mpr ⟨htail.1.opened rfl, htail'.1.closed rfl⟩
              rw [blankBefore, hsep]
              rfl
            have hends : (before :: [] :: line :: rest).getLast? ≠ some [] := hlast
            rw [List.getLast?_cons_cons, List.getLast?_cons_cons] at hends
            rw [hwalk, hdue, ih line false hline htail'.2 hends]
            rfl

theorem settle_append_blank (last : Option (List Char)) (gap : Bool) (ls : List (List Char)) :
    settle last gap (ls ++ [[]]) = settle last gap ls := by
  induction ls generalizing last gap with
  | nil => rfl
  | cons line rest ih =>
      rw [List.cons_append]
      by_cases hline : line = []
      · rw [hline, settle_blank, settle_blank, ih]
      · rw [settle_line _ _ _ _ hline, settle_line _ _ _ _ hline, ih]

/-- Lines of a canonical text are kept as they are. -/
theorem settle_of_isCanonicalLines (ls : List (List Char)) (h : IsCanonicalLines ls) : settle none false ls = ls := by
  cases ls with
  | nil => rfl
  | cons line rest =>
      have hline : line ≠ [] := fun hnil => h.first (congrArg some hnil)
      rw [settle_line _ _ _ _ hline, settle_of_isChain line false rest hline h.adjoin h.last]
      rfl

/-- Lines of which none is blank are kept as they are. -/
theorem settle_of_solid (ls : List (List Char)) (h : ∀ l ∈ ls, l ≠ []) : settle none false ls = ls := by
  cases ls with
  | nil => rfl
  | cons line rest =>
      have hwalk := settle_solid rest [] line (rest.getLast?.getD line)
        (fun l hl => h l (List.mem_cons_of_mem line hl)) List.getLast?_cons
      rw [List.append_nil, settle, List.append_nil] at hwalk
      rw [settle_line _ _ _ _ (h line (List.mem_cons_self ..)), hwalk]
      rfl

/-! ## Texts -/

/-- The lines that are kept of a text in which every line is ended. -/
theorem canonicalLines_of_unbroken (ls : List (List Char)) (h : ∀ l ∈ ls, '\n' ∉ l ∧ '\r' ∉ l) :
    canonicalLines (terminate ls) = settle none false (ls.map tidyLine) := by
  have hreturn : '\r' ∉ terminate ls := return_notMem_terminate ls (fun l hl => (h l hl).2)
  -- After the last line end there is an empty piece, which leaves no trace.
  rw [canonicalLines, unifyLineEndings_of_notMem _ hreturn, lines_terminate ls (fun l hl => (h l hl).1),
    List.map_append]
  exact settle_append_blank none false (ls.map tidyLine)

/-- The lines of a canonical text are all kept. -/
theorem canonicalLines_terminate (ls : List (List Char)) (h : IsCanonicalLines ls) :
    canonicalLines (terminate ls) = ls := by
  have htidy : ls.map tidyLine = ls := by
    rw [List.map_congr_left (fun l hl => tidyLine_of_isCanonicalLine l (h.line l hl)), List.map_id']
  rw [canonicalLines_of_unbroken ls (fun l hl => (h.line l hl).unbroken), htidy, settle_of_isCanonicalLines ls h]

theorem isCanonical_iff (text : String) :
    IsCanonical text ↔ ∃ ls, IsCanonicalLines ls ∧ text.toList = terminate ls := by
  constructor
  · intro h
    rcases h with hempty | ⟨ls, hne, hls, htext⟩
    · refine ⟨[], ⟨?_, ?_, ?_, List.isChain_nil⟩, ?_⟩
      · exact fun l hl => absurd hl List.not_mem_nil
      · simp only [List.head?_nil, ne_eq, reduceCtorEq, not_false_eq_true]
      · simp only [List.getLast?_nil, ne_eq, reduceCtorEq, not_false_eq_true]
      · rw [hempty]
        rfl
    · exact ⟨ls, hls, by rw [htext, terminate_eq_joinLines ls hne]⟩
  · rintro ⟨ls, hls, htext⟩
    by_cases hne : ls = []
    · rw [hne] at htext
      exact Or.inl (String.toList_inj.mp htext)
    · exact Or.inr ⟨ls, hne, hls, by rw [htext, terminate_eq_joinLines ls hne]⟩

theorem toList_normalize (text : String) : (normalize text).toList = terminate (canonicalLines text.toList) := by
  rw [normalize, String.toList_ofList]

/-- The lines of a text after the pass: those that are kept, and what is left behind the last line feed. -/
theorem lines_normalize (text : String) : lines (normalize text).toList = canonicalLines text.toList ++ [[]] := by
  rw [toList_normalize]
  exact lines_terminate _ (fun l hl => ((isCanonicalLines_canonicalLines text.toList).line l hl).unbroken.1)

/-- What comes out of the pass is canonical. -/
theorem isCanonical_normalize (text : String) : IsCanonical (normalize text) :=
  (isCanonical_iff _).mpr ⟨_, isCanonicalLines_canonicalLines text.toList, toList_normalize text⟩

/-- The pass leaves a canonical text alone. -/
theorem normalize_of_isCanonical (text : String) (h : IsCanonical text) : normalize text = text := by
  rcases (isCanonical_iff text).mp h with ⟨ls, hls, htext⟩
  rw [← String.toList_inj, toList_normalize, htext, canonicalLines_terminate ls hls]

/-- Every text is made canonical, and the canonical texts are those that stay the same; so a second pass changes
    nothing. -/
theorem normalize_canonical (text : String) :
    IsCanonical (normalize text) ∧ (normalize text = text ↔ IsCanonical text) ∧
      normalize (normalize text) = normalize text := by
  have hresult := isCanonical_normalize text
  refine ⟨hresult, ⟨fun heq => ?_, normalize_of_isCanonical text⟩, normalize_of_isCanonical _ hresult⟩
  rw [← heq]
  exact hresult

/-- A canonical text that is not empty ends in one line feed and no more. -/
theorem exists_terminate_end (ls : List (List Char)) (hne : ls ≠ []) (h : IsCanonicalLines ls) :
    ∃ before c, terminate ls = before ++ [c, '\n'] ∧ c ≠ '\n' := by
  rcases List.eq_nil_or_concat ls with hnil | ⟨before, last, heq⟩
  · exact absurd hnil hne
  · rw [List.concat_eq_append] at heq
    have hlast : last ≠ [] := by
      intro hnil
      exact h.last (by rw [heq, List.getLast?_concat, hnil])
    rcases List.eq_nil_or_concat last with hnil | ⟨beginning, c, hend⟩
    · exact absurd hnil hlast
    · rw [List.concat_eq_append] at hend
      refine ⟨terminate before ++ beginning, c, ?_, ?_⟩
      · rw [heq, terminate_append, terminate_cons, hend]
        simp only [List.append_assoc, List.singleton_append]
        rfl
      · -- A line feed is no character of a line.
        intro hfeed
        have hmem : '\n' ∈ last := by
          rw [hend, hfeed]
          exact List.mem_append_right _ (List.mem_singleton_self _)
        exact (h.line last (heq ▸ List.mem_append_right _ (List.mem_singleton_self _))).unbroken.1 hmem

/-! ## Beginnings -/

theorem closesBlock_cons (c : Char) (cs : List Char) (hc : isBlank c = false) :
    closesBlock (c :: cs) = (c == '}') := by
  rw [closesBlock, trimStart, List.dropWhile_cons_of_neg (by rw [hc]; exact Bool.false_ne_true), List.head?_cons]
  rfl

/-- A blank line in front of a text is dropped. -/
theorem canonicalLines_cons_feed (cs : List Char) : canonicalLines ('\n' :: cs) = canonicalLines cs := by
  have hgap : ∀ ls, settle none true ls = settle none false ls := by
    intro ls
    cases ls with
    | nil => rfl
    | cons line rest => cases line <;> rfl
  have hlines : lines (unifyLineEndings ('\n' :: cs)) = [] :: lines (unifyLineEndings cs) := by
    rw [unifyLineEndings_cons '\n' cs (fun _ heq => absurd heq (by decide)), if_neg (by decide), lines_cons,
      if_pos rfl]
  rw [canonicalLines, hlines, List.map_cons]
  exact hgap _

/-- A text that begins with a visible character keeps it in front. -/
theorem canonicalLines_cons_visible (c : Char) (cs : List Char) (hc : isBlank c = false) :
    ∃ line rest, canonicalLines (c :: cs) = (c :: line) :: rest := by
  have hne : ∀ d, isBlank d = true → c ≠ d := by
    intro d hd heq
    rw [heq, hd] at hc
    exact Bool.false_ne_true hc.symm
  have hreturn : c ≠ '\r' := hne '\r' (by decide)
  cases hlines : lines (unifyLineEndings cs) with
  | nil => exact absurd hlines (List.splitOn_ne_nil '\n' _)
  | cons first others =>
      rcases tidyLine_append_visible [] first c hc with ⟨kept, hkept⟩
      refine ⟨kept, settle (some (c :: kept)) false (others.map tidyLine), ?_⟩
      rw [canonicalLines, unifyLineEndings_cons c cs (fun _ heq => absurd heq hreturn), if_neg hreturn, lines_cons,
        if_neg (hne '\n' (by decide)), hlines, List.modifyHead_cons, List.map_cons]
      rw [List.nil_append] at hkept
      rw [hkept]
      rfl

/-- Two canonical texts with a blank line between them make one, unless the first ends by opening a block or the
    second begins by closing one. -/
theorem isCanonicalLines_append_blank (ls ls' : List (List Char)) (last first : List Char)
    (h : IsCanonicalLines ls) (h' : IsCanonicalLines ls') (hlast : ls.getLast? = some last)
    (hfirst : ls'.head? = some first) (hopens : opensBlock last = false) (hcloses : closesBlock first = false) :
    IsCanonicalLines (ls ++ [] :: ls') where
  line := by
    intro l hl
    rcases List.mem_append.mp hl with hl | hl
    · exact h.line l hl
    · rcases List.mem_cons.mp hl with heq | hl
      · rw [heq]
        exact isCanonicalLine_nil
      · exact h'.line l hl
  first := by
    cases ls with
    | nil => exact absurd hlast (by simp only [List.getLast?_nil, reduceCtorEq, not_false_eq_true])
    | cons l rest => exact h.first
  last := by
    cases ls' with
    | nil => exact absurd hfirst (by simp only [List.head?_nil, reduceCtorEq, not_false_eq_true])
    | cons l rest =>
        rw [List.getLast?_append_cons, List.getLast?_cons_cons]
        exact h'.last
  adjoin := by
    have hlastNe : last ≠ [] := fun hnil => h.last (hlast.trans (congrArg some hnil))
    have hfirstNe : first ≠ [] := fun hnil => h'.first (hfirst.trans (congrArg some hnil))
    -- Only the blank has new neighbours: the last line above it and the first line below it.
    refine h.adjoin.append (h'.adjoin.cons (fun y hy => ?_)) (fun x hx y hy => ?_)
    · rw [hfirst, Option.mem_some_iff] at hy
      rw [← hy]
      exact blank_adjoin first hfirstNe hcloses
    · rw [hlast, Option.mem_some_iff] at hx
      rw [List.head?_cons, Option.mem_some_iff] at hy
      rw [← hx, ← hy]
      exact adjoin_blank last hlastNe hopens

end Text

end CodeBehind
