import CodeBehind.Proofs.Text.Canonical

/-!
# Line endings

That it makes no difference to the canonical pass how a text ends its lines.

The library unifies line endings in two replacements: pairs of a carriage return and a line feed first, single
carriage returns then. The order matters, and it is not obvious that the result is what a reader would take for the
line ends of the text. `scanEndings` is that reading: one walk from left to right, which at a carriage return looks
one character ahead. It agrees with the two replacements because what the first one leaves behind is never looked at
again. A carriage return in front of a pair stays single, whatever becomes of the pair.

The walk also shows where a text can be cut without changing its line ends. That is everywhere but between the two
characters of a pair, so two texts are unified apart unless the first ends and the second begins with one half of it
(`unifyLineEndings_append`).

## Main definitions

* `scanEndings`: Line endings unified in one walk.
* `substitute`: A word replaced wherever it stands.

## Main results

* `normalize_lineEndings`: The two replacements are the walk, and the canonical pass takes one ending for another.

## Theorems

* `unifyLineEndings_eq_substitute`, `unifyLineEndings_eq_scanEndings`: Unifying as two replacements and as one walk.
* `unifyLineEndings_append`: Two texts are unified apart.
* `substitute_nil`: Replacing a single character.
* `unifyLineEndings_pairs`, `unifyLineEndings_returns`: Line feeds written in another way are found again.
* `normalize_congr`: The pass sees nothing but the unified text.
-/

namespace CodeBehind

namespace Text

/-- Line endings unified in one walk: a carriage return becomes a line feed and takes one behind it along. -/
def scanEndings : List Char → List Char
  | [] => []
  | '\r' :: '\n' :: cs => '\n' :: scanEndings cs
  | c :: cs => (if c = '\r' then '\n' else c) :: scanEndings cs

/-- The word that begins with `first` and goes on with `others` replaced wherever it stands, from left to right; what
    is put in its place is not searched. -/
def substitute (first : Char) (others new : List Char) : List Char → List Char
  | [] => []
  | c :: cs =>
    if c = first ∧ others <+: cs then new ++ substitute first others new (cs.drop others.length)
    else c :: substitute first others new cs
termination_by cs => cs.length

/-! ## Two replacements -/

theorem substitute_word (first : Char) (others new cs : List Char) :
    substitute first others new (first :: (others ++ cs)) = new ++ substitute first others new cs := by
  rw [substitute, if_pos ⟨rfl, List.prefix_append others cs⟩, List.drop_left]

theorem substitute_cons (first : Char) (others new : List Char) (c : Char) (cs : List Char)
    (h : ¬ (c = first ∧ others <+: cs)) :
    substitute first others new (c :: cs) = c :: substitute first others new cs := by
  rw [substitute, if_neg h]

/-- A single character is replaced on its own, without regard to those around it. -/
theorem substitute_nil (first : Char) (new cs : List Char) :
    substitute first [] new cs = cs.flatMap fun c => if c = first then new else [c] := by
  induction cs with
  | nil => rw [substitute, List.flatMap_nil]
  | cons c cs ih =>
      rw [List.flatMap_cons, ← ih]
      by_cases hc : c = first
      · rw [hc, if_pos rfl]
        exact substitute_word first [] new cs
      · rw [if_neg hc, substitute_cons first [] new c cs (fun h => hc h.1)]
        rfl

/-- The first step replaces the pairs. -/
theorem mergeReturns_eq_substitute (cs : List Char) : mergeReturns cs = substitute '\r' ['\n'] ['\n'] cs := by
  fun_induction mergeReturns cs with
  | case1 cs ih =>
      -- A pair is an occurrence of the word, and what is behind it is searched next.
      have hpair := substitute_word '\r' ['\n'] ['\n'] cs
      rw [List.singleton_append, ← ih] at hpair
      exact hpair.symm
  | case2 c cs hpair ih =>
      rw [ih, substitute_cons]
      rintro ⟨hc, rest, hrest⟩
      exact hpair rest hc hrest.symm
  | case3 => rw [substitute]

/-- The second step replaces the carriage returns that are left. -/
theorem map_eq_substitute (cs : List Char) :
    (cs.map fun c => if c = '\r' then '\n' else c) = substitute '\r' [] ['\n'] cs := by
  rw [substitute_nil]
  induction cs with
  | nil => rfl
  | cons c cs ih =>
      rw [List.map_cons, List.flatMap_cons, ih]
      split <;> rfl

theorem unifyLineEndings_eq_substitute (cs : List Char) :
    unifyLineEndings cs = substitute '\r' [] ['\n'] (substitute '\r' ['\n'] ['\n'] cs) := by
  rw [unifyLineEndings, mergeReturns_eq_substitute, map_eq_substitute]

/-! ## One walk -/

theorem unifyLineEndings_feed (cs : List Char) : unifyLineEndings ('\n' :: cs) = '\n' :: unifyLineEndings cs := by
  rw [unifyLineEndings_cons '\n' cs (fun _ heq => absurd heq (by decide)), if_neg (by decide)]

theorem unifyLineEndings_pair (cs : List Char) :
    unifyLineEndings ('\r' :: '\n' :: cs) = '\n' :: unifyLineEndings cs := rfl

/-- Looking one character ahead is as good as merging the pairs beforehand. -/
theorem unifyLineEndings_eq_scanEndings (cs : List Char) : unifyLineEndings cs = scanEndings cs := by
  fun_induction scanEndings cs with
  | case1 => rfl
  | case2 cs ih =>
      -- The pair has become a line feed in the first step, and the second leaves that alone.
      rw [← ih]
      exact unifyLineEndings_pair cs
  | case3 c cs hpair ih => rw [unifyLineEndings_cons c cs hpair, ih]

/-- Two texts are unified apart if no pair of a carriage return and a line feed stands where they meet. -/
theorem unifyLineEndings_append (cs ds : List Char) (h : cs.getLast? = some '\r' → ds.head? ≠ some '\n') :
    unifyLineEndings (cs ++ ds) = unifyLineEndings cs ++ unifyLineEndings ds := by
  -- The cases of the walk over the first text: only its last character can look beyond its end.
  rw [unifyLineEndings_eq_scanEndings cs]
  fun_induction scanEndings cs with
  | case1 => rfl
  | case2 cs ih =>
      rw [List.cons_append, List.cons_append, unifyLineEndings_pair, ih]
      · rfl
      · intro hlast
        refine h ?_
        rw [List.getLast?_cons_cons, List.getLast?_cons, hlast]
        rfl
  | case3 c cs hpair ih =>
      rw [List.cons_append, unifyLineEndings_cons, ih]
      · rfl
      · intro hlast
        refine h ?_
        rw [List.getLast?_cons, hlast]
        rfl
      · -- A pair lies within the first text or where the two meet.
        intro rest hc hrest
        cases cs with
        | nil =>
            rw [List.nil_append] at hrest
            rw [hc, hrest] at h
            exact h rfl rfl
        | cons d more =>
            rw [List.cons_append, List.cons.injEq] at hrest
            exact hpair more hc (by rw [hrest.1])

/-! ## Other endings -/

/-- Line feeds that were written as pairs are found again. -/
theorem unifyLineEndings_pairs (cs : List Char) (h : '\r' ∉ cs) :
    unifyLineEndings (substitute '\n' [] ['\r', '\n'] cs) = cs := by
  rw [substitute_nil]
  induction cs with
  | nil => rfl
  | cons c cs ih =>
      rw [List.mem_cons, not_or] at h
      rw [List.flatMap_cons]
      by_cases hc : c = '\n'
      · rw [if_pos hc, List.cons_append, List.singleton_append, unifyLineEndings_pair, ih h.2, hc]
      · rw [if_neg hc, List.singleton_append, unifyLineEndings_cons c _ (fun _ heq _ => h.1 heq.symm),
          if_neg (Ne.symm h.1), ih h.2]

/-- Line feeds that were written as carriage returns are found again: none is left that could make a pair. -/
theorem unifyLineEndings_returns (cs : List Char) (h : '\r' ∉ cs) :
    unifyLineEndings (substitute '\n' [] ['\r'] cs) = cs := by
  rw [substitute_nil]
  have hfeed : ∀ ds : List Char, '\n' ∉ ds.flatMap fun c => if c = '\n' then ['\r'] else [c] := by
    intro ds hmem
    rcases List.mem_flatMap.mp hmem with ⟨c, _, hc⟩
    split at hc
    · exact absurd (List.mem_singleton.mp hc) (by decide)
    · next hne => exact hne (List.mem_singleton.mp hc).symm
  induction cs with
  | nil => rfl
  | cons c cs ih =>
      rw [List.mem_cons, not_or] at h
      -- What follows has no line feed any more, so whatever stands here stands alone.
      have halone : ∀ d rest, d = '\r' →
          (cs.flatMap fun c => if c = '\n' then ['\r'] else [c]) = '\n' :: rest → False := by
        intro _ rest _ hrest
        exact hfeed cs (hrest ▸ List.mem_cons_self ..)
      rw [List.flatMap_cons]
      by_cases hc : c = '\n'
      · rw [if_pos hc, List.singleton_append, unifyLineEndings_cons '\r' _ (halone '\r'), if_pos rfl, ih h.2, hc]
      · rw [if_neg hc, List.singleton_append, unifyLineEndings_cons c _ (halone c), if_neg (Ne.symm h.1), ih h.2]

/-- The canonical pass sees nothing but the unified text. -/
theorem normalize_congr (text text' : String)
    (h : unifyLineEndings text.toList = unifyLineEndings text'.toList) : normalize text = normalize text' := by
  rw [normalize, normalize, canonicalLines, canonicalLines, h]

/-- Replacing pairs and then single carriage returns is one walk over the text. The canonical pass does not see whether
    it has been done already, and it does not see whether the line feeds of a text without carriage returns are written
    as pairs or as carriage returns. -/
theorem normalize_lineEndings (text : String) :
    unifyLineEndings text.toList = substitute '\r' [] ['\n'] (substitute '\r' ['\n'] ['\n'] text.toList) ∧
      unifyLineEndings text.toList = scanEndings text.toList ∧
      normalize (String.ofList (unifyLineEndings text.toList)) = normalize text ∧
      ('\r' ∉ text.toList →
        normalize (String.ofList (substitute '\n' [] ['\r', '\n'] text.toList)) = normalize text ∧
        normalize (String.ofList (substitute '\n' [] ['\r'] text.toList)) = normalize text) := by
  refine ⟨unifyLineEndings_eq_substitute _, unifyLineEndings_eq_scanEndings _, normalize_congr _ _ ?_, fun h => ?_⟩
  · rw [String.toList_ofList, unifyLineEndings_of_notMem _ (return_notMem_unifyLineEndings _)]
  · -- Either text is unified to the given one, which is unified already.
    have hself := unifyLineEndings_of_notMem _ h
    refine ⟨normalize_congr _ _ ?_, normalize_congr _ _ ?_⟩
    · rw [String.toList_ofList, unifyLineEndings_pairs _ h, hself]
    · rw [String.toList_ofList, unifyLineEndings_returns _ h, hself]

theorem normalize_lineEndings_block :
    '\r' ∉ "a;\n\n\n\tb \x7b\n\n c\n\x7d\n".toList ∧
      normalize "a;\r\n\r\n\r\n\tb \x7b\r\n\r\n c\r\n\x7d\r\n" = "a;\n\n    b \x7b\n c\n\x7d\n" ∧
      normalize "a;\r\r\r\tb \x7b\r\r c\r\x7d\r" = "a;\n\n    b \x7b\n c\n\x7d\n" := by
  have hreturn : '\r' ∉ "a;\n\n\n\tb \x7b\n\n c\n\x7d\n".toList := by decide
  rcases (normalize_lineEndings "a;\n\n\n\tb \x7b\n\n c\n\x7d\n").2.2.2 hreturn with ⟨hpairs, hreturns⟩
  have hcanonical : normalize "a;\n\n\n\tb \x7b\n\n c\n\x7d\n" = "a;\n\n    b \x7b\n c\n\x7d\n" := by
    decide +kernel
  rw [substitute_nil, hcanonical] at hpairs hreturns
  exact ⟨hreturn, hpairs, hreturns⟩

end Text

end CodeBehind
