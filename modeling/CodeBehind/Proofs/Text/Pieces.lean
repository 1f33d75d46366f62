/-!
# Texts in pieces

What a text that was put together from pieces is made of.

A text put together with something between its pieces has the characters of the pieces and of what stands
between them, and no others. Control characters, null bytes among them, never stand in what the library writes
on its own. So wherever one shows up, it came in with one of the texts that were given.

## Theorems

* `mem_of_mem_intercalate`: What is put together consists of the pieces and what stands between them.
* `mem_intercalate_of_mem`: Nothing of a piece is lost.
* `mem_of_mem_splitOn`, `notMem_of_mem_splitOn`: Taking a text apart adds nothing and leaves no mark.
* `notMem_append`, `notMem_intercalate`, `notMem_of_lt_space`: Where a control character does not stand.
* `append_cons_injective`, `intercalate_injective`: Where the pieces of a text begin and end can be seen.
* `head?_append`, `getLast?_append`, `getLast?_intercalate`: The characters at the ends.
* `exists_last_of_mem`: A text before and after the last of some marks.
* `getElem?_append_cons_ne`: Lists that differ in one place.
-/

namespace CodeBehind

namespace Text

section

variable {α : Type} (sep : List α)

/-- What is put together consists of the pieces and what stands between them. -/
theorem mem_of_mem_intercalate (x : α) (pieces : List (List α)) (h : x ∈ sep.intercalate pieces) :
    x ∈ sep ∨ ∃ piece ∈ pieces, x ∈ piece := by
  induction pieces with
  | nil => exact absurd h List.not_mem_nil
  | cons piece rest ih =>
      by_cases hrest : rest = []
      · rw [hrest, List.intercalate_singleton] at h
        exact Or.inr ⟨piece, List.mem_cons_self .., h⟩
      · rw [List.intercalate_cons_of_ne_nil hrest, List.append_assoc, List.mem_append, List.mem_append] at h
        rcases h with hpiece | hsep | hlater
        · exact Or.inr ⟨piece, List.mem_cons_self .., hpiece⟩
        · exact Or.inl hsep
        · rcases ih hlater with hsep | ⟨other, hother, hx⟩
          · exact Or.inl hsep
          · exact Or.inr ⟨other, List.mem_cons_of_mem piece hother, hx⟩

/-- Nothing of a piece is lost. -/
theorem mem_intercalate_of_mem (x : α) (piece : List α) (pieces : List (List α)) (hpiece : piece ∈ pieces)
    (hx : x ∈ piece) : x ∈ sep.intercalate pieces := by
  induction pieces with
  | nil => exact absurd hpiece List.not_mem_nil
  | cons first rest ih =>
      by_cases hrest : rest = []
      · rw [hrest, List.mem_singleton] at hpiece
        rw [hrest, List.intercalate_singleton, ← hpiece]
        exact hx
      · rw [List.intercalate_cons_of_ne_nil hrest]
        rcases List.mem_cons.mp hpiece with heq | hlater
        · exact List.mem_append_left _ (List.mem_append_left _ (heq ▸ hx))
        · exact List.mem_append_right _ (ih hlater)

/-- What is in a piece of a text that was taken apart is in the text. -/
theorem mem_of_mem_splitOn [BEq α] [LawfulBEq α] (x mark : α) (piece xs : List α) (hpiece : piece ∈ xs.splitOn mark)
    (hx : x ∈ piece) : x ∈ xs := by
  have hmem := mem_intercalate_of_mem [mark] x piece _ hpiece hx
  rwa [List.intercalate_splitOn] at hmem

/-- No mark is left in the pieces of a text that was taken apart at it. -/
theorem notMem_of_mem_splitOn [BEq α] [LawfulBEq α] (mark : α) (xs : List α) :
    ∀ piece ∈ xs.splitOn mark, mark ∉ piece := by
  induction xs with
  | nil =>
      intro piece hpiece
      rw [List.mem_singleton.mp hpiece]
      exact List.not_mem_nil
  | cons x rest ih =>
      intro piece hpiece
      rw [List.splitOn, List.splitOnP_cons_eq_if_modifyHead] at hpiece
      split at hpiece
      · rcases List.mem_cons.mp hpiece with heq | hlater
        · rw [heq]
          exact List.not_mem_nil
        · exact ih piece hlater
      · next hx =>
          -- Only the first piece has become longer, and not by a mark.
          cases hpieces : rest.splitOnP (· == mark) with
          | nil => exact absurd hpieces (List.splitOn_ne_nil mark rest)
          | cons first others =>
              rw [List.splitOn, hpieces] at ih
              rw [hpieces] at hpiece
              rcases List.mem_cons.mp hpiece with heq | hlater
              · rw [heq, List.mem_cons, not_or]
                exact ⟨fun hmark => hx (beq_iff_eq.mpr hmark.symm), ih first (List.mem_cons_self ..)⟩
              · exact ih piece (List.mem_cons_of_mem first hlater)

/-- A separator that neither beginning has ends both. -/
theorem append_cons_injective (x : α) (before before' after after' : List α) (h : x ∉ before) (h' : x ∉ before')
    (heq : before ++ x :: after = before' ++ x :: after') : before = before' ∧ after = after' := by
  -- Where one beginning ends before the other, the separator would be in the longer one.
  induction before generalizing before' with
  | nil =>
      cases before' with
      | nil =>
          rw [List.nil_append, List.nil_append, List.cons.injEq] at heq
          exact ⟨rfl, heq.2⟩
      | cons y rest =>
          rw [List.nil_append, List.cons_append, List.cons.injEq] at heq
          exact absurd (heq.1 ▸ List.mem_cons_self ..) h'
  | cons y rest ih =>
      cases before' with
      | nil =>
          rw [List.nil_append, List.cons_append, List.cons.injEq] at heq
          exact absurd (heq.1 ▸ List.mem_cons_self ..) h
      | cons z rest' =>
          rw [List.cons_append, List.cons_append, List.cons.injEq] at heq
          have hrest : x ∉ rest := fun hx => h (List.mem_cons_of_mem y hx)
          have hrest' : x ∉ rest' := fun hx => h' (List.mem_cons_of_mem z hx)
          rcases ih rest' hrest hrest' heq.2 with ⟨hbefore, hafter⟩
          exact ⟨by rw [heq.1, hbefore], hafter⟩

theorem intercalate_ne_nil (pieces : List (List α)) (hne : pieces ≠ []) (h : ∀ piece ∈ pieces, piece ≠ []) :
    sep.intercalate pieces ≠ [] := by
  cases pieces with
  | nil => exact absurd rfl hne
  | cons piece rest =>
      cases rest with
      | nil =>
          rw [List.intercalate_singleton]
          exact h piece (List.mem_cons_self ..)
      | cons next rest =>
          rw [List.intercalate_cons_cons]
          exact List.append_ne_nil_of_left_ne_nil
            (List.append_ne_nil_of_left_ne_nil (h piece (List.mem_cons_self ..)) _) _

/-- Pieces can be found again if they are not empty and free of what begins the separator. -/
theorem intercalate_injective (x : α) (more : List α) (pieces pieces' : List (List α))
    (h : ∀ piece ∈ pieces, piece ≠ [] ∧ x ∉ piece) (h' : ∀ piece ∈ pieces', piece ≠ [] ∧ x ∉ piece)
    (heq : (x :: more).intercalate pieces = (x :: more).intercalate pieces') : pieces = pieces' := by
  -- A last piece cannot equal a text that goes on with the separator.
  have hlast : ∀ piece next rest, x ∉ piece →
      (x :: more).intercalate [piece] ≠ (x :: more).intercalate (next :: rest) ∨ rest = [] := by
    intro piece next rest hpiece
    cases rest with
    | nil => exact Or.inr rfl
    | cons other rest =>
        refine Or.inl (fun hsame => hpiece ?_)
        rw [List.intercalate_singleton, List.intercalate_cons_cons, List.append_assoc] at hsame
        rw [hsame]
        exact List.mem_append_right _ (List.mem_cons_self ..)
  induction pieces generalizing pieces' with
  | nil =>
      by_cases hnil : pieces' = []
      · exact hnil.symm
      · exact absurd heq.symm (intercalate_ne_nil _ pieces' hnil (fun piece hmem => (h' piece hmem).1))
  | cons piece rest ih =>
      have hpiece := h piece (List.mem_cons_self ..)
      cases pieces' with
      | nil => exact absurd heq (intercalate_ne_nil _ _ (List.cons_ne_nil _ _) (fun p hp => (h p hp).1))
      | cons piece' rest' =>
          have hpiece' := h' piece' (List.mem_cons_self ..)
          cases rest with
          | nil =>
              rcases hlast piece piece' rest' hpiece.2 with hne | hnil
              · exact absurd heq hne
              · rw [hnil, List.intercalate_singleton, List.intercalate_singleton] at heq
                rw [heq, hnil]
          | cons next others =>
              cases rest' with
              | nil =>
                  rcases hlast piece' piece (next :: others) hpiece'.2 with hne | hnil
                  · exact absurd heq.symm hne
                  · exact absurd hnil (List.cons_ne_nil _ _)
              | cons next' others' =>
                  -- Both go on, so the first pieces end at the first separator.
                  rw [List.intercalate_cons_cons, List.intercalate_cons_cons, List.append_assoc,
                    List.append_assoc, List.cons_append, List.cons_append] at heq
                  rcases append_cons_injective x _ _ _ _ hpiece.2 hpiece'.2 heq with ⟨hfirst, hafter⟩
                  rw [hfirst, ih _ (fun p hp => h p (List.mem_cons_of_mem _ hp))
                    (fun p hp => h' p (List.mem_cons_of_mem _ hp)) (List.append_cancel_left hafter)]

end

/-- A text in two parts is free of what both are free of. -/
theorem notMem_append (c : Char) (s t : String) (hs : c ∉ s.toList) (ht : c ∉ t.toList) :
    c ∉ (s ++ t).toList := by
  rw [String.toList_append, List.mem_append, not_or]
  exact ⟨hs, ht⟩

theorem notMem_intercalate (c : Char) (sep : String) (pieces : List String) (hsep : c ∉ sep.toList)
    (h : ∀ s ∈ pieces, c ∉ s.toList) : c ∉ (sep.intercalate pieces).toList := by
  intro hmem
  rw [String.toList_intercalate] at hmem
  rcases mem_of_mem_intercalate sep.toList c _ hmem with hc | ⟨piece, hpiece, hc⟩
  · exact hsep hc
  · rcases List.mem_map.mp hpiece with ⟨s, hs, heq⟩
    rw [← heq] at hc
    exact h s hs hc

/-- A control character does not stand in a text of visible characters and spaces. -/
theorem notMem_of_lt_space (c : Char) (hc : c < ' ') (s : String) (hs : s.toList.all (' ' ≤ ·) = true) :
    c ∉ s.toList := by
  intro hmem
  have hle := List.all_eq_true.mp hs c hmem
  exact Char.not_lt.mpr (of_decide_eq_true hle) hc

/-- Texts that were put together can be found again if they are not empty and free of what begins the separator. -/
theorem join_injective (x : Char) (more : List Char) (sep : String) (hsep : sep.toList = x :: more)
    (texts texts' : List String) (h : ∀ s ∈ texts, s.toList ≠ [] ∧ x ∉ s.toList)
    (h' : ∀ s ∈ texts', s.toList ≠ [] ∧ x ∉ s.toList) (heq : sep.intercalate texts = sep.intercalate texts') :
    texts = texts' := by
  have hpieces : ∀ ts : List String, (∀ s ∈ ts, s.toList ≠ [] ∧ x ∉ s.toList) →
      ∀ piece ∈ ts.map String.toList, piece ≠ [] ∧ x ∉ piece := by
    intro ts hts piece hpiece
    rcases List.mem_map.mp hpiece with ⟨s, hs, hpiece⟩
    rw [← hpiece]
    exact hts s hs
  have hlists := congrArg String.toList heq
  rw [String.toList_intercalate, String.toList_intercalate, hsep] at hlists
  have hmaps := intercalate_injective x more _ _ (hpieces texts h) (hpieces texts' h') hlists
  exact (List.map_inj_right (fun _ _ hsame => String.toList_inj.mp hsame)).mp hmaps

/-- A text begins as its first part does. -/
theorem head?_append (s t : String) (c : Char) (h : s.toList.head? = some c) :
    (s ++ t).toList.head? = some c := by
  rw [String.toList_append, List.head?_append, h]
  rfl

/-- A text ends as its last part does. -/
theorem getLast?_append (s t : String) (c : Char) (h : t.toList.getLast? = some c) :
    (s ++ t).toList.getLast? = some c := by
  rw [String.toList_append, List.getLast?_append, h]
  rfl

/-- A text with a mark in it has a last one. -/
theorem exists_last_of_mem (mark : Char) (cs : List Char) (h : mark ∈ cs) :
    ∃ before after, cs = before ++ mark :: after ∧ mark ∉ after := by
  rcases List.eq_append_cons_of_mem (List.mem_reverse.mpr h) with ⟨after, before, hreverse, hafter⟩
  refine ⟨before.reverse, after.reverse, ?_, fun hmem => hafter (List.mem_reverse.mp hmem)⟩
  rw [← List.reverse_reverse cs, hreverse, List.reverse_append, List.reverse_cons, List.append_assoc,
    List.singleton_append]

/-- A row of pieces ends as its last piece does. -/
theorem getLast?_intercalate {α : Type} (sep : List α) (pieces : List (List α)) (piece : List α) (c : α)
    (hpiece : pieces.getLast? = some piece) (hc : piece.getLast? = some c) :
    (sep.intercalate pieces).getLast? = some c := by
  induction pieces with
  | nil => exact absurd hpiece.symm (Option.some_ne_none piece)
  | cons first rest ih =>
      by_cases hrest : rest = []
      · rw [hrest, List.getLast?_singleton, Option.some.injEq] at hpiece
        rw [hrest, List.intercalate_singleton, hpiece, hc]
      · rw [List.getLast?_cons_of_ne_nil hrest] at hpiece
        rw [List.intercalate_cons_of_ne_nil hrest, List.getLast?_append, ih hpiece, Option.some_or]

end Text

/-- Two lists that differ in one member agree at every other place. -/
theorem getElem?_append_cons_ne {α : Type} (before after : List α) (x y : α) (i : Nat) (hi : i ≠ before.length) :
    (before ++ x :: after)[i]? = (before ++ y :: after)[i]? := by
  by_cases hlt : i < before.length
  · rw [List.getElem?_append_left hlt, List.getElem?_append_left hlt]
  · have hpos : i - before.length = i - before.length - 1 + 1 := by omega
    have hle : before.length ≤ i := by omega
    rw [List.getElem?_append_right hle, List.getElem?_append_right hle, hpos, List.getElem?_cons_succ,
      List.getElem?_cons_succ]

end CodeBehind
