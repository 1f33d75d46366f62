import CodeBehind.Proofs.Text.LowerCase

/-!
# The final sigma

When a text is lowered in another way because of what stands before it.

Lowering looks back for one letter only, the capital sigma, and what it looks for is the nearest character that counts for
case. So two texts lower what follows them alike if the same can be said of that character. If one of them ends with a
cased letter and the other does not, they can differ in one place only: in a sigma with nothing before it that counts,
because behind such a character the two are alike again. And they do differ there if no cased letter comes after it, for
with one the sigma is never final.

Putting a text behind another one therefore keeps its lower form, except for a sigma that opens it and becomes final
by the text before. Nothing can make up for that difference, since what comes after it is as long as it was.

## Main definitions

* `OpensWithSigma`: Texts with a sigma that depends on what stands before them.
* `TurnsFinal`: A text behind which such a sigma becomes final.

## Main results

* `suffix_lower_append_iff`: The lower form of a text put together ends with that of its second part, or the sigma of
  that part has become final.

## Theorems

* `meetsCased_cons`: The nearest character that counts for case.
* `lowerFrom_congr`, `lowerFrom_eq_iff`: Texts that are lowered alike behind two others.
* `length_lowerFrom`: How long a lower form is does not depend on what stands before.
-/

namespace CodeBehind

namespace Text

/-- A text has a sigma on which it does not decide itself: nothing that counts for case stands before it, and no cased
    letter is met after it. -/
def OpensWithSigma (cs : List Char) : Prop :=
  ∃ passed after, cs = passed ++ 'Σ' :: after ∧ (∀ c ∈ passed, isCaseIgnorable c = true) ∧ meetsCased after = false

/-- The sigma of a text becomes final behind another one, which ends with a cased letter if what does not count is
    passed over. -/
def TurnsFinal (front rest : List Char) : Prop :=
  meetsCased front.reverse = true ∧ OpensWithSigma rest

/-! ## Characters that count -/

theorem meetsCased_cons (c : Char) (cs : List Char) :
    meetsCased (c :: cs) = if isCaseIgnorable c then meetsCased cs else isCased c := by
  rw [meetsCased, List.dropWhile_cons]
  cases isCaseIgnorable c <;> rfl

theorem isCaseIgnorable_sigma : isCaseIgnorable 'Σ' = false := by
  decide +kernel

/-- What does not count at the beginning of a text has no part in it. -/
theorem opensWithSigma_cons_of_ignorable (c : Char) (cs : List Char) (h : isCaseIgnorable c = true) :
    OpensWithSigma (c :: cs) ↔ OpensWithSigma cs := by
  constructor
  · rintro ⟨passed, after, heq, hpassed, hafter⟩
    cases passed with
    | nil =>
        rw [List.nil_append, List.cons.injEq] at heq
        rw [heq.1, isCaseIgnorable_sigma] at h
        exact Bool.noConfusion h
    | cons d passed =>
        rw [List.cons_append, List.cons.injEq] at heq
        exact ⟨passed, after, heq.2, (List.forall_mem_cons.mp hpassed).2, hafter⟩
  · rintro ⟨passed, after, rfl, hpassed, hafter⟩
    exact ⟨c :: passed, after, rfl, List.forall_mem_cons.mpr ⟨h, hpassed⟩, hafter⟩

/-- The first character that counts must be the sigma. -/
theorem opensWithSigma_cons_of_counting (c : Char) (cs : List Char) (h : isCaseIgnorable c = false) :
    OpensWithSigma (c :: cs) ↔ c = 'Σ' ∧ meetsCased cs = false := by
  constructor
  · rintro ⟨passed, after, heq, hpassed, hafter⟩
    cases passed with
    | nil =>
        rw [List.nil_append, List.cons.injEq] at heq
        exact ⟨heq.1, heq.2 ▸ hafter⟩
    | cons d passed =>
        rw [List.cons_append, List.cons.injEq] at heq
        rw [heq.1, (List.forall_mem_cons.mp hpassed).1] at h
        exact Bool.noConfusion h
  · rintro ⟨rfl, hcs⟩
    exact ⟨[], cs, rfl, List.forall_mem_nil _, hcs⟩

/-! ## What stands before -/

theorem lowerAt_sigma (before after : List Char) :
    lowerAt before 'Σ' after = if meetsCased before && !meetsCased after then ['ς'] else ['σ'] := by
  rw [lowerAt, if_neg (by decide), if_pos rfl]

/-- For every character but the sigma it does not matter what stands before it. -/
theorem lowerAt_of_ne (before other : List Char) (c : Char) (after : List Char) (h : c ≠ 'Σ') :
    lowerAt before c after = lowerAt other c after := by
  rw [lowerAt, lowerAt, if_neg h, if_neg h]

/-- Behind texts that meet a cased letter alike, a text is lowered alike. -/
theorem lowerFrom_congr (before other cs : List Char) (h : meetsCased before = meetsCased other) :
    lowerFrom before cs = lowerFrom other cs := by
  induction cs generalizing before other with
  | nil => rfl
  | cons c rest ih =>
      have hat : lowerAt before c rest = lowerAt other c rest := by rw [lowerAt, lowerAt, h]
      have hnext : meetsCased (c :: before) = meetsCased (c :: other) := by
        rw [meetsCased_cons, meetsCased_cons, h]
      rw [lowerFrom, lowerFrom, hat, ih _ _ hnext]

theorem length_lowerAt (before other : List Char) (c : Char) (after : List Char) :
    (lowerAt before c after).length = (lowerAt other c after).length := by
  by_cases hsigma : c = 'Σ'
  · -- Both forms of the sigma are one letter.
    have hone : ∀ context, (lowerAt context 'Σ' after).length = 1 := by
      intro context
      rw [lowerAt_sigma]
      split <;> rfl
    rw [hsigma, hone, hone]
  · rw [lowerAt_of_ne before other c after hsigma]

/-- How long a lower form is does not depend on what stands before the text. -/
theorem length_lowerFrom (before other cs : List Char) :
    (lowerFrom before cs).length = (lowerFrom other cs).length := by
  induction cs generalizing before other with
  | nil => rfl
  | cons c rest ih =>
      rw [lowerFrom, lowerFrom, List.length_append, List.length_append, length_lowerAt before other,
        ih (c :: before) (c :: other)]

/-- Behind a text that meets a cased letter and one that does not, a text is lowered alike unless its sigma depends on
    them. -/
theorem lowerFrom_eq_iff (before other cs : List Char) (hcased : meetsCased before = true)
    (hother : meetsCased other = false) : lowerFrom before cs = lowerFrom other cs ↔ ¬OpensWithSigma cs := by
  induction cs generalizing before other with
  | nil =>
      refine iff_of_true rfl ?_
      rintro ⟨passed, after, heq, _⟩
      exact List.append_ne_nil_of_right_ne_nil passed (List.cons_ne_nil _ _) heq.symm
  | cons c rest ih =>
      rw [lowerFrom, lowerFrom]
      cases hcounts : isCaseIgnorable c with
      | true =>
          have hne : c ≠ 'Σ' := fun heq => by
            rw [heq, isCaseIgnorable_sigma] at hcounts
            exact Bool.noConfusion hcounts
          have hbefore : meetsCased (c :: before) = true := by rw [meetsCased_cons, if_pos hcounts, hcased]
          have hafter : meetsCased (c :: other) = false := by rw [meetsCased_cons, if_pos hcounts, hother]
          rw [lowerAt_of_ne before other c rest hne, List.append_cancel_left_eq, ih _ _ hbefore hafter,
            opensWithSigma_cons_of_ignorable c rest hcounts]
      | false =>
          -- From here on the two contexts say the same.
          have hnext : meetsCased (c :: before) = meetsCased (c :: other) := by
            rw [meetsCased_cons, meetsCased_cons, hcounts]
            rfl
          rw [lowerFrom_congr _ _ rest hnext, List.append_cancel_right_eq,
            opensWithSigma_cons_of_counting c rest hcounts]
          by_cases hsigma : c = 'Σ'
          · rw [hsigma, lowerAt_sigma, lowerAt_sigma, hcased, hother]
            cases meetsCased rest with
            | true => exact iff_of_true rfl fun hopens => Bool.noConfusion hopens.2
            | false => exact iff_of_false (by decide) fun hopens => hopens ⟨rfl, rfl⟩
          · exact iff_of_true (lowerAt_of_ne before other c rest hsigma) fun hopens => hsigma hopens.1

/-! ## Texts put together -/

/-- The lower form of a text put together ends with the lower form of its second part, unless the sigma of that part
    becomes final behind the first one. -/
theorem suffix_lower_append_iff (front rest : String) :
    (lower rest).toList <:+ (lower (front ++ rest)).toList ↔ ¬TurnsFinal front.toList rest.toList := by
  rcases exists_lowerFrom_append [] front.toList rest.toList with ⟨lowered, hlowered⟩
  rw [List.append_nil] at hlowered
  rw [lower, lower, String.toList_ofList, String.toList_ofList, String.toList_append, hlowered]
  have hlength := length_lowerFrom [] front.toList.reverse rest.toList
  have hends : lowerFrom [] rest.toList <:+ lowered ++ lowerFrom front.toList.reverse rest.toList ↔
      lowerFrom front.toList.reverse rest.toList = lowerFrom [] rest.toList := by
    constructor
    · intro hsuffix
      exact (List.IsSuffix.eq_of_length (List.suffix_of_suffix_length_le hsuffix (List.suffix_append _ _)
        (Nat.le_of_eq hlength)) hlength).symm
    · intro heq
      rw [heq]
      exact List.suffix_append _ _
  rw [hends, TurnsFinal]
  cases hmeets : meetsCased front.toList.reverse with
  | true => rw [lowerFrom_eq_iff _ [] _ hmeets rfl, and_iff_right rfl]
  | false => exact iff_of_true (lowerFrom_congr _ _ _ hmeets) fun hturns => Bool.noConfusion hturns.1

end Text

end CodeBehind
