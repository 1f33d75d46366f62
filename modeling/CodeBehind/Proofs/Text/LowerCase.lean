import CodeBehind.Text.LowerCase
import Mathlib.Data.List.Basic

/-!
# Lower case

Which texts have a given end in lower case.

Lowering goes from left to right, and a character becomes one character or two. Where a character becomes two, or one
that depends on its neighbours, what it ends with is a letter that comes from nothing else. So an end that has no such
letter can be followed back character by character: it is the end of a text that was lowered one by one.

A single character is lowered by a table of runs. A run sends a character to another one at a fixed distance, so for
each run there is one character at most that it sends to a given one, and whether it does can be asked of the table.
For the letters of `plainChars` only one run does, the one for their capitals. Two letters of the alphabet are not among
them: the i, which also comes from a capital with a dot and then is not alone, and the k, which is the lower form of the
sign for kelvin too.

## Main definitions

* `plainChars`: The dot, and the letters that come from themselves and their capitals only.

## Main results

* `suffix_lowerFrom_iff`, `suffix_lower_iff`: The ends that a text has in lower case.

## Theorems

* `lowerChar_eq_iff`: What a plain letter is the lower form of.
* `lowerAt_cases`: A character is lowered by itself, or ends with no plain letter.
* `lowerFrom_append`, `lowerFrom_of_plain`: Texts put together, and texts lowered one by one.
-/

namespace CodeBehind

namespace Text

/-- The dot, and the letters that are the lower forms of themselves and of their capitals only. -/
def plainChars : List Char :=
  ".abcdefghjlmnopqrstuvwxyz".toList

/-! ## Single characters -/

theorem lowerChar_of_mem_plainChars (t : Char) (h : t ∈ plainChars) :
    lowerChar t = t ∧ lowerChar t.toUpper = t := by
  have hall : plainChars.all (fun t => lowerChar t == t && lowerChar t.toUpper == t) = true := by decide
  have ht := List.all_eq_true.mp hall t h
  rwa [Bool.and_eq_true, beq_iff_eq, beq_iff_eq] at ht

/-- No run but that of the capitals sends a character to a plain letter. -/
theorem toUpper_of_covers (run : CaseRun) (hrun : run ∈ lowerRuns) (t : Char) (ht : t ∈ plainChars) (n : Nat)
    (hcovers : run.covers n = true) (hsent : (n : Int) + run.offset = t.toNat) : n = t.toUpper.toNat := by
  have hall : lowerRuns.all (fun run => plainChars.all fun t =>
      !run.covers (t.toNat - run.offset).toNat || (t.toNat - run.offset).toNat == t.toUpper.toNat) = true := by
    decide
  have hrunOnly := List.all_eq_true.mp (List.all_eq_true.mp hall run hrun) t ht
  -- The character is told by the run and the letter it is sent to.
  have hn : n = ((t.toNat : Int) - run.offset).toNat := by omega
  rw [hn] at hcovers ⊢
  rwa [hcovers, Bool.not_true, Bool.false_or, beq_iff_eq] at hrunOnly

theorem toNat_ne_zero (t : Char) (ht : t ∈ plainChars) : t.toNat ≠ 0 := by
  have hall : plainChars.all (fun t => t.toNat != 0) = true := by decide
  exact bne_iff_ne.mp (List.all_eq_true.mp hall t ht)

/-- A code point that gives a character other than the null character is that of the character. -/
theorem eq_toNat_of_ofNat_eq (n : Nat) (t : Char) (h : Char.ofNat n = t) (ht : t.toNat ≠ 0) : n = t.toNat := by
  by_cases hvalid : n.isValidChar
  · have hchar : Char.ofNat n = Char.ofNatAux n hvalid := dif_pos hvalid
    rw [← h, hchar]
    rfl
  · have hchar : (Char.ofNat n).toNat = 0 := by
      rw [Char.ofNat, dif_neg hvalid]
      rfl
    rw [← h, hchar] at ht
    exact absurd rfl ht

/-- A plain letter is the lower form of itself and of its capital, and of nothing else. -/
theorem lowerChar_eq_iff (c t : Char) (ht : t ∈ plainChars) : lowerChar c = t ↔ c = t ∨ c = t.toUpper := by
  constructor
  · intro h
    rw [lowerChar] at h
    cases hfind : lowerRuns.find? (·.covers c.toNat) with
    | none =>
        rw [hfind] at h
        exact Or.inl h
    | some run =>
        rw [hfind] at h
        have hne := toNat_ne_zero t ht
        have hsent := eq_toNat_of_ofNat_eq _ t h hne
        have hcovers : run.covers c.toNat = true := by simpa only using List.find?_some hfind
        have hupper := toUpper_of_covers run (List.mem_of_find?_eq_some hfind) t ht c.toNat hcovers (by omega)
        exact Or.inr (Char.toNat_inj.mp hupper)
  · rintro (rfl | rfl)
    · exact (lowerChar_of_mem_plainChars _ ht).1
    · exact (lowerChar_of_mem_plainChars t ht).2

/-- A character is lowered by itself, or what it becomes ends with no plain letter; then it has none as its own lower
    form either. -/
theorem lowerAt_cases (before : List Char) (c : Char) (after : List Char) :
    lowerAt before c after = [lowerChar c] ∨
      lowerChar c ∉ plainChars ∧ ∃ init last, lowerAt before c after = init ++ [last] ∧ last ∉ plainChars := by
  rw [lowerAt]
  by_cases hdotted : c = 'İ'
  · -- The dot of the capital is left over as a mark.
    rw [if_pos hdotted, hdotted]
    exact Or.inr ⟨by decide, ['i'], '\u0307', rfl, by decide⟩
  rw [if_neg hdotted]
  by_cases hsigma : c = 'Σ'
  · -- Which of the two forms it takes does not matter.
    rw [if_pos hsigma, hsigma]
    refine Or.inr ⟨by decide, [], ?_⟩
    by_cases hfinal : (meetsCased before && !meetsCased after) = true
    · rw [if_pos hfinal]
      exact ⟨'ς', rfl, by decide⟩
    · rw [if_neg hfinal]
      exact ⟨'σ', rfl, by decide⟩
  · rw [if_neg hsigma]
    exact Or.inl rfl

/-! ## Whole texts -/

/-- What comes later is lowered behind what comes first. -/
theorem exists_lowerFrom_append (before front rest : List Char) :
    ∃ lowered, lowerFrom before (front ++ rest) = lowered ++ lowerFrom (front.reverse ++ before) rest := by
  induction front generalizing before with
  | nil => exact ⟨[], rfl⟩
  | cons c front ih =>
      rcases ih (c :: before) with ⟨lowered, hlowered⟩
      refine ⟨lowerAt before c (front ++ rest) ++ lowered, ?_⟩
      rw [List.cons_append, lowerFrom, hlowered, List.reverse_cons, List.append_assoc, List.append_assoc,
        List.singleton_append]

/-- A text whose characters all become plain letters is lowered one by one. -/
theorem lowerFrom_of_plain (before cs : List Char) (h : ∀ c ∈ cs.map lowerChar, c ∈ plainChars) :
    lowerFrom before cs = cs.map lowerChar := by
  induction cs generalizing before with
  | nil => rfl
  | cons c rest ih =>
      rw [List.map_cons, List.forall_mem_cons] at h
      rcases lowerAt_cases before c rest with hsingle | ⟨hnot, _⟩
      · rw [lowerFrom, hsingle, ih (c :: before) h.2, List.map_cons, List.singleton_append]
      · exact absurd h.1 hnot

/-- A text that has only plain letters in lower case was lowered one by one. -/
theorem lowerFrom_eq_map (before cs : List Char) (h : ∀ c ∈ lowerFrom before cs, c ∈ plainChars) :
    lowerFrom before cs = cs.map lowerChar := by
  induction cs generalizing before with
  | nil => rfl
  | cons c rest ih =>
      rw [lowerFrom, List.forall_mem_append] at h
      rcases lowerAt_cases before c rest with hsingle | ⟨_, init, last, hend, hlast⟩
      · rw [lowerFrom, hsingle, ih (c :: before) h.2, List.map_cons, List.singleton_append]
      · rw [hend] at h
        exact absurd (h.1 last List.mem_concat_self) hlast

/-- An end of what a character becomes that has only plain letters is empty or all of it. -/
theorem suffix_lowerAt (before : List Char) (c : Char) (after ending : List Char)
    (hending : ∀ d ∈ ending, d ∈ plainChars) (h : ending <:+ lowerAt before c after) :
    ending = [] ∨ ending = [lowerChar c] := by
  rcases lowerAt_cases before c after with hsingle | ⟨_, init, last, hend, hlast⟩
  · rw [hsingle, List.suffix_cons_iff, List.suffix_nil] at h
    exact h.symm
  · rw [hend] at h
    rcases List.suffix_concat_iff.mp h with hnil | ⟨front, hfront, _⟩
    · exact Or.inl hnil
    · rw [hfront] at hending
      exact absurd (hending last List.mem_concat_self) hlast

/-- A text has an end of plain letters in lower case if it ends with characters that have these as their lower
    forms, one by one. -/
theorem suffix_lowerFrom_iff (before cs ending : List Char) (hending : ∀ c ∈ ending, c ∈ plainChars) :
    ending <:+ lowerFrom before cs ↔ ∃ last, last <:+ cs ∧ last.map lowerChar = ending := by
  constructor
  · intro h
    induction cs generalizing before with
    | nil =>
        rw [lowerFrom, List.suffix_nil] at h
        exact ⟨[], List.suffix_refl [], h.symm⟩
    | cons c rest ih =>
        rw [lowerFrom] at h
        rcases List.suffix_or_suffix_of_suffix h (List.suffix_append _ (lowerFrom (c :: before) rest)) with hin | hout
        · -- The end lies within what the rest becomes.
          rcases ih (c :: before) hin with ⟨last, hlast, hmap⟩
          exact ⟨last, hlast.trans (List.suffix_cons c rest), hmap⟩
        · -- The end reaches into what the first character becomes.
          rcases hout with ⟨part, rfl⟩
          have hpart : part <:+ lowerAt before c rest := (List.suffix_append_inj_of_length_eq rfl).mp h |>.1
          rw [List.forall_mem_append] at hending
          have hrest := lowerFrom_eq_map (c :: before) rest hending.2
          rcases suffix_lowerAt before c rest part hending.1 hpart with hnil | hsingle
          · exact ⟨rest, List.suffix_cons c rest, by rw [hnil, hrest, List.nil_append]⟩
          · exact ⟨c :: rest, List.suffix_refl _, by rw [hsingle, hrest, List.map_cons, List.singleton_append]⟩
  · rintro ⟨last, ⟨front, rfl⟩, hmap⟩
    rcases exists_lowerFrom_append before front last with ⟨lowered, hlowered⟩
    rw [hlowered, lowerFrom_of_plain _ last (by rwa [hmap]), hmap]
    exact List.suffix_append lowered ending

/-- The ends of plain letters that a text has in lower case. -/
theorem suffix_lower_iff (s : String) (ending : List Char) (hending : ∀ c ∈ ending, c ∈ plainChars) :
    ending <:+ (lower s).toList ↔ ∃ last, last <:+ s.toList ∧ last.map lowerChar = ending := by
  rw [lower, String.toList_ofList]
  exact suffix_lowerFrom_iff [] s.toList ending hending

end Text

end CodeBehind
