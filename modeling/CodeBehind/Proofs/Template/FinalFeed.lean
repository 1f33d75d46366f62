import CodeBehind.Proofs.Template.Remainder
import CodeBehind.Proofs.Template.Scan
import Mathlib.Data.List.Find

/-!
# A line feed at the end

What a reader makes of a template with a line feed more at its end.

No number, name or operator has a line feed in it, and a string, a tag or a comment that is not closed does not
become so by one. Every step of a reader therefore does the same on the longer template as on the shorter one, and
leaves the line feed for the next step, or takes it away as white space when nothing else is left.

## Main definitions

* `withFeed`: What is left has a line feed more at its end.
* `IsFed`: One text has a line feed more at its end than another, unless both are over.

## Main results

* `tokenInTag_feed`: A token inside a tag is the same.
* `scanTag_feed`, `skipComment_feed`: A tag has the same tokens, and a comment the same end.

## Theorems

* `scanTag_of_related`: Two runs over a tag are compared step by step.
* `elim_of_rel`: Behind a tag they are compared by their ends.
* `real?_feed`, `integer?_feed`: Numbers end before the line feed.
* `splitQuoted_feed`, `operator?_feed`: Strings and operators do.
* `close?_feed`: So does a closing delimiter, or the line feed is taken away behind it.
-/

namespace CodeBehind

namespace Template

open Text (isBlank isWordChar isName)

/-! ## Numbers, strings and operators -/

/-- What was read, and what is left with a line feed more at its end. -/
def withFeed {α : Type} (found : α × List Char) : α × List Char :=
  (found.1, found.2 ++ ['\n'])

/-- Digits end before the line feed; an underscore in front of it belongs to what is left. -/
theorem splitNumber_feed (want : Char → Bool) (cs : List Char) (hfeed : want '\n' = false)
    (hmark : want '_' = false) :
    splitNumber want (cs ++ ['\n']) = ((splitNumber want cs).1, (splitNumber want cs).2 ++ ['\n']) := by
  have hstop : ¬want '\n' = true := Bool.eq_false_iff.mp hfeed
  -- The cases are those of the walk: a digit, a mark in front of a digit, any other character, and the end.
  fun_induction splitNumber want cs with
  | case1 c rest hc digits rest' hrest ih =>
      rw [hrest] at ih
      simp only [List.cons_append]
      rw [splitNumber, if_pos hc, ih]
  | case2 c rest hc =>
      simp only [List.cons_append]
      rw [splitNumber, if_neg hc]
  | case3 c rest _ hc digits rest' hrest ih =>
      rw [hrest] at ih
      simp only [List.cons_append]
      rw [splitNumber, if_pos hc, ih]
      rintro d more rfl _
      exact Bool.eq_false_iff.mp hmark hc
  | case4 c rest hplain hc =>
      simp only [List.cons_append]
      -- A mark at the very end now has the line feed behind it, which is no digit.
      cases rest with
      | nil =>
          rw [List.nil_append]
          by_cases hc' : c = '_'
          · rw [hc', splitNumber, if_neg hstop]
          · rw [splitNumber, if_neg hc]
            exact fun d more heq _ => hc' heq
      | cons d rest =>
          rw [List.cons_append, splitNumber, if_neg hc]
          exact fun e more heq _ => hplain d rest heq rfl
  | case5 =>
      rw [List.nil_append, splitNumber, if_neg hstop]
      exact fun d more heq _ => absurd heq (by decide)

theorem decimals_feed (cs : List Char) :
    decimals (cs ++ ['\n']) = ((decimals cs).1, (decimals cs).2 ++ ['\n']) := by
  have hhead : (cs ++ ['\n']).head? = some '_' ↔ cs.head? = some '_' := by
    cases cs <;> simp
  rw [decimals, decimals]
  by_cases h : cs.head? = some '_'
  · rw [if_pos h, if_pos (hhead.mpr h)]
  · rw [if_neg h, if_neg (mt hhead.mp h)]
    exact splitNumber_feed Text.isDigit cs (rfl) (rfl)

theorem fraction_feed (cs : List Char) :
    fraction (cs ++ ['\n']) = ((fraction cs).1, (fraction cs).2 ++ ['\n']) := by
  cases cs with
  | nil => rfl
  | cons c cs =>
      rw [List.cons_append]
      by_cases hc : c = '.'
      · subst hc
        simp only [fraction, decimals_feed]
        split <;> rfl
      · rw [fraction, fraction]
        · rfl
        · exact fun after heq => hc (List.cons.inj heq).1
        · exact fun after heq => hc (List.cons.inj heq).1

theorem splitSign_feed (cs : List Char) :
    splitSign (cs ++ ['\n']) = ((splitSign cs).1, (splitSign cs).2 ++ ['\n']) := by
  rcases cs with _ | ⟨c, cs⟩
  · rfl
  · by_cases hplus : c = '+'
    · subst hplus
      rfl
    · by_cases hminus : c = '-'
      · subst hminus
        rfl
      · simp [splitSign, hplus, hminus]

theorem power?_feed (cs : List Char) :
    power? (cs ++ ['\n']) = (power? cs).map fun found => (found.1, found.2.1, found.2.2 ++ ['\n']) := by
  cases cs with
  | nil => rfl
  | cons mark after =>
      rw [List.cons_append, power?, power?, splitSign_feed]
      simp only
      rw [decimals_feed]
      split
      · simp only
        split <;> rfl
      · rfl

theorem real?_feed (cs : List Char) :
    real? (cs ++ ['\n']) = (real? cs).map withFeed := by
  -- The parts are read one behind the other, and each hands the line feed on to the next.
  rw [real?, real?, decimals_feed]
  simp only
  split
  · rfl
  · rw [fraction_feed]
    simp only
    rw [power?_feed]
    cases power? (fraction (decimals cs).2).2 with
    | none =>
        simp only [Option.map_none, Option.getD_none]
        split
        · rfl
        · split <;> rfl
    | some power =>
        rcases power with ⟨negative, digits, rest⟩
        simp only [Option.map_some, Option.getD_some]
        split
        · rfl
        · split <;> rfl

theorem basedNumber?_feed (cs : List Char) :
    basedNumber? (cs ++ ['\n']) = (basedNumber? cs).map withFeed := by
  -- The three bases differ in their digits only, and a line feed is a digit of none of them.
  have hdigits (base : Nat) (isDigit : Char → Bool) (rest : List Char) (hfeed : isDigit '\n' = false)
      (hmark : isDigit '_' = false) :
      (if (splitNumber isDigit (rest ++ ['\n'])).1.isEmpty then none
        else some (numberIn base (splitNumber isDigit (rest ++ ['\n'])).1, (splitNumber isDigit (rest ++ ['\n'])).2)) =
      (if (splitNumber isDigit rest).1.isEmpty then none
        else some (numberIn base (splitNumber isDigit rest).1, (splitNumber isDigit rest).2)).map withFeed := by
    rw [splitNumber_feed isDigit rest hfeed hmark]
    split <;> rfl
  rcases cs with _ | ⟨c, _ | ⟨d, rest⟩⟩
  · rfl
  · by_cases hc : c = '0'
    · subst hc
      rfl
    · simp [basedNumber?, hc]
  · by_cases hc : c = '0'
    · subst hc
      rw [List.cons_append, List.cons_append, basedNumber?, basedNumber?]
      simp only
      split
      · exact hdigits 16 _ rest (rfl) (rfl)
      · split
        · exact hdigits 8 _ rest (by decide) (by decide)
        · split
          · exact hdigits 2 _ rest (by decide) (by decide)
          · rfl
    · simp [basedNumber?, hc]

theorem integer?_feed (cs : List Char) :
    integer? (cs ++ ['\n']) = (integer? cs).map withFeed := by
  unfold integer?
  rw [basedNumber?_feed]
  cases basedNumber? cs with
  | some found => rfl
  | none =>
      rcases cs with _ | ⟨c, cs⟩
      · rfl
      · simp only [Option.map_none, List.cons_append]
        -- A number that begins with a zero has no digits but zeros.
        by_cases hc : c = '0'
        · subst hc
          simp only
          rw [← List.cons_append, splitNumber_feed (· = '0') _ (by decide) (by decide)]
          rfl
        · simp only
          split
          · rw [← List.cons_append, splitNumber_feed Text.isDigit _ (rfl) (rfl)]
            rfl
          · rfl

theorem splitQuoted_cons (mark c : Char) (rest : List Char) (hc : c ≠ '\\') :
    splitQuoted mark (c :: rest) =
      if c = mark then some ([], rest)
      else (splitQuoted mark rest).map fun found => (c :: found.1, found.2) := by
  rw [splitQuoted]
  · exact fun heq _ => hc heq
  · exact fun d more heq _ => hc heq

/-- A character that escapes nothing, neither the end nor another character, is no backslash. -/
theorem ne_backslash (c : Char) (rest : List Char) (hend : c = '\\' → rest = [] → False)
    (hescape : ∀ d more, c = '\\' → rest = d :: more → False) : c ≠ '\\' := by
  intro heq
  cases rest with
  | nil => exact hend heq rfl
  | cons d more => exact hescape d more heq rfl

theorem splitQuoted_feed (mark : Char) (cs : List Char) (hmark : mark ≠ '\n') :
    splitQuoted mark (cs ++ ['\n']) = (splitQuoted mark cs).map withFeed := by
  -- The quotation marks that close a string come first, so a string that is closed leaves the line feed alone.
  fun_induction splitQuoted mark cs with
  | case1 => simp [splitQuoted, hmark.symm]
  | case2 => simp [splitQuoted]
  | case3 c rest ih =>
      rw [List.cons_append, List.cons_append, splitQuoted, ih, Option.map_map, Option.map_map]
      rfl
  | case4 rest hend hescape =>
      rw [List.cons_append, splitQuoted_cons _ _ _ (ne_backslash mark rest hend hescape), if_pos rfl]
      rfl
  | case5 c rest hend hescape hother ih =>
      rw [List.cons_append, splitQuoted_cons _ _ _ (ne_backslash c rest hend hescape), if_neg hother, ih,
        Option.map_map, Option.map_map]
      rfl

theorem isPrefixOf_feed (delimiter cs : List Char) (h : '\n' ∉ delimiter) :
    delimiter.isPrefixOf (cs ++ ['\n']) = delimiter.isPrefixOf cs := by
  induction delimiter generalizing cs with
  | nil => rfl
  | cons d delimiter ih =>
      rw [List.mem_cons, not_or] at h
      cases cs with
      | nil =>
          rw [List.nil_append, List.isPrefixOf_cons_cons, beq_eq_false_iff_ne.mpr (Ne.symm h.1), Bool.false_and]
          rfl
      | cons c cs => rw [List.cons_append, List.isPrefixOf, List.isPrefixOf, ih cs h.2]

theorem drop_feed (delimiter cs : List Char) (h : delimiter.isPrefixOf cs = true) :
    (cs ++ ['\n']).drop delimiter.length = cs.drop delimiter.length ++ ['\n'] :=
  List.drop_append_of_le_length (List.isPrefixOf_iff_prefix.mp h).length_le

theorem operator?_feed (cs : List Char) :
    operator? (cs ++ ['\n']) = (operator? cs).map withFeed := by
  -- The longer operators are tried first.
  have hshape : ∀ symbol ∈ longOperators, '\n' ∉ symbol.toList ∧ symbol.toList.length = 2 := by
    decide
  have hlong : (longOperators.find? fun symbol => symbol.toList.isPrefixOf (cs ++ ['\n'])) =
      longOperators.find? fun symbol => symbol.toList.isPrefixOf cs :=
    List.find?_congr fun symbol hsymbol => isPrefixOf_feed symbol.toList cs (hshape symbol hsymbol).1
  unfold operator?
  rw [hlong]
  cases hfound : longOperators.find? fun symbol => symbol.toList.isPrefixOf cs with
  | some symbol =>
      have hlength := (hshape symbol (List.mem_of_find?_eq_some hfound)).2
      have hprefix : symbol.toList.isPrefixOf cs = true := by
        have := List.find?_some hfound
        exact this
      have hdrop := drop_feed symbol.toList cs hprefix
      rw [hlength] at hdrop
      simp only [Option.map_some, withFeed, hdrop]
  | none =>
      cases cs with
      | nil => decide
      | cons c cs =>
          -- A single character is looked at alone, whatever stands behind it.
          simp only [List.cons_append]
          split <;> rfl

/-! ## Delimiters and comments -/

/-- Two texts of which the second has a line feed more at its end, unless both are over. -/
def IsFed (cs cs' : List Char) : Prop :=
  cs' = cs ++ ['\n'] ∨ cs = [] ∧ cs' = []

theorem dropWhile_feed (cs : List Char) : IsFed (cs.dropWhile isBlank) ((cs ++ ['\n']).dropWhile isBlank) := by
  rw [List.dropWhile_append]
  split
  · next hblank =>
      rw [List.isEmpty_iff] at hblank
      exact .inr ⟨hblank, rfl⟩
  · exact .inl rfl

theorem close?_feed (delimiter : List Char) (plusToo : Bool) (cs : List Char) (h : '\n' ∉ delimiter)
    (hlength : delimiter.length = 2) :
    Option.Rel IsFed ((close? delimiter false plusToo cs).map (·.2))
      ((close? delimiter false plusToo (cs ++ ['\n'])).map (·.2)) := by
  have hsigned (sign : Char) (hsign : sign ≠ '\n') : '\n' ∉ sign :: delimiter :=
    List.not_mem_cons_of_ne_of_not_mem hsign.symm h
  have hdrop (sign : Char) (hfound : (sign :: delimiter).isPrefixOf cs = true) :
      (cs ++ ['\n']).drop 3 = cs.drop 3 ++ ['\n'] := by
    have := drop_feed (sign :: delimiter) cs hfound
    rwa [List.length_cons, hlength] at this
  -- The three spellings are tried in order, and only that with a minus takes away what is blank behind it.
  rw [close?_kept, close?_kept, isPrefixOf_feed ('+' :: delimiter) cs (hsigned '+' (by decide)),
    isPrefixOf_feed ('-' :: delimiter) cs (hsigned '-' (by decide)), isPrefixOf_feed delimiter cs h]
  split
  · next hfound => exact .some (.inl (hdrop '+' (Bool.and_eq_true_iff.mp hfound).2))
  split
  · next hfound =>
      rw [hdrop '-' hfound]
      exact .some (dropWhile_feed _)
  split
  · next hfound =>
      have hafter := drop_feed delimiter cs hfound
      rw [hlength] at hafter
      exact .some (.inl hafter)
  · exact .none

theorem closeTag?_feed (tag : Tag) (cs : List Char) :
    Option.Rel IsFed ((closeTag? .verbatim tag cs).map (·.2))
      ((closeTag? .verbatim tag (cs ++ ['\n'])).map (·.2)) := by
  cases tag with
  | print => exact close?_feed ['\x7d', '\x7d'] false cs (by decide) rfl
  | statement => exact close?_feed ['%', '\x7d'] true cs (by decide) rfl

theorem skipComment_feed (cs : List Char) :
    Option.Rel IsFed ((skipComment .verbatim cs).map (·.2)) ((skipComment .verbatim (cs ++ ['\n'])).map (·.2)) := by
  induction cs with
  | nil => exact .none
  | cons c cs ih =>
      -- Where the comment ends for one reader it ends for the other, and else both go on.
      have hclose := close?_feed ['#', '\x7d'] true (c :: cs) (by decide) rfl
      rw [List.cons_append] at hclose ⊢
      rw [skipComment_cons, skipComment_cons, Option.map_or, Option.map_or,
        show Spacing.verbatim.dropsFeed = false from rfl]
      generalize (close? ['#', '\x7d'] false true (c :: cs)).map (·.2) = found at hclose ⊢
      generalize (close? ['#', '\x7d'] false true (c :: (cs ++ ['\n']))).map (·.2) = found' at hclose ⊢
      cases hclose with
      | some h => exact .some h
      | none => exact ih

/-! ## Tokens -/

theorem takeWhile_feed (p : Char → Bool) (cs : List Char) (h : p '\n' = false) :
    (cs ++ ['\n']).takeWhile p = cs.takeWhile p := by
  induction cs with
  | nil => rw [List.nil_append, List.takeWhile_cons_of_neg (Bool.eq_false_iff.mp h), List.takeWhile_nil]
  | cons c cs ih =>
      rw [List.cons_append, List.takeWhile_cons, List.takeWhile_cons, ih]

theorem dropWhile_feed_of_ne (p : Char → Bool) (cs : List Char) (h : p '\n' = false) :
    (cs ++ ['\n']).dropWhile p = cs.dropWhile p ++ ['\n'] := by
  induction cs with
  | nil =>
      rw [List.nil_append, List.dropWhile_cons_of_neg (Bool.eq_false_iff.mp h), List.dropWhile_nil, List.nil_append]
  | cons c cs ih =>
      rw [List.cons_append, List.dropWhile_cons, List.dropWhile_cons, ih]
      split <;> rfl

theorem quoted_feed (c : Char) (rest : List Char) :
    (if c = '\'' || c = '"' then splitQuoted c (rest ++ ['\n']) else none) =
      (if c = '\'' || c = '"' then splitQuoted c rest else none).map withFeed := by
  split
  · next hc =>
      refine splitQuoted_feed c rest ?_
      rintro rfl
      exact absurd hc (by decide)
  · rfl

theorem tokenInTag_feed (total : Nat) (cs : List Char) (hcs : cs ≠ []) :
    (tokenInTag total cs).1 = (tokenInTag (total + 1) (cs ++ ['\n'])).1 ∧
      IsFed (tokenInTag total cs).2 (tokenInTag (total + 1) (cs ++ ['\n'])).2 := by
  cases cs with
  | nil => exact absurd rfl hcs
  | cons c rest =>
      have hword : isWordChar '\n' = false := by decide +kernel
      have hreal := real?_feed (c :: rest)
      have hinteger := integer?_feed (c :: rest)
      have hoperator := operator?_feed (c :: rest)
      have htake := takeWhile_feed isWordChar (c :: rest) hword
      have hdrop := dropWhile_feed_of_ne isWordChar (c :: rest) hword
      rw [List.cons_append] at hreal hinteger hoperator htake hdrop ⊢
      -- The kinds of tokens are tried in the order of the reader, and each one is known to end before the line feed.
      unfold tokenInTag
      simp only
      rw [hreal, hinteger, hoperator, htake, hdrop, quoted_feed]
      split
      · exact ⟨rfl, dropWhile_feed rest⟩
      · rcases real? (c :: rest) with _ | ⟨value | fault, rest'⟩
        · rcases integer? (c :: rest) with _ | ⟨value | fault, rest'⟩
          · simp only [Option.map_none]
            split
            · split
              · exact ⟨rfl, .inl rfl⟩
              · exact ⟨rfl, .inr ⟨rfl, rfl⟩⟩
            · rcases (if c = '\'' || c = '"' then splitQuoted c rest else none) with _ | ⟨inner, rest'⟩
              · rcases operator? (c :: rest) with _ | ⟨symbol, rest'⟩
                · simp only [Option.map_none, List.length_cons, List.length_append, List.length_nil, Nat.zero_add,
                    Nat.add_sub_add_right]
                  exact ⟨trivial, .inr ⟨rfl, rfl⟩⟩
                · exact ⟨rfl, .inl rfl⟩
              · simp only [Option.map_some, withFeed]
                split
                · exact ⟨rfl, .inl rfl⟩
                · exact ⟨rfl, .inr ⟨rfl, rfl⟩⟩
          · exact ⟨rfl, .inr ⟨rfl, rfl⟩⟩
          · exact ⟨rfl, .inl rfl⟩
        · exact ⟨rfl, .inr ⟨rfl, rfl⟩⟩
        · exact ⟨rfl, .inl rfl⟩

/-! ## Two runs over a tag -/

theorem rel_of_map_eq {α β : Type} {f : α → β} {x y : Option α} (h : x.map f = y.map f) :
    Option.Rel (fun a b => f a = f b) x y := by
  cases x with
  | none => rw [Option.map_eq_none_iff.mp h.symm]; exact .none
  | some a =>
      rcases Option.map_eq_some_iff.mp h.symm with ⟨b, rfl, hb⟩
      exact .some hb.symm

theorem rel_of_rel_map {α β : Type} {r : β → β → Prop} {f : α → β} {x y : Option α}
    (h : Option.Rel r (x.map f) (y.map f)) : Option.Rel (fun a b => r (f a) (f b)) x y := by
  cases x with
  | none =>
      cases y with
      | none => exact .none
      | some b => cases h
  | some a =>
      cases y with
      | none => cases h
      | some b => exact .some (by cases h with | some h => exact h)

/-- What is made of related things is the same if it is the same for any two that are related. -/
theorem elim_of_rel {α β : Type} {r : α → α → Prop} {x y : Option α} (h : Option.Rel r x y) (missing : β)
    {f g : α → β} (hfg : ∀ a ∈ x, ∀ b, r a b → f a = g b) : x.elim missing f = y.elim missing g := by
  cases h with
  | some hab => exact hfg _ rfl _ hab
  | none => rfl

/-- Two runs over a tag have the same tokens and related ends if every step has, and if the second run finds nothing
    where the first has nothing left. -/
theorem scanTag_of_related {spacing spacing' : Spacing} {total total' : Nat} {tag : Tag}
    (same : List Char → List Char → Prop) (ends : Bool × List Char → Bool × List Char → Prop)
    (hstep : ∀ cs cs', same cs cs' → cs ≠ [] → cs' ≠ [] ∧
      Option.Rel ends (closeTag? spacing tag cs) (closeTag? spacing' tag cs') ∧
      (tokenInTag total cs).1 = (tokenInTag total' cs').1 ∧ same (tokenInTag total cs).2 (tokenInTag total' cs').2)
    (hover : ∀ cs' fuel opened, same [] cs' → scanTag spacing' total' tag fuel opened cs' = ([], none))
    (fuel : Nat) (opened : List String) (cs cs' : List Char) (h : same cs cs') :
    (scanTag spacing total tag fuel opened cs).1 = (scanTag spacing' total' tag fuel opened cs').1 ∧
      Option.Rel ends (scanTag spacing total tag fuel opened cs).2 (scanTag spacing' total' tag fuel opened cs').2 := by
  -- The induction is on the count, which is the same for both runs, so neither can stop before the other.
  induction fuel generalizing opened cs cs' with
  | zero => exact ⟨rfl, .none⟩
  | succ fuel ih =>
      cases cs with
      | nil =>
          rw [hover cs' (fuel + 1) opened h]
          exact ⟨rfl, .none⟩
      | cons c cs =>
          rcases hstep (c :: cs) cs' h (List.cons_ne_nil c cs) with ⟨hcs', hclose, htokens, hrest⟩
          rcases List.exists_cons_of_ne_nil hcs' with ⟨c', more, rfl⟩
          -- Inside of brackets neither run looks for the end of the tag.
          have hfound : Option.Rel ends (if opened.isEmpty then closeTag? spacing tag (c :: cs) else none)
              (if opened.isEmpty then closeTag? spacing' tag (c' :: more) else none) := by
            split
            · exact hclose
            · exact .none
          rw [scanTag_step, scanTag_step]
          generalize (if opened.isEmpty then closeTag? spacing tag (c :: cs) else none) = found at hfound ⊢
          generalize (if opened.isEmpty then closeTag? spacing' tag (c' :: more) else none) = found' at hfound ⊢
          cases hfound with
          | some hends => exact ⟨rfl, .some hends⟩
          | none =>
              simp only
              rw [← htokens]
              split
              · exact ⟨rfl, .none⟩
              · next opened' _ =>
                  rcases ih opened' _ _ hrest with ⟨hmore, hafter⟩
                  exact ⟨congrArg ((tokenInTag total (c :: cs)).1 ++ ·) hmore, hafter⟩

/-! ## Tags -/

/-- A tag does not end with the text of a template, and a line feed behind it is passed over. -/
theorem scanTag_lineFeed (spacing : Spacing) (total : Nat) (tag : Tag) (fuel : Nat) (opened : List String) :
    scanTag spacing total tag fuel opened ['\n'] = ([], none) := by
  cases fuel with
  | zero => rfl
  | succ fuel =>
      have hclose : closeTag? spacing tag ['\n'] = none := by
        cases tag <;> rfl
      have hpass : tokenInTag total ['\n'] = ([], []) := by
        rw [tokenInTag, if_pos (by decide), List.dropWhile_nil]
      rw [scanTag_step, hclose, ite_self, hpass]
      simp only
      cases fuel <;> rfl

theorem scanTag_feed (total : Nat) (tag : Tag) (fuel : Nat) (opened : List String) (cs cs' : List Char)
    (h : IsFed cs cs') :
    (scanTag .verbatim total tag fuel opened cs).1 = (scanTag .verbatim (total + 1) tag fuel opened cs').1 ∧
      Option.Rel (fun after after' => IsFed after.2 after'.2) (scanTag .verbatim total tag fuel opened cs).2
        (scanTag .verbatim (total + 1) tag fuel opened cs').2 := by
  refine scanTag_of_related IsFed _ ?_ ?_ fuel opened cs cs' h
  · rintro cs cs' (rfl | ⟨rfl, _⟩) hcs
    · have hcs' : cs ++ ['\n'] ≠ [] := List.append_ne_nil_of_left_ne_nil hcs _
      exact ⟨hcs', rel_of_rel_map (closeTag?_feed tag cs), tokenInTag_feed total cs hcs⟩
    · exact absurd rfl hcs
  · rintro cs' fuel opened (rfl | ⟨_, rfl⟩)
    · exact scanTag_lineFeed .verbatim (total + 1) tag fuel opened
    · cases fuel <;> rfl

theorem opening?_feed (c : Char) (cs : List Char) : opening? (c :: (cs ++ ['\n'])) = opening? (c :: cs) := by
  by_cases hc : c = '\x7b'
  · subst hc
    cases cs with
    | nil => rfl
    | cons d cs =>
        rw [List.cons_append]
        simp only [opening?]
        split <;> split <;> simp_all
  · rw [opening?_of_ne c _ hc, opening?_of_ne c _ hc]

theorem splitAtOpening_append_feed (cs : List Char) :
    (splitAtOpening (cs ++ ['\n'])).2 = (splitAtOpening cs).2.map withFeed := by
  induction cs with
  | nil => rfl
  | cons c cs ih =>
      rw [List.cons_append, splitAtOpening, splitAtOpening, opening?_feed]
      cases hopen : opening? (c :: cs) with
      | none => exact ih
      | some opening =>
          -- An opening has two characters, so the line feed is not the first thing behind its first one.
          cases cs with
          | nil => simp [opening?] at hopen
          | cons d cs => rfl

theorem skipSign_feed (rest : List Char) : skipSign (rest ++ ['\n']) = skipSign rest ++ ['\n'] := by
  cases rest with
  | nil => rfl
  | cons c rest =>
      rw [skipSign, skipSign, sign?, sign?, List.cons_append, List.head?_cons, List.head?_cons]
      split <;> rfl

end Template

end CodeBehind
