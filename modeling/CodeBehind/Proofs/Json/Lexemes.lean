import CodeBehind.Proofs.Json.Grammar
import CodeBehind.Proofs.Json.Strings
import Mathlib.Data.List.TakeWhile

/-!
# The lexemes of JSON

The strings and the numbers of the grammar are what the reader takes for strings and numbers.

There are two directions for each. What the grammar has is read up to its end, whatever may follow it, and what is read
is something that the grammar has. The reader and the grammar go about it differently in two places. The reader finds
out about a pair of escapes from the first half and then looks ahead for the second; the grammar says of a first half
that stands alone what does not follow it. And the reader takes as much of a number as it can, which is why something
must be known about the text behind a number (`EndsNumber`), while a string ends itself.

A number is read part by part, and so is it proved: the sign, the whole part, the fraction and the power of ten each
have one lemma for either direction.

## Main definitions

* `EndsNumber`: A text in which a number does not go on.
* `valueOf`: What the parts of a number are worth.
* `unlessLong`, `excess`, `IsExcess`: What becomes of a number with too many digits for the reader.

## Main results

* `string_of_spells`, `exists_spells_of_string`: Strings.
* `number_whole`, `number_of_numeral`, `exists_numeral_of_number`: Numbers.

## Theorems

* `escape_of_short`, `escape_of_unit`, `escape_of_pair`: The escapes are read.
* `escape_cases`, `stringFrom_cases`: What is read as an escape, and as a part of a string.
* `splitWhole_append`, `fraction_of_fractionText`, `power_of_powerText`: The parts of a number are read.
* `splitWhole_spec`, `exists_fractionText`, `exists_powerText`: What is read are parts of a number.
-/

namespace CodeBehind

namespace Json

/-- A step that returns has been preceded by one that returned. -/
theorem ok_of_bind {ε α β : Type} (x : Except ε α) (f : α → Except ε β) (b : β) (h : x >>= f = .ok b) :
    ∃ a, x = .ok a ∧ f a = .ok b := by
  cases x with
  | error fault => cases h
  | ok a => exact ⟨a, rfl, h⟩

/-! ## Strings -/

/-- Behind what is between two quotes there is always a character. -/
theorem exists_cons_of_quote (w rest : List Char) : ∃ c cs, w ++ '"' :: rest = c :: cs :=
  List.exists_cons_of_ne_nil (List.append_ne_nil_of_right_ne_nil w (List.cons_ne_nil _ _))

theorem ne_of_shortEscape? (mark c : Char) (h : shortEscape? mark = some c) : mark ≠ 'u' := by
  rintro rfl
  exact absurd h (Option.some_ne_none c).symm

/-- What is between two quotes begins with the escape of a second half, or no second half is found there. -/
theorem lowHalf?_of_spells (w rest : List Char) (t : List Point) (h : Spells w t) (halone : ¬BeginsWithLowHalf w) :
    lowHalf? (w ++ '"' :: rest) = .ok none := by
  -- A second half begins with a backslash and the letter of a unit, so only the last two cases are near to one.
  cases h with
  | nil => rfl
  | plain c w t hquote hbackslash hcontrol h =>
      rw [List.cons_append, lowHalf?]
      exact fun a b c' d e more heq => hbackslash (List.cons.inj heq).1
  | short mark c w t hmark h =>
      have hne : mark ≠ 'u' := ne_of_shortEscape? mark c hmark
      rw [List.cons_append, List.cons_append, lowHalf?]
      exact fun a b c' d e more heq => hne (List.cons.inj (List.cons.inj heq).2).1
  | unit a b c d n w t hn hunit h =>
      rcases exists_cons_of_quote w rest with ⟨e, more, hmore⟩
      simp only [List.cons_append, hmore, lowHalf?, hn]
      have hlow : Point.isLowHalf n = false := by
        rw [Bool.eq_false_iff]
        exact fun hlow => halone ⟨a, b, c, d, w, n, rfl, hn, hlow⟩
      rw [hlow]
      rfl
  | pair a b c d a' b' c' d' high low w t hhigh hishigh hlow hislow h =>
      simp only [List.cons_append, lowHalf?, hhigh]
      have hlow : Point.isLowHalf high = false := by
        rw [Point.isHighHalf, Bool.and_eq_true, decide_eq_true_eq, decide_eq_true_eq] at hishigh
        rw [Point.isLowHalf, Bool.and_eq_false_iff, decide_eq_false_iff_not]
        omega
      rw [hlow]
      rfl

theorem escape_of_short (mark c : Char) (rest : List Char) (h : shortEscape? mark = some c) :
    escape (mark :: rest) = .ok (.char c, rest) := by
  have hne : mark ≠ 'u' := ne_of_shortEscape? mark c h
  rw [escape, h]
  · exact fun a b c' d e more heq _ => hne heq
  · exact hne

/-- An escape that is no half, or a half with nothing to go with it, is one code point. -/
theorem escape_of_unit (a b c d : Char) (n : Nat) (w rest : List Char) (t : List Point)
    (hn : hexNumber? [a, b, c, d] = some n) (halone : Point.isHighHalf n = true → ¬BeginsWithLowHalf w)
    (h : Spells w t) :
    escape ('u' :: a :: b :: c :: d :: (w ++ '"' :: rest)) = .ok (.ofNat n, w ++ '"' :: rest) := by
  have hlow := fun hhigh => lowHalf?_of_spells w rest t h (halone hhigh)
  -- The reader wants a character behind the four digits, and there is one, if only the quote.
  rcases exists_cons_of_quote w rest with ⟨e, more, hmore⟩
  rw [hmore] at hlow ⊢
  simp only [escape, hn]
  split
  · next hhigh => simp only [hlow hhigh, bind, Except.bind]
  · rfl

theorem escape_of_pair (a b c d a' b' c' d' : Char) (high low : Nat) (w rest : List Char)
    (hhigh : hexNumber? [a, b, c, d] = some high) (hishigh : Point.isHighHalf high = true)
    (hlow : hexNumber? [a', b', c', d'] = some low) (hislow : Point.isLowHalf low = true) :
    escape ('u' :: a :: b :: c :: d :: '\\' :: 'u' :: a' :: b' :: c' :: d' :: (w ++ '"' :: rest)) =
      .ok (.char (Point.pairCharacter high low), w ++ '"' :: rest) := by
  rcases exists_cons_of_quote w rest with ⟨e, more, hmore⟩
  rw [hmore]
  simp only [escape, hhigh, hishigh, if_true, lowHalf?, hlow, hislow, bind, Except.bind]

/-- An escape is one code point, and then it goes on. -/
theorem stringFrom_of_escape (start fuel : Nat) (e : Char) (cs more rest : List Char) (point : Point) (t : List Point)
    (hescape : escape (e :: cs) = .ok (point, more)) (hmore : stringFrom start fuel more = .ok (t, rest)) :
    stringFrom start (fuel + 1) ('\\' :: e :: cs) = .ok (point :: t, rest) := by
  rw [stringFrom, if_neg (by decide), if_pos rfl, if_neg (by simp), hescape]
  simp only [bind, Except.bind, hmore, pure, Except.pure]

/-- What is between two quotes is read as the code points that it denotes. -/
theorem stringFrom_of_spells (start fuel : Nat) (w rest : List Char) (t : List Point) (h : Spells w t)
    (hfuel : w.length < fuel) : stringFrom start fuel (w ++ '"' :: rest) = .ok (t, rest) := by
  -- Every step takes a character at least, so a count above the length lasts.
  induction h generalizing fuel with
  | nil =>
      rcases Nat.exists_eq_add_one.mpr (Nat.zero_lt_of_lt hfuel) with ⟨k, rfl⟩
      rw [List.nil_append, stringFrom, if_pos rfl]
  | plain c w t hquote hbackslash hcontrol h ih =>
      rcases Nat.exists_eq_add_one.mpr (Nat.zero_lt_of_lt hfuel) with ⟨k, rfl⟩
      rw [List.length_cons] at hfuel
      rw [List.cons_append, stringFrom, if_neg hquote, if_neg hbackslash, if_neg hcontrol, ih k (by omega)]
      rfl
  | short mark c w t hmark h ih =>
      rcases Nat.exists_eq_add_one.mpr (Nat.zero_lt_of_lt hfuel) with ⟨k, rfl⟩
      simp only [List.length_cons] at hfuel
      exact stringFrom_of_escape start k mark _ _ rest (.char c) t (escape_of_short mark c _ hmark) (ih k (by omega))
  | unit a b c d n w t hn halone h ih =>
      rcases Nat.exists_eq_add_one.mpr (Nat.zero_lt_of_lt hfuel) with ⟨k, rfl⟩
      simp only [List.length_cons] at hfuel
      exact stringFrom_of_escape start k 'u' _ _ rest (.ofNat n) t (escape_of_unit a b c d n w rest t hn halone h)
        (ih k (by omega))
  | pair a b c d a' b' c' d' high low w t hhigh hishigh hlow hislow h ih =>
      rcases Nat.exists_eq_add_one.mpr (Nat.zero_lt_of_lt hfuel) with ⟨k, rfl⟩
      simp only [List.length_cons] at hfuel
      exact stringFrom_of_escape start k 'u' _ _ rest _ t
        (escape_of_pair a b c d a' b' c' d' high low w rest hhigh hishigh hlow hislow) (ih k (by omega))

theorem string_of_spells (w rest : List Char) (t : List Point) (h : Spells w t) :
    string (w ++ '"' :: rest) = .ok (t, rest) := by
  rw [string, stringFrom_of_spells _ _ w rest t h (by rw [List.length_append]; omega)]

/-- A half without the other one is no character, and it is read as the half that it is. -/
example : string ['\\', 'u', 'd', '8', '0', '0', '"'] = .ok ([.half 0], []) := by
  decide

/-- A second half that is found is an escape at the beginning. -/
theorem lowHalf?_eq_some (cs rest : List Char) (low : Nat) (h : lowHalf? cs = .ok (some (low, rest))) :
    ∃ a b c d, cs = '\\' :: 'u' :: a :: b :: c :: d :: rest ∧ hexNumber? [a, b, c, d] = some low ∧
      Point.isLowHalf low = true := by
  unfold lowHalf? at h
  split at h
  · next a b c d e more =>
      split at h
      · cases h
      · next found hfound =>
          split at h
          · next hislow =>
              obtain ⟨rfl, rfl⟩ := Prod.mk.inj (Option.some.inj (Except.ok.inj h))
              exact ⟨a, b, c, d, rfl, hfound, hislow⟩
          · cases h
  · cases h

/-- What an escape is read as: a short escape, one unit, or a pair. -/
theorem escape_cases (cs rest : List Char) (point : Point) (h : escape cs = .ok (point, rest)) :
    (∃ mark c, cs = mark :: rest ∧ shortEscape? mark = some c ∧ point = .char c) ∨
      (∃ a b d e n, cs = 'u' :: a :: b :: d :: e :: rest ∧ hexNumber? [a, b, d, e] = some n ∧ point = .ofNat n ∧
        (Point.isHighHalf n = true → lowHalf? rest = .ok none)) ∨
      ∃ a b d e a' b' d' e' high low, cs = 'u' :: a :: b :: d :: e :: '\\' :: 'u' :: a' :: b' :: d' :: e' :: rest ∧
        hexNumber? [a, b, d, e] = some high ∧ Point.isHighHalf high = true ∧ hexNumber? [a', b', d', e'] = some low ∧
        Point.isLowHalf low = true ∧ point = .char (Point.pairCharacter high low) := by
  -- The cases are those of the reader: a unit, a unit that is cut short, another escape, and nothing at all.
  unfold escape at h
  split at h
  · next a b d e f more =>
      split at h
      · cases h
      · next n hn =>
          split at h
          -- Behind a first half the reader looks ahead for the second one.
          · next hhigh =>
              rcases ok_of_bind _ _ _ h with ⟨found, hlow, heq⟩
              cases found with
              | none =>
                  obtain ⟨rfl, rfl⟩ := Prod.mk.inj (Except.ok.inj heq)
                  exact .inr (.inl ⟨a, b, d, e, n, rfl, hn, rfl, fun _ => hlow⟩)
              | some pair =>
                  rcases lowHalf?_eq_some _ _ _ hlow with ⟨a', b', d', e', hmore, hfound, hislow⟩
                  obtain ⟨rfl, rfl⟩ := Prod.mk.inj (Except.ok.inj heq)
                  rw [hmore]
                  exact .inr (.inr ⟨a, b, d, e, a', b', d', e', n, pair.1, rfl, hn, hhigh, hfound, hislow, rfl⟩)
          · next hhigh =>
              obtain ⟨rfl, rfl⟩ := Prod.mk.inj (Except.ok.inj h)
              exact .inr (.inl ⟨a, b, d, e, n, rfl, hn, rfl, fun hishigh => absurd hishigh hhigh⟩)
  · cases h
  · next mark more _ _ =>
      split at h
      · next found hfound =>
          obtain ⟨rfl, rfl⟩ := Prod.mk.inj (Except.ok.inj h)
          exact .inl ⟨mark, found, rfl, hfound, rfl⟩
      · cases h
  · cases h

/-- Where the reader finds no second half, none stands between the quotes. -/
theorem not_beginsWithLowHalf (w rest : List Char) (h : lowHalf? (w ++ '"' :: rest) = .ok none) :
    ¬BeginsWithLowHalf w := by
  rintro ⟨a, b, c, d, more, low, rfl, hlow, hislow⟩
  rcases exists_cons_of_quote more rest with ⟨e, tail, htail⟩
  simp only [List.cons_append, htail, lowHalf?, hlow, hislow, if_true] at h
  cases h

/-- One step of reading a string: the closing quote, a character as it is, or an escape. -/
theorem stringFrom_cases (start fuel : Nat) (cs rest : List Char) (t : List Point)
    (h : stringFrom start (fuel + 1) cs = .ok (t, rest)) :
    (cs = '"' :: rest ∧ t = []) ∨
      (∃ c more t', cs = c :: more ∧ c ≠ '"' ∧ c ≠ '\\' ∧ ¬c.toNat < 0x20 ∧
        stringFrom start fuel more = .ok (t', rest) ∧ t = .char c :: t') ∨
      ∃ escaped more point t', cs = '\\' :: escaped ∧ escape escaped = .ok (point, more) ∧
        stringFrom start fuel more = .ok (t', rest) ∧ t = point :: t' := by
  cases cs with
  | nil => cases h
  | cons c cs =>
      -- A quotation mark ends the string, a backslash begins an escape, and other characters stand for themselves.
      rw [stringFrom] at h
      split at h
      · next hquote =>
          obtain ⟨rfl, rfl⟩ := Prod.mk.inj (Except.ok.inj h)
          exact .inl ⟨by rw [hquote], rfl⟩
      · next hquote =>
          split at h
          · next hbackslash =>
              split at h
              · cases h
              · rcases ok_of_bind _ _ _ h with ⟨⟨point, more⟩, hescape, hgo⟩
                rcases ok_of_bind _ _ _ hgo with ⟨⟨t', rest'⟩, hmore, heq⟩
                obtain ⟨rfl, rfl⟩ := Prod.mk.inj (Except.ok.inj heq)
                exact .inr (.inr ⟨cs, more, point, t', by rw [hbackslash], hescape, hmore, rfl⟩)
          · next hbackslash =>
              split at h
              · cases h
              · next hcontrol =>
                  rcases ok_of_bind _ _ _ h with ⟨⟨t', rest'⟩, hmore, heq⟩
                  obtain ⟨rfl, rfl⟩ := Prod.mk.inj (Except.ok.inj heq)
                  exact .inr (.inl ⟨c, cs, t', rfl, hquote, hbackslash, hcontrol, hmore, rfl⟩)

/-- What is read as a string stands before a quote and denotes what was read. -/
theorem exists_spells_of_stringFrom (start fuel : Nat) (cs rest : List Char) (t : List Point)
    (h : stringFrom start fuel cs = .ok (t, rest)) : ∃ w, cs = w ++ '"' :: rest ∧ Spells w t := by
  induction fuel generalizing cs t with
  | zero => cases h
  | succ fuel ih =>
      -- What was read is put together again from the end, one step in front of what the others have.
      rcases stringFrom_cases start fuel cs rest t h with ⟨rfl, rfl⟩ |
        ⟨c, more, t', rfl, hquote, hbackslash, hcontrol, hmore, rfl⟩ |
        ⟨escaped, more, point, t', rfl, hescape, hmore, rfl⟩
      · exact ⟨[], rfl, .nil⟩
      · rcases ih more t' hmore with ⟨w, rfl, hw⟩
        exact ⟨c :: w, rfl, .plain c w t' hquote hbackslash hcontrol hw⟩
      · rcases ih more t' hmore with ⟨w, rfl, hw⟩
        rcases escape_cases escaped _ point hescape with ⟨mark, c, rfl, hmark, rfl⟩ |
          ⟨a, b, d, e, n, rfl, hn, rfl, halone⟩ |
          ⟨a, b, d, e, a', b', d', e', high, low, hescaped, hhigh, hishigh, hlow, hislow, hpoint⟩
        · exact ⟨'\\' :: mark :: w, rfl, .short mark c w t' hmark hw⟩
        · exact ⟨'\\' :: 'u' :: a :: b :: d :: e :: w, rfl,
            .unit a b d e n w t' hn (fun hhigh => not_beginsWithLowHalf w _ (halone hhigh)) hw⟩
        · rw [hescaped, hpoint]
          exact ⟨'\\' :: 'u' :: a :: b :: d :: e :: '\\' :: 'u' :: a' :: b' :: d' :: e' :: w, rfl,
              .pair a b d e a' b' d' e' high low w t' hhigh hishigh hlow hislow hw⟩

theorem exists_spells_of_string (cs rest : List Char) (t : List Point) (h : string cs = .ok (t, rest)) :
    ∃ w, cs = w ++ '"' :: rest ∧ Spells w t :=
  exists_spells_of_stringFrom _ _ cs rest t h

/-! ## Numbers -/

/-- A text in which a number does not go on. -/
def EndsNumber (rest : List Char) : Prop :=
  ∀ c cs, rest = c :: cs → c.isDigit = false ∧ c ≠ '.' ∧ c ≠ 'e' ∧ c ≠ 'E'

theorem ne_of_isDigit (d c : Char) (hd : d.isDigit = true) (hc : c.isDigit = false) : d ≠ c := by
  rintro rfl
  rw [hd] at hc
  cases hc

/-- Digits are cut off where something else follows. -/
theorem splitDigits_append (ds rest : List Char) (hds : ∀ c ∈ ds, c.isDigit = true)
    (hrest : ∀ c cs, rest = c :: cs → c.isDigit = false) : splitDigits (ds ++ rest) = (ds, rest) := by
  rw [splitDigits, List.takeWhile_append_of_pos hds, List.dropWhile_append_of_pos hds]
  -- The digits are taken as far as they go, and behind them comes something else or nothing.
  cases rest with
  | nil => rw [List.takeWhile_nil, List.dropWhile_nil, List.append_nil]
  | cons c cs =>
      have hc := Bool.eq_false_iff.mp (hrest c cs rfl)
      rw [List.takeWhile_cons_of_neg hc, List.dropWhile_cons_of_neg hc, List.append_nil]

theorem splitDigits_spec (cs : List Char) :
    cs = (splitDigits cs).1 ++ (splitDigits cs).2 ∧ ∀ c ∈ (splitDigits cs).1, c.isDigit = true :=
  ⟨List.takeWhile_append_dropWhile.symm, fun _ hc => List.mem_takeWhile_imp hc⟩

/-- A fraction is read up to what cannot go on with it. -/
theorem fraction_of_fractionText (w ds rest : List Char) (h : FractionText w ds)
    (hrest : ∀ c cs, rest = c :: cs → c.isDigit = false ∧ c ≠ '.') : fraction (w ++ rest) = (ds, rest) := by
  cases h with
  | none =>
      cases rest with
      | nil => rfl
      | cons c cs =>
          rw [List.nil_append, fraction]
          exact fun more heq => (hrest c cs rfl).2 (List.cons.inj heq).1
  | some _ h =>
      rw [List.cons_append, fraction, splitDigits_append ds rest h.2 fun c cs heq => (hrest c cs heq).1]
      simp [h.1]

theorem exists_fractionText (cs : List Char) :
    ∃ w, cs = w ++ (fraction cs).2 ∧ FractionText w (fraction cs).1 := by
  unfold fraction
  split
  · next rest =>
      rcases splitDigits_spec rest with ⟨hsplit, hdigits⟩
      simp only
      split
      · exact ⟨[], rfl, .none⟩
      · next hempty =>
          refine ⟨'.' :: (splitDigits rest).1, ?_, .some _ ⟨mt List.isEmpty_iff.mpr hempty, hdigits⟩⟩
          rw [List.cons_append, ← hsplit]
  · exact ⟨[], rfl, .none⟩

/-- The sign of a power of ten is that of its factor. -/
theorem powerSign_append (sign ds rest : List Char) (factor : Int)
    (hsign : (sign = [] ∧ factor = 1) ∨ (sign = ['+'] ∧ factor = 1) ∨ (sign = ['-'] ∧ factor = -1)) (h : IsDigits ds) :
    powerSign (sign ++ (ds ++ rest)) = (factor, ds ++ rest) := by
  rcases hsign with ⟨rfl, rfl⟩ | ⟨rfl, rfl⟩ | ⟨rfl, rfl⟩
  · rcases List.exists_cons_of_ne_nil h.1 with ⟨d, more, rfl⟩
    have hd : d.isDigit = true := h.2 d List.mem_cons_self
    rw [List.nil_append, List.cons_append, powerSign]
    · exact fun tail heq => ne_of_isDigit d '+' hd (by decide) (List.cons.inj heq).1
    · exact fun tail heq => ne_of_isDigit d '-' hd (by decide) (List.cons.inj heq).1
  · rfl
  · rfl

theorem exists_powerSign (cs : List Char) :
    ∃ sign, cs = sign ++ (powerSign cs).2 ∧ ((sign = [] ∧ (powerSign cs).1 = 1) ∨
      (sign = ['+'] ∧ (powerSign cs).1 = 1) ∨ (sign = ['-'] ∧ (powerSign cs).1 = -1)) := by
  unfold powerSign
  split
  · exact ⟨['+'], rfl, .inr (.inl ⟨rfl, rfl⟩)⟩
  · exact ⟨['-'], rfl, .inr (.inr ⟨rfl, rfl⟩)⟩
  · exact ⟨[], rfl, .inl ⟨rfl, rfl⟩⟩

/-- A power of ten is read up to what cannot go on with it. -/
theorem power_of_powerText (w rest : List Char) (exponent : Option Int) (h : PowerText w exponent)
    (hrest : EndsNumber rest) : power (w ++ rest) = (exponent, rest) := by
  cases h with
  | none =>
      cases rest with
      | nil => rfl
      | cons c cs =>
          -- What cannot go on with a number has none of the marks of a power.
          rcases hrest c cs rfl with ⟨_, _, hsmall, hlarge⟩
          simp [power, hsmall, hlarge]
  | some mark sign ds factor hmark hsign h =>
      have hdigits := splitDigits_append ds rest h.2 fun c cs heq => (hrest c cs heq).1
      have hne : ds.isEmpty = false := List.isEmpty_eq_false_iff.mpr h.1
      have hmark' : (mark = 'e' || mark = 'E') = true := by simpa using hmark
      rw [List.cons_append, List.append_assoc, power, if_pos hmark', powerSign_append sign ds rest factor hsign h]
      simp only [hdigits, hne, Bool.false_eq_true, if_false]

theorem exists_powerText (cs : List Char) :
    ∃ w, cs = w ++ (power cs).2 ∧ PowerText w (power cs).1 := by
  unfold power
  split
  · next mark rest =>
      split
      · next hmark =>
          rcases exists_powerSign rest with ⟨sign, hrest, hsign⟩
          rcases splitDigits_spec (powerSign rest).2 with ⟨hsplit, hdigits⟩
          simp only
          split
          · exact ⟨[], rfl, .none⟩
          -- A mark without digits belongs to what is left.
          · next hempty =>
              refine ⟨mark :: (sign ++ (splitDigits (powerSign rest).2).1), ?_, .some mark sign _ _ ?_ hsign
                ⟨mt List.isEmpty_iff.mpr hempty, hdigits⟩⟩
              · rw [List.cons_append, List.append_assoc, ← hsplit, ← hrest]
              · simpa using hmark
      · exact ⟨[], rfl, .none⟩
  · exact ⟨[], rfl, .none⟩

theorem exists_cons_of_isWhole (ds : List Char) (h : IsWhole ds) : ∃ d more, ds = d :: more ∧ d.isDigit = true := by
  rcases h with rfl | ⟨hdigits, _⟩
  · exact ⟨'0', [], rfl, by decide⟩
  · rcases List.exists_cons_of_ne_nil hdigits.1 with ⟨d, more, rfl⟩
    exact ⟨d, more, rfl, hdigits.2 d List.mem_cons_self⟩

/-- The whole part of a number is read up to what is no digit. -/
theorem splitWhole_append (ds rest : List Char) (h : IsWhole ds)
    (hrest : ∀ c cs, rest = c :: cs → c.isDigit = false) : splitWhole (ds ++ rest) = (ds, rest) := by
  rcases h with rfl | ⟨hdigits, hzero⟩
  · rfl
  -- The equation for more digits holds where the first one is not zero.
  · rw [splitWhole]
    · exact splitDigits_append ds rest hdigits.2 hrest
    · intro more heq
      rcases List.exists_cons_of_ne_nil hdigits.1 with ⟨d, ds', rfl⟩
      rw [List.cons_append] at heq
      rw [(List.cons.inj heq).1] at hzero
      exact hzero rfl

theorem splitWhole_spec (cs : List Char) (h : (splitWhole cs).1.isEmpty = false) :
    cs = (splitWhole cs).1 ++ (splitWhole cs).2 ∧ IsWhole (splitWhole cs).1 := by
  unfold splitWhole at h ⊢
  split at h
  · exact ⟨rfl, .inl rfl⟩
  · next hzero =>
      rcases splitDigits_spec cs with ⟨hsplit, hdigits⟩
      refine ⟨hsplit, .inr ⟨⟨List.isEmpty_eq_false_iff.mp h, hdigits⟩, fun hhead => ?_⟩⟩
      -- If the first digit were zero, the reader would have stopped behind it.
      rcases hds : (splitDigits cs).1 with _ | ⟨d, more⟩
      · rw [hds] at h
        cases h
      · rw [hds, List.head?_cons] at hhead
        rw [hds, Option.some.inj hhead] at hsplit
        exact hzero _ hsplit

theorem splitMinus_append (negative : Bool) (body : List Char) (h : ∀ rest, body ≠ '-' :: rest) :
    splitMinus (signText negative ++ body) = (negative, body) := by
  cases negative with
  | true => rfl
  | false =>
      change splitMinus body = _
      rw [splitMinus]
      exact h

theorem splitMinus_spec (cs : List Char) : cs = signText (splitMinus cs).1 ++ (splitMinus cs).2 := by
  unfold splitMinus
  split <;> rfl

/-- A power of ten begins neither with a digit nor with a point. -/
theorem head_of_powerText (power rest : List Char) (exponent : Option Int) (hpower : PowerText power exponent)
    (hrest : EndsNumber rest) : ∀ c cs, power ++ rest = c :: cs → c.isDigit = false ∧ c ≠ '.' := by
  intro c cs heq
  cases hpower with
  | none => exact ⟨(hrest c cs heq).1, (hrest c cs heq).2.1⟩
  | some mark sign ds factor hmark _ _ =>
      rw [List.cons_append] at heq
      rw [← (List.cons.inj heq).1]
      rcases hmark with rfl | rfl <;> decide

theorem head_of_fractionText (fraction decimals tail : List Char) (hfraction : FractionText fraction decimals)
    (htail : ∀ c cs, tail = c :: cs → c.isDigit = false) :
    ∀ c cs, fraction ++ tail = c :: cs → c.isDigit = false := by
  intro c cs heq
  cases hfraction with
  | none => exact htail c cs heq
  | some _ _ =>
      rw [List.cons_append] at heq
      rw [← (List.cons.inj heq).1]
      decide

/-- What the parts of a number are worth: a whole number, or one with a fraction or a power of ten. -/
def valueOf (negative : Bool) (ds decimals : List Char) (exponent : Option Int) : Except Fault Value :=
  if decimals.isEmpty && exponent.isNone then
    if Decimal.digitLimit < ds.length then .error (.longNumber ds.length)
    else .ok (.integer (if negative then -(decimalNumber ds : Int) else (decimalNumber ds : Int)))
  else .ok (.real (Decimal.ofDecimal negative (decimalNumber (ds ++ decimals)) (exponent.getD 0 - decimals.length)))

/-- A number is read part by part, and its value is that of the parts. -/
theorem number_of_parts (cs body tail tail' rest ds decimals : List Char) (negative : Bool) (exponent : Option Int)
    (hminus : splitMinus cs = (negative, body)) (hwhole : splitWhole body = (ds, tail)) (hds : ds.isEmpty = false)
    (hfraction : fraction tail = (decimals, tail')) (hpower : power tail' = (exponent, rest)) :
    number cs = (valueOf negative ds decimals exponent).map fun v => (v, rest) := by
  rw [number, hminus]
  simp only [hwhole, hds, Bool.false_eq_true, if_false, hfraction, hpower, valueOf]
  split
  · split <;> rfl
  · rfl

/-- A number that is written part by part is read so. -/
theorem number_append (negative : Bool) (ds fractionText decimals powerText rest : List Char) (exponent : Option Int)
    (h : IsWhole ds) (hfraction : FractionText fractionText decimals) (hpower : PowerText powerText exponent)
    (hrest : EndsNumber rest) :
    number (signText negative ++ (ds ++ (fractionText ++ (powerText ++ rest)))) =
      (valueOf negative ds decimals exponent).map fun v => (v, rest) := by
  -- Each part is read up to the next one, whose first character cannot go on with it.
  have hpowerHead := head_of_powerText powerText rest exponent hpower hrest
  have hfractionHead := head_of_fractionText fractionText decimals (powerText ++ rest) hfraction
    fun c cs heq => (hpowerHead c cs heq).1
  rcases exists_cons_of_isWhole ds h with ⟨d, more, hds, hd⟩
  have hbody : ∀ tail, ds ++ (fractionText ++ (powerText ++ rest)) ≠ '-' :: tail := by
    intro tail heq
    rw [hds, List.cons_append] at heq
    exact ne_of_isDigit d '-' hd (by decide) (List.cons.inj heq).1
  exact number_of_parts _ _ _ _ rest ds decimals negative exponent (splitMinus_append negative _ hbody)
    (splitWhole_append ds _ h hfractionHead) (by rw [hds]; rfl)
    (fraction_of_fractionText fractionText decimals _ hfraction hpowerHead)
    (power_of_powerText powerText rest exponent hpower hrest)

/-- What a reader returns for a part of a document: what it found, or the fault of a number with too many digits. -/
def unlessLong {α : Type} (long : Option Nat) (found : α) : Except Fault α :=
  match long with
  | none => .ok found
  | some digits => .error (.longNumber digits)

/-- The length of some digits, if they are too many for the reader. -/
def excess (ds : List Char) : Option Nat :=
  if Decimal.digitLimit < ds.length then some ds.length else none

/-- A number with too many digits for the reader, if there is one, keeps a limit. -/
def IsExcess (limit long : Option Nat) : Prop :=
  ∀ digits, long = some digits → Decimal.digitLimit < digits ∧ Allows limit digits

theorem isExcess_none (limit : Option Nat) : IsExcess limit none :=
  nofun

theorem isExcess_or (limit long long' : Option Nat) (h : IsExcess limit long) (h' : IsExcess limit long') :
    IsExcess limit (long.or long') := by
  cases long with
  | none => exact h'
  | some _ => exact h

/-- No number that keeps the limit of the reader has too many digits for it. -/
theorem eq_none_of_isExcess (long : Option Nat) (h : IsExcess readerLimit long) : long = none := by
  cases long with
  | none => rfl
  | some digits =>
      rcases h digits rfl with ⟨hlong, hallows⟩
      exact absurd (hallows _ rfl) (Nat.not_le.mpr hlong)

/-- A whole number is read if it does not have too many digits. -/
theorem number_whole (negative : Bool) (ds rest : List Char) (h : IsWhole ds) (hrest : EndsNumber rest) :
    number (signText negative ++ ds ++ rest) =
      unlessLong (excess ds)
        (.integer (if negative then -(decimalNumber ds : Int) else (decimalNumber ds : Int)), rest) := by
  have hnumber := number_append negative ds [] [] [] rest none h .none .none hrest
  have hvalue : valueOf negative ds [] none =
      unlessLong (excess ds) (.integer (if negative then -(decimalNumber ds : Int) else (decimalNumber ds : Int))) := by
    rw [excess]
    by_cases hlong : Decimal.digitLimit < ds.length
    · rw [if_pos hlong]
      exact if_pos hlong
    · rw [if_neg hlong]
      exact if_neg hlong
  rw [hvalue] at hnumber
  rw [List.append_assoc]
  refine hnumber.trans ?_
  cases excess ds <;> rfl

/-- A number is read up to what cannot go on with it, if it does not have too many digits. -/
theorem number_of_numeral (limit : Option Nat) (w : List Char) (v : Value) (h : Numeral limit w v) :
    ∃ long, IsExcess limit long ∧
      ∀ rest, EndsNumber rest → number (w ++ rest) = unlessLong long (v, rest) := by
  cases h with
  | whole negative ds h hlimit =>
      refine ⟨excess ds, fun digits hdigits => ?_, fun rest hrest => number_whole negative ds rest h hrest⟩
      rw [excess] at hdigits
      split at hdigits
      · next hlong =>
          obtain rfl := Option.some.inj hdigits
          exact ⟨hlong, hlimit⟩
      · cases hdigits
  | real negative ds fraction decimals power exponent h hfraction hpower hreal =>
      refine ⟨none, isExcess_none limit, fun rest hrest => ?_⟩
      have hnumber := number_append negative ds fraction decimals power rest exponent h hfraction hpower hrest
      -- Without decimals and without an exponent it would be a whole number.
      have hparts : ¬(decimals.isEmpty && exponent.isNone) = true := by
        rw [Bool.and_eq_true, List.isEmpty_iff, Option.isNone_iff_eq_none]
        rintro ⟨hdecimals, hexponent⟩
        rcases hreal with hreal | hreal
        · exact hreal hdecimals
        · rw [hexponent] at hreal
          exact Bool.false_ne_true hreal
      rw [valueOf, if_neg hparts] at hnumber
      rw [List.append_assoc, List.append_assoc, List.append_assoc]
      exact hnumber

/-- Parts with a value are the parts of a number. -/
theorem numeral_of_valueOf (negative : Bool) (ds fractionText decimals powerText : List Char) (exponent : Option Int)
    (v : Value) (h : valueOf negative ds decimals exponent = .ok v) (hwhole : IsWhole ds)
    (hfraction : FractionText fractionText decimals) (hpower : PowerText powerText exponent) :
    Numeral readerLimit (signText negative ++ (ds ++ (fractionText ++ powerText))) v := by
  rw [valueOf] at h
  split at h
  · next hplain =>
      rw [Bool.and_eq_true, List.isEmpty_iff, Option.isNone_iff_eq_none] at hplain
      obtain ⟨rfl, rfl⟩ := hplain
      split at h
      · cases h
      · next hlimit =>
          obtain rfl := Except.ok.inj h
          -- Without decimals and without an exponent nothing is written for them.
          obtain rfl : fractionText = [] := by
            cases hfraction with
            | none => rfl
            | some _ h => exact absurd rfl h.1
          obtain rfl : powerText = [] := by cases hpower; rfl
          rw [List.append_nil, List.append_nil]
          exact .whole negative ds hwhole fun most hmost => Option.some.inj hmost ▸ Nat.not_lt.mp hlimit
  · next hreal =>
      obtain rfl := Except.ok.inj h
      refine .real negative ds fractionText decimals powerText exponent hwhole hfraction hpower ?_
      by_contra hnone
      rw [not_or, not_not, Bool.not_eq_true, Option.isSome_eq_false_iff] at hnone
      exact hreal (by rw [hnone.1, hnone.2]; rfl)

/-- What is read as a number is one. -/
theorem exists_numeral_of_number (cs rest : List Char) (v : Value) (h : number cs = .ok (v, rest)) :
    ∃ w, cs = w ++ rest ∧ Numeral readerLimit w v := by
  have hminus := splitMinus_spec cs
  rcases hsigned : splitMinus cs with ⟨negative, body⟩
  -- The parts are cut off one after the other; only the whole part may not be empty.
  rcases hdigits : splitWhole body with ⟨ds, tail⟩
  cases hempty : ds.isEmpty with
  | true =>
      rw [number, hsigned] at h
      simp only [hdigits, hempty, if_true] at h
      cases h
  | false =>
      have hwhole := splitWhole_spec body (by rw [hdigits]; exact hempty)
      rcases exists_fractionText tail with ⟨fractionText, htail, hfraction⟩
      rcases hdecimals : fraction tail with ⟨decimals, tail'⟩
      rcases exists_powerText tail' with ⟨powerText, htail', hpower⟩
      rcases hexponent : power tail' with ⟨exponent, rest'⟩
      rw [number_of_parts cs body tail tail' rest' ds decimals negative exponent hsigned hdigits hempty hdecimals
        hexponent] at h
      simp only [hsigned, hdigits, hdecimals, hexponent] at hminus hwhole htail hfraction htail' hpower
      cases hvalue : valueOf negative ds decimals exponent with
      | error fault => rw [hvalue] at h; cases h
      | ok found =>
          rw [hvalue] at h
          obtain ⟨rfl, rfl⟩ := Prod.mk.inj (Except.ok.inj h)
          refine ⟨_, ?_, numeral_of_valueOf negative ds fractionText decimals powerText exponent found hvalue hwhole.2
            hfraction hpower⟩
          rw [hminus, hwhole.1, htail, htail', List.append_assoc, List.append_assoc, List.append_assoc]

end Json

end CodeBehind
