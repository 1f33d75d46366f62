import CodeBehind.Json.Reader
import CodeBehind.Json.Writer

/-!
# Strings of JSON

Every text is read back from the string it is written as.

The reader goes through a string character by character, so all that has to be known is what it does with the form of
one character, whatever comes behind it. There are two kinds of forms (`escapedChar_cases`). A character of printable
ASCII stands for itself, if it is neither the quote nor the backslash. Everything else begins with a backslash, and the
reader of escapes takes exactly what was written. It looks at one character more than the digits of an escape, which
is why the lemmas about it have a character behind the escape. In a string there always is one, at least the quote
that ends it.

A character beyond the first plane is written as two code units, each as an escape of its own. The reader finds out
that they belong together from the first one alone, since no character has its number among the halves of a pair. For
the same reason no other escape is taken for such a half.

## Theorems

* `hexNumber?_hex`: A number is read back from its hexadecimal digits, padded or not.
* `escape_unitEscape`, `escape_pair`: A character is read back from one escape or from two.
* `escapedChar_cases`: The two kinds of forms of a character.
* `ofPoints_injective`: A text of any code points is kept as it is.
* `stringFrom_flatMap`, `string_flatMap`: A text is read back from the forms of its characters.
-/

namespace CodeBehind

namespace Json

/-! ## Digits -/

theorem hexDigit?_digitChar : ∀ d, d < 16 → hexDigit? (Nat.digitChar d) = some d := by
  decide

/-- One more digit behind the others. -/
theorem hexNumber?_concat (digits : List Char) (c : Char) (n d : Nat) (hdigits : hexNumber? digits = some n)
    (hc : hexDigit? c = some d) : hexNumber? (digits ++ [c]) = some (16 * n + d) := by
  rw [hexNumber?] at hdigits
  rw [hexNumber?, List.foldlM_append, hdigits]
  simp only [Option.bind_eq_bind, Option.bind_some, List.foldlM_cons, List.foldlM_nil, hc, Option.map_some]
  rfl

theorem hexNumber?_toDigits (n : Nat) : hexNumber? (Nat.toDigits 16 n) = some n := by
  induction n using Nat.strongRecOn with
  | ind n ih =>
      by_cases hn : n < 16
      · have hdigit := hexNumber?_concat [] (Nat.digitChar n) 0 n rfl (hexDigit?_digitChar n hn)
        rw [Nat.toDigits_of_lt_base hn]
        rwa [List.nil_append, Nat.mul_zero, Nat.zero_add] at hdigit
      · -- The last digit is the remainder, and the digits before it are those of the quotient.
        have hfront := ih (n / 16) (Nat.div_lt_self (by omega) (by decide))
        have hlast := hexDigit?_digitChar (n % 16) (Nat.mod_lt n (by decide))
        rw [Nat.toDigits_of_base_le (by decide) (by omega), hexNumber?_concat _ _ _ _ hfront hlast, Nat.div_add_mod]

/-- Leading zeros do not change the number. -/
theorem hexNumber?_replicate_zero (count : Nat) (digits : List Char) :
    hexNumber? (List.replicate count '0' ++ digits) = hexNumber? digits := by
  induction count with
  | zero => rfl
  | succ k ih =>
      rw [List.replicate_succ, List.cons_append]
      exact ih

theorem hexNumber?_hex (width n : Nat) : hexNumber? (Text.hex width n) = some n := by
  rw [Text.hex, hexNumber?_replicate_zero, hexNumber?_toDigits]

/-- Nothing but digits is read as a number. -/
theorem notMem_of_hexNumber? (digits : List Char) (n : Nat) (c : Char) (hdigits : hexNumber? digits = some n)
    (hc : hexDigit? c = none) : c ∉ digits := by
  intro hmem
  rcases List.append_of_mem hmem with ⟨before, after, heq⟩
  -- Whatever is read before the character, reading ends there.
  rw [hexNumber?, heq, List.foldlM_append] at hdigits
  simp only [List.foldlM_cons, hc, Option.map_none, Option.bind_eq_bind, Option.bind_none, Option.bind_fun_none,
    reduceCtorEq] at hdigits

/-- A code unit has four digits. -/
theorem exists_hex (n : Nat) (h : n < 0x10000) :
    ∃ a b c d, Text.hex 4 n = [a, b, c, d] ∧ hexNumber? [a, b, c, d] = some n := by
  have hlength : (Text.hex 4 n).length = 4 := by
    have hle : (Nat.toDigits 16 n).length ≤ 4 := (Nat.length_toDigits_le_iff (by decide) (by decide)).mpr h
    rw [Text.hex, List.length_append, List.length_replicate, Nat.sub_add_cancel hle]
  have hnumber := hexNumber?_hex 4 n
  generalize Text.hex 4 n = digits at hlength hnumber
  match digits, hlength with
  | [a, b, c, d], _ => exact ⟨a, b, c, d, rfl, hnumber⟩

/-! ## Escapes -/

/-- The number of a character is that of the character. -/
theorem ofNat_toNat (c : Char) : Point.ofNat c.toNat = .char c := by
  have hvalid : c.toNat.isValidChar := c.valid
  rw [Point.ofNat, if_pos hvalid, Char.ofNat_toNat]

/-- No character has its number among the halves of a pair. -/
theorem isHighHalf_toNat (c : Char) : Point.isHighHalf c.toNat = false := by
  have hvalid : c.toNat < 0xD800 ∨ (0xDFFF < c.toNat ∧ c.toNat < 0x110000) := c.valid
  rw [Point.isHighHalf, Bool.and_eq_false_iff, decide_eq_false_iff_not, decide_eq_false_iff_not]
  omega

/-- A character of the first plane is read back from the escape of its number. -/
theorem escape_unitEscape (c q : Char) (rest : List Char) (h : c.toNat < 0x10000) :
    escape ('u' :: Text.hex 4 c.toNat ++ q :: rest) = .ok (.char c, q :: rest) := by
  rcases exists_hex c.toNat h with ⟨x, y, z, w, hdigits, hnumber⟩
  rw [hdigits]
  simp only [List.cons_append, List.nil_append, escape, hnumber, isHighHalf_toNat, Bool.false_eq_true, if_false,
    ofNat_toNat]

/-- The two halves of a number beyond the first plane. -/
theorem pairCharacter_halves (c : Char) (h : 0x10000 ≤ c.toNat) :
    Point.pairCharacter (0xD800 + (c.toNat - 0x10000) / 0x400) (0xDC00 + (c.toNat - 0x10000) % 0x400) = c := by
  have hnumber : 0x10000 + (0xD800 + (c.toNat - 0x10000) / 0x400 - 0xD800) * 0x400 +
      (0xDC00 + (c.toNat - 0x10000) % 0x400 - 0xDC00) = c.toNat := by
    omega
  rw [Point.pairCharacter, hnumber, Char.ofNat_toNat]

/-- A character of any other plane is read back from the escapes of its two halves. -/
theorem escape_pair (c q : Char) (rest : List Char) (h : 0x10000 ≤ c.toNat) :
    escape ('u' :: Text.hex 4 (0xD800 + (c.toNat - 0x10000) / 0x400) ++
      (unitEscape (0xDC00 + (c.toNat - 0x10000) % 0x400) ++ q :: rest)) = .ok (.char c, q :: rest) := by
  have hvalid : c.toNat < 0xD800 ∨ (0xDFFF < c.toNat ∧ c.toNat < 0x110000) := c.valid
  -- Only the ranges of the two halves and the character they make matter from here on.
  have hpair := pairCharacter_halves c h
  generalize hhigh : 0xD800 + (c.toNat - 0x10000) / 0x400 = high at hpair ⊢
  generalize hlow : 0xDC00 + (c.toNat - 0x10000) % 0x400 = low at hpair ⊢
  have hishigh : Point.isHighHalf high = true := by
    rw [Point.isHighHalf, Bool.and_eq_true, decide_eq_true_eq, decide_eq_true_eq]
    omega
  have hislow : Point.isLowHalf low = true := by
    rw [Point.isLowHalf, Bool.and_eq_true, decide_eq_true_eq, decide_eq_true_eq]
    omega
  rcases exists_hex high (by omega) with ⟨x, y, z, w, hdigits, hnumber⟩
  rcases exists_hex low (by omega) with ⟨x', y', z', w', hdigits', hnumber'⟩
  rw [unitEscape, hdigits, hdigits']
  simp only [List.cons_append, List.nil_append, escape, lowHalf?, hnumber, hnumber', hishigh, hislow, if_true, bind,
    Except.bind, hpair]

/-! ## Characters -/

theorem return_notMem_unitEscape (n : Nat) : '\r' ∉ unitEscape n := by
  have hdigits := notMem_of_hexNumber? _ n '\r' (hexNumber?_hex 4 n) (by decide)
  rw [unitEscape, List.mem_cons, List.mem_cons, not_or, not_or]
  exact ⟨by decide, by decide, hdigits⟩

/-- The forms of a character in a string. It stands for itself, which is neither a quote nor a backslash nor a
    control, or it is an escape from which it is read back. -/
theorem escapedChar_cases (c : Char) :
    (escapedChar c = [c] ∧ c ≠ '"' ∧ c ≠ '\\' ∧ ¬ c.toNat < 0x20) ∨
      ∃ code, escapedChar c = '\\' :: code ∧ '\r' ∉ code ∧
        ∀ q rest, escape (code ++ q :: rest) = .ok (.char c, q :: rest) := by
  unfold escapedChar
  split
  -- First the quote, the backslash and the controls that have a short escape.
  · exact Or.inr ⟨['"'], rfl, by decide, fun _ _ => rfl⟩
  · exact Or.inr ⟨['\\'], rfl, by decide, fun _ _ => rfl⟩
  · exact Or.inr ⟨['n'], rfl, by decide, fun _ _ => rfl⟩
  · exact Or.inr ⟨['r'], rfl, by decide, fun _ _ => rfl⟩
  · exact Or.inr ⟨['t'], rfl, by decide, fun _ _ => rfl⟩
  · exact Or.inr ⟨['b'], rfl, by decide, fun _ _ => rfl⟩
  · exact Or.inr ⟨['f'], rfl, by decide, fun _ _ => rfl⟩
  · next hquote hbackslash _ _ _ _ _ =>
      by_cases hplain : (0x20 ≤ c.toNat && c.toNat ≤ 0x7E) = true
      · refine Or.inl ⟨if_pos hplain, hquote, hbackslash, ?_⟩
        rw [Bool.and_eq_true, decide_eq_true_eq] at hplain
        omega
      · by_cases hfirst : c.toNat < 0x10000
        · -- One code unit is enough.
          refine Or.inr ⟨'u' :: Text.hex 4 c.toNat, ?_, ?_, fun q rest => escape_unitEscape c q rest hfirst⟩
          · rw [if_neg hplain, if_pos hfirst, unitEscape]
          · exact fun hmem => return_notMem_unitEscape c.toNat (List.mem_cons_of_mem _ hmem)
        · -- Two code units, each with a backslash of its own.
          refine Or.inr ⟨'u' :: Text.hex 4 (0xD800 + (c.toNat - 0x10000) / 0x400) ++
            unitEscape (0xDC00 + (c.toNat - 0x10000) % 0x400), ?_, ?_, fun q rest => ?_⟩
          · rw [if_neg hplain, if_neg hfirst]
            rfl
          · rw [List.mem_append, not_or]
            exact ⟨fun hmem => return_notMem_unitEscape _ (List.mem_cons_of_mem _ hmem), return_notMem_unitEscape _⟩
          · rw [List.append_assoc]
            exact escape_pair c q rest (by omega)

theorem escapedChar_ne_nil (c : Char) : escapedChar c ≠ [] := by
  rcases escapedChar_cases c with ⟨heq, _⟩ | ⟨code, heq, _⟩
  · rw [heq]
    exact List.cons_ne_nil _ _
  · rw [heq]
    exact List.cons_ne_nil _ _

theorem return_notMem_escapedChar (c : Char) : '\r' ∉ escapedChar c := by
  rcases escapedChar_cases c with ⟨heq, _, _, hcontrol⟩ | ⟨code, heq, hcode, _⟩
  · rw [heq, List.mem_singleton]
    intro hreturn
    rw [← hreturn] at hcontrol
    exact hcontrol (by decide)
  · rw [heq, List.mem_cons, not_or]
    exact ⟨by decide, hcode⟩

/-! ## Strings -/

theorem characters?_map_char (cs : List Char) : Point.characters? (cs.map .char) = some cs := by
  induction cs with
  | nil => rfl
  | cons c cs ih => rw [List.map_cons, Point.characters?, ih, Option.map_some]

/-- The characters of a text are found exactly where it has nothing else. -/
theorem characters?_eq_some (points : List Point) (cs : List Char) (h : Point.characters? points = some cs) :
    points = cs.map .char := by
  induction points generalizing cs with
  | nil =>
      cases h
      rfl
  | cons point points ih =>
      cases point with
      | char c =>
          obtain ⟨found, hfound, rfl⟩ := Option.map_eq_some_iff.mp h
          rw [List.map_cons, ih found hfound]
      | half place => cases h

/-- Texts of other code points are other values: a half that has been read is still told from every other one. -/
theorem ofPoints_injective : Function.Injective Value.ofPoints := by
  intro points others heq
  unfold Value.ofPoints at heq
  split at heq
  · next cs hcs =>
      split at heq
      · next ds hds =>
          rw [characters?_eq_some points cs hcs, characters?_eq_some others ds hds,
            String.ofList_injective (Value.text.inj heq)]
      · cases heq
  · split at heq
    · cases heq
    · exact Value.halved.inj heq

/-- A text of characters is a value of its own kind. -/
theorem ofPoints_ofString (s : String) : Value.ofPoints (Point.ofString s) = .text s := by
  rw [Value.ofPoints, Point.ofString, characters?_map_char]
  simp only [String.ofList_toList]

/-- A text is read back from the forms of its characters and the quote behind them. -/
theorem stringFrom_flatMap (start fuel : Nat) (cs rest : List Char) (h : cs.length < fuel) :
    stringFrom start fuel (cs.flatMap escapedChar ++ '"' :: rest) = .ok (cs.map .char, rest) := by
  induction cs generalizing fuel with
  | nil =>
      cases fuel with
      | zero => exact absurd h (Nat.not_lt_zero _)
      | succ k => rw [List.flatMap_nil, List.nil_append, stringFrom, if_pos rfl, List.map_nil]
  | cons c cs ih =>
      cases fuel with
      | zero => exact absurd h (Nat.not_lt_zero _)
      | succ k =>
          -- Each character takes one of the count, however long its form is.
          have hlater := ih k (Nat.lt_of_succ_lt_succ h)
          rw [List.flatMap_cons, List.append_assoc]
          generalize htail : cs.flatMap escapedChar ++ '"' :: rest = tail at hlater ⊢
          rcases escapedChar_cases c with ⟨heq, hquote, hbackslash, hcontrol⟩ | ⟨code, heq, _, hescape⟩
          · rw [heq, List.singleton_append, stringFrom, if_neg hquote, if_neg hbackslash, if_neg hcontrol, hlater]
            rfl
          · -- Behind the escape there is at least the quote.
            rcases List.exists_cons_of_ne_nil (htail ▸ List.append_ne_nil_of_right_ne_nil _ (List.cons_ne_nil _ _))
              with ⟨q, more, hmore⟩
            have hread : escape (code ++ tail) = .ok (.char c, tail) := by
              rw [hmore]
              exact hescape q more
            have hnonempty : ¬ (code ++ tail).isEmpty = true := by
              rw [List.isEmpty_iff, hmore]
              exact List.append_ne_nil_of_right_ne_nil _ (List.cons_ne_nil _ _)
            rw [heq, List.cons_append, stringFrom, if_neg (by decide), if_pos rfl, if_neg hnonempty, hread]
            simp only [bind, Except.bind, hlater, pure, Except.pure, List.map_cons]

theorem length_le_length_flatMap (cs : List Char) : cs.length ≤ (cs.flatMap escapedChar).length := by
  induction cs with
  | nil => exact Nat.le_refl _
  | cons c cs ih =>
      have hpositive := List.length_pos_iff.mpr (escapedChar_ne_nil c)
      rw [List.flatMap_cons, List.length_cons, List.length_append]
      omega

/-- The reader is given a count that is enough for every text. -/
theorem string_flatMap (s : String) (rest : List Char) :
    string (s.toList.flatMap escapedChar ++ '"' :: rest) = .ok (Point.ofString s, rest) := by
  have hfuel : s.toList.length < (s.toList.flatMap escapedChar ++ '"' :: rest).length + 1 := by
    have hle := length_le_length_flatMap s.toList
    rw [List.length_append]
    omega
  rw [string, stringFrom_flatMap _ _ _ rest hfuel, Point.ofString]

theorem toList_stringText (s : String) : (stringText s).toList = '"' :: (s.toList.flatMap escapedChar ++ ['"']) := by
  rw [stringText, String.toList_ofList, List.cons_append]

theorem return_notMem_stringText (s : String) : '\r' ∉ (stringText s).toList := by
  rw [toList_stringText, List.mem_cons, List.mem_append, List.mem_flatMap, List.mem_singleton]
  rintro (hquote | ⟨c, _, hc⟩ | hquote)
  · exact absurd hquote (by decide)
  · exact return_notMem_escapedChar c hc
  · exact absurd hquote (by decide)

end Json

end CodeBehind
