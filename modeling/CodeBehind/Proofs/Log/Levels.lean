import CodeBehind.Log.Setup
import Mathlib.Data.List.Forall2
import Mathlib.Data.List.Infix

/-!
# Levels of the log

Which names stand for which level, and how a line of the log is spelled.

Settings name a level by a word in any letter case. That is told letter by letter (`IsCaseOf`, `IsWritten`), while the
settings themselves take the capitals of the whole name and look them up in a table. Both are the same for two reasons.
A character with one capital is that letter in some case, be it a dotless i or a long s. And a character with more than
one capital is part of no word, since the first two of its capitals never stand side by side in one (`ligatures`). The
induction on the name carries this along, because what is left of a word has no such pair either
(`flatMap_capitals_eq_iff`).

What a name comes to is a level, the least one that is written (`leastOf`). A name that is no word stands for the usual
level, and the name of no level for the one that the topmost logger has. Levels are compared by their places in a list,
and no numbers are needed for it (`covers_iff`).

A line has four parts with a dash between them, the last of which is what the record says (`spelling`).

## Main definitions

* `IsCaseOf`, `IsWritten`: A letter and a word in any letter case.
* `leastOf`: The least level that is written.
* `Covers`: A level is no higher than another.
* `spelling`: The line of a record.

## Main results

* `least_thresholdOf`: The least number under settings is that of the least level.
* `line_eq_spelling`: The line that is written is spelled so.

## Theorems

* `capitals_cases`: The characters with one capital, and those with more.
* `flatMap_capitals_eq_iff`: The names with the capitals of a word.
* `thresholdOf_of_isWritten`, `thresholdOf_of_not_isWritten`: The thresholds of words, and of all other names.
* `thresholdOf_name`: The threshold of the name that a line has for a level.
-/

namespace CodeBehind

namespace Log

/-! ## Words in any letter case -/

/-- A character is a capital letter in some letter case; a dotless i and a long s have no capitals of their own. -/
def IsCaseOf (c letter : Char) : Prop :=
  c.toUpper = letter ∨ (c = '\u0131' ∧ letter = 'I') ∨ (c = '\u017f' ∧ letter = 'S')

instance (c letter : Char) : Decidable (IsCaseOf c letter) :=
  inferInstanceAs (Decidable (_ ∨ _))

/-- A name is a word in any letter case. -/
def IsWritten (name word : String) : Prop :=
  List.Forall₂ IsCaseOf name.toList word.toList

instance (name word : String) : Decidable (IsWritten name word) :=
  inferInstanceAs (Decidable (List.Forall₂ _ _ _))

/-- Pairs of capitals that begin the capitals of a single character. -/
def ligatures : List (List Char) :=
  [['S', 'S'], ['F', 'F'], ['F', 'I'], ['F', 'L'], ['S', 'T']]

/-- A word that can be spelled in any letter case: capital letters without ligatures. -/
structure IsPlainWord (word : List Char) : Prop where
  upper : word.all Char.isUpper = true
  apart : ∀ pair ∈ ligatures, ¬pair <:+: word

instance (word : List Char) : Decidable (IsPlainWord word) :=
  decidable_of_iff (word.all Char.isUpper = true ∧ ∀ pair ∈ ligatures, ¬pair <:+: word)
    ⟨fun h => ⟨h.1, h.2⟩, fun h => ⟨h.upper, h.apart⟩⟩

theorem isPlainWord_cons (letter : Char) (word : List Char) (h : IsPlainWord (letter :: word)) :
    letter.isUpper = true ∧ IsPlainWord word := by
  have hupper := h.upper
  rw [List.all_cons, Bool.and_eq_true] at hupper
  exact ⟨hupper.1, hupper.2, fun pair hpair hinfix => h.apart pair hpair (List.infix_cons hinfix)⟩

theorem not_isCaseOf (c : Char) (hupper : c.toUpper.isUpper = false) (hdotless : c ≠ '\u0131') (hlong : c ≠ '\u017f')
    (letter : Char) (h : letter.isUpper = true) : ¬IsCaseOf c letter := by
  rintro (rfl | ⟨rfl, _⟩ | ⟨rfl, _⟩)
  · rw [h] at hupper
    cases hupper
  · exact hdotless rfl
  · exact hlong rfl

/-- A character has one capital, which is the letter that it is in some case, if it is one. Otherwise its capitals begin
    with a ligature, and it is no letter in any case. -/
theorem capitals_cases (c : Char) :
    (∃ capital, capitals c = [capital] ∧
        ∀ letter : Char, letter.isUpper = true → (IsCaseOf c letter ↔ capital = letter)) ∨
      ∃ pair ∈ ligatures, pair <+: capitals c ∧ ∀ letter : Char, letter.isUpper = true → ¬IsCaseOf c letter := by
  unfold capitals
  split
  -- Two small letters have the capital of another letter.
  · refine .inl ⟨'I', rfl, fun letter h => ⟨?_, fun heq => .inr (.inl ⟨rfl, heq.symm⟩)⟩⟩
    rintro (rfl | ⟨_, rfl⟩ | ⟨hne, _⟩)
    · exact absurd h (by decide)
    · rfl
    · exact absurd hne (by decide)
  · refine .inl ⟨'S', rfl, fun letter h => ⟨?_, fun heq => .inr (.inr ⟨rfl, heq.symm⟩)⟩⟩
    rintro (rfl | ⟨hne, _⟩ | ⟨_, rfl⟩)
    · exact absurd h (by decide)
    · exact absurd hne (by decide)
    · rfl
  -- These have more than one capital.
  · exact .inr ⟨['S', 'S'], by decide, by decide, not_isCaseOf _ (by decide) (by decide) (by decide)⟩
  · exact .inr ⟨['F', 'F'], by decide, by decide, not_isCaseOf _ (by decide) (by decide) (by decide)⟩
  · exact .inr ⟨['F', 'I'], by decide, by decide, not_isCaseOf _ (by decide) (by decide) (by decide)⟩
  · exact .inr ⟨['F', 'L'], by decide, by decide, not_isCaseOf _ (by decide) (by decide) (by decide)⟩
  · exact .inr ⟨['F', 'F'], by decide, by decide, not_isCaseOf _ (by decide) (by decide) (by decide)⟩
  · exact .inr ⟨['F', 'F'], by decide, by decide, not_isCaseOf _ (by decide) (by decide) (by decide)⟩
  · exact .inr ⟨['S', 'T'], by decide, by decide, not_isCaseOf _ (by decide) (by decide) (by decide)⟩
  · exact .inr ⟨['S', 'T'], by decide, by decide, not_isCaseOf _ (by decide) (by decide) (by decide)⟩
  -- All others have the capital of their own.
  · next hdotless hlong _ _ _ _ _ _ _ _ =>
      refine .inl ⟨c.toUpper, rfl, fun letter _ => ⟨?_, .inl⟩⟩
      rintro (heq | ⟨rfl, _⟩ | ⟨rfl, _⟩)
      · exact heq
      · exact absurd rfl hdotless
      · exact absurd rfl hlong

/-- A name has the capitals of a word exactly if it is the word in some letter case. -/
theorem flatMap_capitals_eq_iff (name word : List Char) (h : IsPlainWord word) :
    name.flatMap capitals = word ↔ List.Forall₂ IsCaseOf name word := by
  induction name generalizing word with
  | nil =>
      rw [List.flatMap_nil, List.forall₂_nil_left_iff]
      exact eq_comm
  | cons c cs ih =>
      rw [List.flatMap_cons, List.forall₂_cons_left_iff]
      rcases capitals_cases c with ⟨capital, hcapital, hcase⟩ | ⟨pair, hpair, hbegin, hnone⟩
      · -- The one capital is the first letter of the word, and the induction is about the letters behind it.
        rw [hcapital, List.singleton_append]
        constructor
        · rintro rfl
          rcases isPlainWord_cons capital _ h with ⟨hupper, hplain⟩
          exact ⟨capital, _, (hcase capital hupper).mpr rfl, (ih _ hplain).mp rfl, rfl⟩
        · rintro ⟨letter, rest, hletter, hrest, rfl⟩
          rcases isPlainWord_cons letter rest h with ⟨hupper, hplain⟩
          rw [(hcase letter hupper).mp hletter, (ih rest hplain).mpr hrest]
      · refine iff_of_false (fun heq => ?_) ?_
        · -- The word would begin with the pair.
          have hinfix : pair <:+: word := heq ▸ (hbegin.trans (List.prefix_append _ _)).isInfix
          exact h.apart pair hpair hinfix
        · rintro ⟨letter, rest, hletter, _, rfl⟩
          exact hnone letter (isPlainWord_cons letter rest h).1 hletter

/-! ## Thresholds -/

/-- Every word for a threshold can be spelled in any letter case, and it is found in the table. -/
theorem isPlainWord_of_mem (word : String) (number : Nat) (h : (word, number) ∈ thresholds) :
    IsPlainWord word.toList ∧ thresholds.lookup word = some number := by
  have hplain : ∀ entry ∈ thresholds, IsPlainWord entry.1.toList := by decide
  have hlookup : thresholds.all (fun entry => thresholds.lookup entry.1 == some entry.2) = true := by decide
  exact ⟨hplain (word, number) h, beq_iff_eq.mp (List.all_eq_true.mp hlookup (word, number) h)⟩

/-- A name that is a word in some letter case has the threshold of the word. -/
theorem thresholdOf_of_isWritten (name word : String) (number : Nat) (hword : (word, number) ∈ thresholds)
    (h : IsWritten name word) : thresholdOf name = number := by
  rcases isPlainWord_of_mem word number hword with ⟨hplain, hlookup⟩
  rw [thresholdOf, (flatMap_capitals_eq_iff _ _ hplain).mpr h, String.ofList_toList, hlookup, Option.getD_some]

/-- A name that is no word in any letter case has the usual threshold. -/
theorem thresholdOf_of_not_isWritten (name : String) (h : ∀ entry ∈ thresholds, ¬IsWritten name entry.1) :
    thresholdOf name = usualThreshold := by
  have hnone : thresholds.lookup (String.ofList (name.toList.flatMap capitals)) = none := by
    refine List.lookup_eq_none_iff.mpr fun entry hentry => ?_
    rw [bne_iff_ne]
    intro heq
    refine h entry hentry ((flatMap_capitals_eq_iff _ _ (isPlainWord_of_mem _ _ hentry).1).mp ?_)
    rw [← heq, String.toList_ofList]
  rw [thresholdOf, hnone, Option.getD_none]

/-- The least level that is written where settings name a level. The topmost logger lets warnings pass, and it decides
    where the name is that of no level. What is no name stands for the usual level. -/
def leastOf (name : String) : Level :=
  if IsWritten name "DEBUG" then .debug
  else if IsWritten name "WARNING" ∨ IsWritten name "WARN" ∨ IsWritten name "NOTSET" then .warning
  else if IsWritten name "ERROR" then .error
  else if IsWritten name "CRITICAL" ∨ IsWritten name "FATAL" then .critical
  else .info

/-- Under settings that name a level, the least number that passes is that of the least level. -/
theorem least_thresholdOf (name : String) (file : LogFile) :
    ({ threshold := thresholdOf name, file } : Setup).least = (leastOf name).number := by
  have hleast : ∀ word number, (word, number) ∈ thresholds → IsWritten name word →
      ({ threshold := thresholdOf name, file } : Setup).least = ({ threshold := number, file } : Setup).least := by
    intro word number hmem h
    rw [thresholdOf_of_isWritten name word number hmem h]
  rw [leastOf]
  by_cases hdebug : IsWritten name "DEBUG"
  · rw [if_pos hdebug]
    exact hleast "DEBUG" 10 (by decide) hdebug
  rw [if_neg hdebug]
  by_cases hwarning : IsWritten name "WARNING" ∨ IsWritten name "WARN" ∨ IsWritten name "NOTSET"
  · rw [if_pos hwarning]
    rcases hwarning with h | h | h
    · exact hleast "WARNING" 30 (by decide) h
    · exact hleast "WARN" 30 (by decide) h
    · exact hleast "NOTSET" 0 (by decide) h
  rw [if_neg hwarning]
  by_cases herror : IsWritten name "ERROR"
  · rw [if_pos herror]
    exact hleast "ERROR" 40 (by decide) herror
  rw [if_neg herror]
  by_cases hcritical : IsWritten name "CRITICAL" ∨ IsWritten name "FATAL"
  · rw [if_pos hcritical]
    rcases hcritical with h | h
    · exact hleast "CRITICAL" 50 (by decide) h
    · exact hleast "FATAL" 50 (by decide) h
  rw [if_neg hcritical]
  -- The usual level has a word as well, and it is left for all other names.
  by_cases hinfo : IsWritten name "INFO"
  · exact hleast "INFO" 20 (by decide) hinfo
  · rw [not_or, not_or] at hwarning
    rw [not_or] at hcritical
    rw [thresholdOf_of_not_isWritten name]
    · rfl
    · simp only [thresholds, List.forall_mem_cons]
      exact ⟨hcritical.1, hcritical.2, herror, hwarning.1, hwarning.2.1, hinfo, hdebug, hwarning.2.2,
        List.forall_mem_nil _⟩

/-! ## Levels and lines -/

/-- The levels in their order. -/
def levels : List Level :=
  [.debug, .info, .warning, .error, .critical]

/-- A level is no higher than another. -/
def Covers (least level : Level) : Prop :=
  levels.idxOf least ≤ levels.idxOf level

instance (least level : Level) : Decidable (Covers least level) :=
  inferInstanceAs (Decidable (_ ≤ _))

/-- The numbers of the levels are in their order. -/
theorem covers_iff (least level : Level) : Covers least level ↔ least.number ≤ level.number := by
  cases least <;> cases level <;> decide

/-- The word for a level in a line. -/
def levelWord : Level → String
  | .debug => "DEBUG"
  | .info => "INFO"
  | .warning => "WARNING"
  | .error => "ERROR"
  | .critical => "CRITICAL"

/-- The line of a record: the time, the logger, the level and what the record says. -/
def spelling (clock : String) (record : Record) : String :=
  String.intercalate " - " [clock, record.logger, levelWord record.level, record.text] ++ "\n"

theorem line_eq_spelling (clock : String) (record : Record) : record.line clock = spelling clock record := by
  rw [Record.line, spelling]
  cases record.level <;> rfl

/-- The name that a line has for a level names its threshold in settings. -/
theorem thresholdOf_name (level : Level) : thresholdOf level.name = level.number := by
  cases level <;> decide

end Log

end CodeBehind
