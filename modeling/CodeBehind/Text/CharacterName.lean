import CodeBehind.Json.Reader
import CodeBehind.Text.CharacterName.Alias
import CodeBehind.Text.CharacterName.Alphabets
import CodeBehind.Text.CharacterName.Pictures
import CodeBehind.Text.CharacterName.Scripts
import CodeBehind.Text.CharacterName.Signs
import CodeBehind.Text.CharacterName.Syllables
import CodeBehind.Text.LowerCase

/-!
# Character names

The character that has a given name.

Most names are kept in blocks and are found in any case. Two families follow a rule instead and are spelled in
capitals only: a syllable of the Korean alphabet is named by the letters it is put together from, and an
ideograph by its number. A few other characters are named by a number too.

## Main definitions

* `syllable?`, `ideograph?`: The families that follow a rule.
* `numbered?`: The other characters that are named by a number.
* `characterNamed?`: The character of a name.
-/

namespace CodeBehind

namespace Text

namespace CharacterName

/-- The letters a syllable begins with; the empty one is silent. -/
def leads : List String :=
  ["G", "GG", "N", "D", "DD", "R", "M", "B", "BB", "S", "SS", "", "J", "JJ", "C", "K", "T", "P", "H"]

/-- The vowels of syllables. -/
def vowels : List String :=
  ["A", "AE", "YA", "YAE", "EO", "E", "YEO", "YE", "O", "WA", "WAE", "OE", "YO", "U", "WEO", "WE", "WI", "YU",
    "EU", "YI", "I"]

/-- The letters a syllable ends with, if it does not end with its vowel. -/
def tails : List String :=
  ["", "G", "GG", "GS", "N", "NJ", "NH", "D", "L", "LG", "LM", "LB", "LS", "LT", "LP", "LH", "M", "B", "BS", "S",
    "SS", "NG", "J", "C", "K", "T", "P", "H"]

/-- The longest of some letters that a text begins with, by its place among them, and what is left. -/
def longest? (letters : List String) (cs : List Char) : Option (Nat × List Char) :=
  let fitting := letters.zipIdx.filter fun entry => entry.1.toList.isPrefixOf cs
  let best := fitting.foldl (fun best entry =>
    if best.any fun found : String × Nat => entry.1.length ≤ found.1.length then best else some entry) none
  best.map fun (letter, place) => (place, cs.drop letter.length)

/-- The first of all syllables; the others follow in order. -/
def firstSyllable : Nat := 0xAC00

/-- The code point of the syllable that letters make up. -/
def syllable? (cs : List Char) : Option Nat := do
  let (lead, cs) ← longest? leads cs
  let (vowel, cs) ← longest? vowels cs
  let (tail, cs) ← longest? tails cs
  if cs.isEmpty then some (firstSyllable + (lead * vowels.length + vowel) * tails.length + tail) else none

/-- The ranges of the ideographs that are named by their number. -/
def ideographRanges : List (Nat × Nat) := [
  (0x3400, 0x4DBF), (0x4E00, 0x9FFF), (0x20000, 0x2A6DF), (0x2A700, 0x2B738), (0x2B740, 0x2B81D),
  (0x2B820, 0x2CEA1), (0x2CEB0, 0x2EBE0), (0x30000, 0x3134A)]

/-- The number that capital hexadecimal digits denote. -/
def number? (digits : List Char) : Option Nat :=
  if digits.any Char.isLower then none else Json.hexNumber? digits

/-- The code point of the ideograph with a number of four or five digits. -/
def ideograph? (digits : List Char) : Option Nat :=
  if digits.length = 4 || digits.length = 5 then (number? digits).filter (inRanges ideographRanges) else none

/-- The beginnings of the other names with a number, and the ranges of the numbers. -/
def numberedRanges : List (String × Nat × Nat) := [
  ("CJK COMPATIBILITY IDEOGRAPH-", 0xF900, 0xFA6D), ("CJK COMPATIBILITY IDEOGRAPH-", 0xFA70, 0xFAD9),
  ("CJK COMPATIBILITY IDEOGRAPH-", 0x2F800, 0x2FA1D), ("NUSHU CHARACTER-", 0x1B170, 0x1B2FB),
  ("KHITAN SMALL SCRIPT CHARACTER-", 0x18B00, 0x18CD5)]

/-- The code point of such a name: the digits are those of the number and no more. -/
def numbered? (name : List Char) : Option Nat :=
  numberedRanges.findSome? fun (start, first, last) =>
    if start.toList.isPrefixOf name then
      let digits := name.drop start.length
      (Json.hexNumber? digits).filter fun n =>
        first ≤ n && n ≤ last && (Nat.toDigits 16 n).length = digits.length
    else none

/-- All blocks of names. -/
def blocks : List Block :=
  alphabets ++ signs ++ syllables ++ scripts ++ pictures

/-- The code point of a name. -/
def code? (name : List Char) : Option Nat :=
  let syllable := "HANGUL SYLLABLE ".toList
  let ideograph := "CJK UNIFIED IDEOGRAPH-".toList
  if syllable.isPrefixOf name then syllable? (name.drop syllable.length)
  else if ideograph.isPrefixOf name then ideograph? (name.drop ideograph.length)
  else
    let name := name.map Char.toUpper
    match numbered? name with
    | some code => some code
    | none =>
      match blocks.findSome? (Block.code? name) with
      | some code => some code
      | none => aliases.lookup (String.ofList name)

end CharacterName

/-- The character of a name. -/
def characterNamed? (name : List Char) : Option Char :=
  (CharacterName.code? name).map Char.ofNat

end Text

end CodeBehind
