import CodeBehind.Text.Quoted

/-!
# Code points

Texts that need not consist of characters.

A notation with escapes can name every code point, and some of them are no characters: they are the halves of the pairs
by which another encoding writes the characters beyond the first plane. A half without the other one is kept as it is,
so that nothing is lost when it is read. No bytes stand for it. Where a text has to be shown by characters alone, two
halves that belong together are one character, and any other half is replaced.

## Main definitions

* `Point`: A character or a half.
* `Point.ofNat`, `Point.number`: A code point and its number.
* `Point.characters?`: The characters of a text that has nothing else.
* `Point.shown`: The characters by which a text is shown.
* `Point.quoted`: A text between its quotes.
-/

namespace CodeBehind

/-- A code point: a character, or one of the halves, counted from the first of them. -/
inductive Point where
  | char (c : Char)
  | half (place : Fin 0x800)
  deriving DecidableEq, Repr

namespace Point

/-- The number of the first half. -/
def firstHalf : Nat := 0xD800

/-- Whether a number is that of the first half of a pair. -/
def isHighHalf (n : Nat) : Bool := 0xD800 ≤ n && n < 0xDC00

/-- Whether a number is that of the second half of a pair. -/
def isLowHalf (n : Nat) : Bool := 0xDC00 ≤ n && n < 0xE000

/-- The character of a pair of halves. -/
def pairCharacter (high low : Nat) : Char :=
  Char.ofNat (0x10000 + (high - 0xD800) * 0x400 + (low - 0xDC00))

/-- The code point with a number, of which there are 0x110000. -/
def ofNat (n : Nat) : Point :=
  if n.isValidChar then .char (Char.ofNat n) else .half (Fin.ofNat 0x800 (n - firstHalf))

/-- The number of a code point. -/
def number : Point → Nat
  | char c => c.toNat
  | half place => firstHalf + place

/-- The character that a code point is, if it is one. -/
def char? : Point → Option Char
  | char c => some c
  | half _ => none

/-- The characters of a text, if it has nothing else. -/
def characters? : List Point → Option (List Char)
  | [] => some []
  | char c :: rest => (characters? rest).map (c :: ·)
  | half _ :: _ => none

/-- A text of characters. -/
def ofString (text : String) : List Point :=
  text.toList.map char

/-- A code point before a text; the first half of a pair before the second one makes a character with it. -/
def join (point : Point) (points : List Point) : List Point :=
  match point, points with
  | half first, half second :: rest =>
    let high := (half first).number
    let low := (half second).number
    if isHighHalf high && isLowHalf low then char (pairCharacter high low) :: rest else point :: points
  | _, _ => point :: points

/-- The characters by which a text is shown. -/
def shown (points : List Point) : List Char :=
  (points.foldr join []).map fun point => point.char?.getD '\uFFFD'

/-- One code point inside the given quotes; a half is written by its number. -/
def quotedPoint (mark : Char) : Point → List Char
  | char c => Text.quotedChar mark c
  | half place => '\\' :: 'u' :: Text.hex 4 (half place).number

/-- A text between quotes. -/
def quoted (points : List Point) : String :=
  let mark := Text.quoteMark (points.filterMap char?)
  String.ofList (mark :: points.flatMap (quotedPoint mark) ++ [mark])

end Point

end CodeBehind
