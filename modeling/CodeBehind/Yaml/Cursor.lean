/-!
# Reading positions

Where a reader of YAML stands in a text, and what it sees from there.

The layout of YAML depends on columns and on whether two places are on one line, so a position counts lines and
columns besides the characters passed. A byte order mark takes no column. The end of the text is seen as no
character at all, and it ends a line like a line break does.

## Main definitions

* `Cursor`: A position with what is left of the text.
* `isBreak`, `endsLine`, `endsWord`: What ends a line, and what ends a word.
* `Cursor.next`, `Cursor.skipWhile`, `Cursor.takeWhile`: Moving on.
* `Cursor.lineBreak`: A line break, as it is read.
* `Cursor.atSeparator`: Whether the marks between documents come next.
-/

namespace CodeBehind

namespace Yaml

/-- A position in a text. -/
structure Cursor where
  rest : List Char
  index : Nat := 0
  line : Nat := 0
  column : Int := 0

/-- The characters that break a line. -/
def isBreak (c : Char) : Bool :=
  c = '\n' || c = '\x85' || c = '\u2028' || c = '\u2029'

/-- Whether the text or the line ends here. -/
def endsLine : Option Char → Bool
  | none => true
  | some c => isBreak c

/-- Whether the text, the line or a word ends here. -/
def endsWord : Option Char → Bool
  | none => true
  | some c => isBreak c || c = ' ' || c = '\t'

/-- Whether the text or the line ends here, or a space comes. -/
def endsLineOrSpace : Option Char → Bool
  | none => true
  | some c => isBreak c || c = ' '

namespace Cursor

/-- The character that comes next. -/
def peek (cur : Cursor) : Option Char :=
  cur.rest.head?

/-- The character after the next `n`. -/
def look (cur : Cursor) (n : Nat) : Option Char :=
  cur.rest[n]?

/-- Pass one character. -/
def next (cur : Cursor) : Cursor :=
  match cur.rest with
  | [] => cur
  | c :: rest =>
    if isBreak c then ⟨rest, cur.index + 1, cur.line + 1, 0⟩
    else if c = '\uFEFF' then ⟨rest, cur.index + 1, cur.line, cur.column⟩
    else ⟨rest, cur.index + 1, cur.line, cur.column + 1⟩

/-- Pass several characters. -/
def skip (cur : Cursor) : Nat → Cursor
  | 0 => cur
  | n + 1 => cur.next.skip n

/-- The characters up to the first that is not wanted, and the position there. -/
def takeWhile (cur : Cursor) (want : Char → Bool) : List Char × Cursor :=
  let taken := cur.rest.takeWhile want
  (taken, cur.skip taken.length)

/-- The position of the first character that is not wanted. -/
def skipWhile (cur : Cursor) (want : Char → Bool) : Cursor :=
  (cur.takeWhile want).2

/-- The position after the spaces that come next. -/
def skipSpaces (cur : Cursor) : Cursor :=
  cur.skipWhile (· = ' ')

/-- Pass a line break if one comes: the next-line control is read as a line feed, the separators as
    themselves. -/
def lineBreak (cur : Cursor) : List Char × Cursor :=
  match cur.peek with
  | some '\n' => (['\n'], cur.next)
  | some '\x85' => (['\n'], cur.next)
  | some '\u2028' => (['\u2028'], cur.next)
  | some '\u2029' => (['\u2029'], cur.next)
  | _ => ([], cur)

/-- The position at the end of a comment, if one comes. -/
def skipComment (cur : Cursor) : Cursor :=
  if cur.peek = some '#' then cur.skipWhile fun c => !isBreak c else cur

/-- Whether the marks between two documents come next. -/
def atSeparator (cur : Cursor) : Bool :=
  (cur.rest.take 3 = "---".toList || cur.rest.take 3 = "...".toList) && endsWord (cur.look 3)

end Cursor

end Yaml

end CodeBehind
