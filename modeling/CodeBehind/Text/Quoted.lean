import CodeBehind.Text.Printable

/-!
# Quoted texts

How a text is shown inside a message or a list: between quotes, with everything that would not be visible
written as an escape.

Single quotes are used unless the text holds a single quote and no double quote. The short escapes are
those for the backslash, tab, line feed and carriage return; other unprintable characters are written by
their code point, with two, four or eight hexadecimal digits.

## Main definitions

* `hex`: A number in lower-case hexadecimal, padded to a width.
* `quoteMark`: The quote that a text is put between.
* `quoted`: The text between its quotes.
* `quotedList`: Texts in brackets.
-/

namespace CodeBehind

namespace Text

/-- The hexadecimal digits of a number, at least `width` of them. -/
def hex (width n : Nat) : List Char :=
  let digits := Nat.toDigits 16 n
  List.replicate (width - digits.length) '0' ++ digits

/-- The quote a text is put between. -/
def quoteMark (cs : List Char) : Char :=
  if cs.contains '\'' && !cs.contains '"' then '"' else '\''

/-- One character inside the given quotes. -/
def quotedChar (mark c : Char) : List Char :=
  if c = mark || c = '\\' then ['\\', c]
  else if c = '\t' then ['\\', 't']
  else if c = '\n' then ['\\', 'n']
  else if c = '\r' then ['\\', 'r']
  else if isPrintable c then [c]
  else if c.toNat ≤ 0xFF then '\\' :: 'x' :: hex 2 c.toNat
  else if c.toNat ≤ 0xFFFF then '\\' :: 'u' :: hex 4 c.toNat
  else '\\' :: 'U' :: hex 8 c.toNat

/-- A text between quotes. -/
def quoted (s : String) : String :=
  let mark := quoteMark s.toList
  String.ofList (mark :: s.toList.flatMap (quotedChar mark) ++ [mark])

/-- Quoted texts in brackets, with a comma between any two. -/
def quotedList (texts : List String) : String :=
  "[" ++ ", ".intercalate (texts.map quoted) ++ "]"

end Text

end CodeBehind
