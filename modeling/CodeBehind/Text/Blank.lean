/-!
# Blank characters

Which characters count as white space, and trimming at either end.

The class is the Unicode one for text, not the six ASCII blanks: the four information separators, the
next-line control, the no-break space and the general-punctuation spaces belong to it. The zero-width
characters do not. Every place of the library that asks whether a name is blank, cuts trailing space or
looks for the first visible character of a line asks it here, so they cannot disagree.

## Main definitions

* `isBlank`: The white-space class.
* `trimEnd`: A text without its trailing blanks.
* `trimStart`: A text without its leading blanks.
* `allBlank`: Nothing but blanks, the empty text included.
-/

namespace CodeBehind

namespace Text

/-- The blank characters: the controls from tab to carriage return, the separators from U+001C to the
    space, and the spacing characters of the upper planes. -/
def isBlank (c : Char) : Bool :=
  let n := c.toNat
  (9 ≤ n && n ≤ 13) || (28 ≤ n && n ≤ 32) || n == 0x85 || n == 0xA0 || n == 0x1680 ||
    (0x2000 ≤ n && n ≤ 0x200A) || n == 0x2028 || n == 0x2029 || n == 0x202F || n == 0x205F || n == 0x3000

/-- Drop the blanks at the end. -/
def trimEnd (cs : List Char) : List Char :=
  (cs.reverse.dropWhile isBlank).reverse

/-- Drop the blanks at the start. -/
def trimStart (cs : List Char) : List Char :=
  cs.dropWhile isBlank

/-- Whether a text holds no visible character. -/
def allBlank (s : String) : Bool :=
  s.toList.all isBlank

end Text

end CodeBehind
