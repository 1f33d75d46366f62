import CodeBehind.Text.Blank
import CodeBehind.Text.Lines

/-!
# Indentation

Shifting a finished text to the right, line by line.

Only lines with something to see move. A blank line stays exactly as it is, so indenting never creates
trailing space. A level below zero shifts nothing, like level zero.

## Main definitions

* `indentLine`: One line behind a margin.
* `indent`: Every line of a text behind `level` copies of a unit.
-/

namespace CodeBehind

namespace Text

/-- The unit of indentation of generated source. -/
def indentUnit : String := "    "

/-- Repeat a text; a negative count gives the empty text. -/
def repeated (unit : List Char) (count : Int) : List Char :=
  (List.replicate count.toNat unit).flatten

/-- Put a margin before a line that is not blank. -/
def indentLine (margin line : List Char) : List Char :=
  if line.all isBlank then line else margin ++ line

/-- Indent every line of a text that is not blank. -/
def indent (s : String) (level : Int) (unit : String) : String :=
  String.ofList (joinLines ((lines s.toList).map (indentLine (repeated unit.toList level))))

end Text

end CodeBehind
