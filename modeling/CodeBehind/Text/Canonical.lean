import CodeBehind.Text.Blank
import CodeBehind.Text.Lines

/-!
# Canonical source text

The one form every generated text is brought into, so that the same tree always gives the same bytes.

A text in this form has line feeds only, no tabs and no space at the end of a line. Blank lines separate
paragraphs and nothing else: there is never more than one in a row, none at either end, none after a line
that opens a block and none before a line that closes one. `settle` decides the blank lines in one walk.
What it has to remember is only the last line it kept and whether a blank has been seen since, because a
blank line is not written until the line after it is known.

## Main definitions

* `expandTabs`: Tabs replaced by the spaces up to the next stop.
* `opensBlock`, `closesBlock`: The lines that take no blank after or before them.
* `settle`: The kept lines, with the blank lines that are due between them.
* `normalize`: The whole pass on a text.
-/

namespace CodeBehind

namespace Text

/-- The distance between tab stops, in characters. -/
def tabWidth : Nat := 4

/-- Replace tabs in a line whose first character stands in column `column`. -/
def expandTabsFrom (column : Nat) : List Char → List Char
  | [] => []
  | c :: cs =>
    if c = '\t' then
      let gap := tabWidth - column % tabWidth
      List.replicate gap ' ' ++ expandTabsFrom (column + gap) cs
    else c :: expandTabsFrom (column + 1) cs

/-- Replace the tabs of a line; every other character counts as one column. -/
def expandTabs (line : List Char) : List Char :=
  expandTabsFrom 0 line

/-- A line as it is kept: tabs expanded, nothing blank at its end. -/
def tidyLine (line : List Char) : List Char :=
  trimEnd (expandTabs line)

/-- Whether a line ends in an opening brace. -/
def opensBlock (line : List Char) : Bool :=
  line.getLast? == some '{'

/-- Whether the first visible character of a line is a closing brace. -/
def closesBlock (line : List Char) : Bool :=
  (trimStart line).head? == some '}'

/-- Whether a blank line may stand between two lines. -/
def separable (before after : List Char) : Bool :=
  !(opensBlock before || closesBlock after)

/-- The lines to keep after `last`, where `gap` says whether a blank line has been passed since; a blank
    is written at most once, and only between lines that may be separated. -/
def settle (last : Option (List Char)) (gap : Bool) : List (List Char) → List (List Char)
  | [] => []
  | [] :: rest => settle last true rest
  | (c :: cs) :: rest =>
    let line := c :: cs
    let kept := line :: settle (some line) false rest
    match last with
    -- No blank stands before the first line of a text.
    | none => kept
    | some before => if gap && separable before line then [] :: kept else kept

/-- The lines of the canonical form of a text. -/
def canonicalLines (cs : List Char) : List (List Char) :=
  settle none false ((lines (unifyLineEndings cs)).map tidyLine)

/-- What ends every line of a text in this form. -/
def lineEnd : Char := '\n'

/-- Write lines with a line feed after each. -/
def terminate (ls : List (List Char)) : List Char :=
  ls.flatMap (· ++ [lineEnd])

/-- Bring a text into canonical form; a text without content becomes empty. -/
def normalize (s : String) : String :=
  String.ofList (terminate (canonicalLines s.toList))

end Text

end CodeBehind
