/-!
# Lines

The two notions of a line the library needs, and what ends one.

Source text has lines that end at a line feed, once carriage returns have been turned into line feeds.
A comment block is stricter: it must break wherever *any* reader of the text might break a line, so it
also breaks at vertical tab, form feed, the information separators, the next-line control and the two
Unicode separators. Keeping the two apart is what lets the banner be safe without changing how the body
is laid out.

## Main definitions

* `unifyLineEndings`: Every line ending becomes a line feed.
* `lines`: The pieces between line feeds; never an empty list.
* `endsLine`: The characters at which a comment block breaks.
* `commentLines`: The pieces between those, without an empty last one.
* `joinLines`: Pieces put together again with line feeds.
-/

namespace CodeBehind

namespace Text

/-- Shorten each pair of carriage return and line feed to the line feed. -/
def mergeReturns : List Char → List Char
  | '\r' :: '\n' :: cs => '\n' :: mergeReturns cs
  | c :: cs => c :: mergeReturns cs
  | [] => []

/-- Turn pairs and then single carriage returns into line feeds. -/
def unifyLineEndings (cs : List Char) : List Char :=
  (mergeReturns cs).map fun c => if c = '\r' then '\n' else c

/-- The lines of a text: what stands between its line feeds. -/
def lines (cs : List Char) : List (List Char) :=
  cs.splitOn '\n'

/-- Put lines together with a line feed between any two. -/
def joinLines (ls : List (List Char)) : List Char :=
  ['\n'].intercalate ls

/-- The characters that end a line for some reader of the text. -/
def endsLine (c : Char) : Bool :=
  let n := c.toNat
  (10 ≤ n && n ≤ 13) || (28 ≤ n && n ≤ 30) || n == 0x85 || n == 0x2028 || n == 0x2029

/-- Split at every line-ending character, where `current` holds the characters of the open line in
    reverse; a carriage return takes a following line feed with it, and a line that was never begun is
    not counted. -/
def commentLinesFrom (current : List Char) : List Char → List (List Char)
  | [] => if current.isEmpty then [] else [current.reverse]
  | '\r' :: '\n' :: cs => current.reverse :: commentLinesFrom [] cs
  | c :: cs =>
    if endsLine c then current.reverse :: commentLinesFrom [] cs
    else commentLinesFrom (c :: current) cs

/-- The lines a comment block has to break a text into. -/
def commentLines (cs : List Char) : List (List Char) :=
  commentLinesFrom [] cs

end Text

end CodeBehind
