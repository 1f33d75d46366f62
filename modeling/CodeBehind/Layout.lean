import CodeBehind.Text.Indent

/-!
# Laying out lines

How a sequence of lines and blocks becomes indented text.

A block opens with a brace on a line of its own and closes the same way; what stands between is one unit
deeper. The depth is an integer, because nothing stops a caller from closing more blocks than were opened:
below zero there is no margin, and it takes as many openings to come back. An empty line gets no margin, at
any depth.

## Main definitions

* `Step`: A line, or the beginning or end of a block.
* `linesAt`: The lines of some steps that begin at a depth.
* `write`: The text of some steps.
-/

namespace CodeBehind

namespace Layout

/-- One step of writing. -/
inductive Step where
  | line (text : String)
  | openBlock
  | closeBlock
  deriving DecidableEq, Repr

/-- A line at a depth; the empty line stays empty. -/
def lineAt (unit : List Char) (depth : Int) (text : List Char) : List Char :=
  if text.isEmpty then [] else Text.repeated unit depth ++ text

/-- The lines of some steps, from a depth on. -/
def linesAt (unit : List Char) (depth : Int) : List Step → List (List Char)
  | [] => []
  | .line text :: steps => lineAt unit depth text.toList :: linesAt unit depth steps
  | .openBlock :: steps => lineAt unit depth ['{'] :: linesAt unit (depth + 1) steps
  | .closeBlock :: steps => lineAt unit (depth - 1) ['}'] :: linesAt unit (depth - 1) steps

/-- The text of some steps. -/
def write (unit : String) (steps : List Step) : String :=
  String.ofList (Text.joinLines (linesAt unit.toList 0 steps))

end Layout

end CodeBehind
