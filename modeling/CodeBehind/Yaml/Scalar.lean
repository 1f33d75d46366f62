import CodeBehind.Json.Reader
import CodeBehind.Yaml.Cursor

/-!
# Scalars

The texts inside a YAML file: plain, between quotes, or as an indented block.

A line break inside a plain or quoted scalar is folded: alone it becomes a space, and further ones stay. In a
block scalar the indentation is cut off, and the marks after its sign decide whether lines are folded and what
becomes of the line breaks at its end. Each reader starts at the first character of the scalar and gives the
text with the position after it, or nothing if the text is not well formed.

The loops are bounded by the number of characters left, of which each turn takes at least one.

## Main definitions

* `plain`: A plain scalar.
* `quoted`: A scalar between single or double quotes.
* `block`: A literal or folded block.
-/

namespace CodeBehind

namespace Yaml

/-- Spaces and line breaks that come next, as the line breaks among them; `none` at the marks between two
    documents. -/
def breaksAndSpaces : Nat → Cursor → Option (List Char × Cursor)
  | 0, cur => some ([], cur)
  | fuel + 1, cur =>
    match cur.peek with
    | some ' ' => breaksAndSpaces fuel cur.next
    | some c =>
      if isBreak c then
        let (found, after) := cur.lineBreak
        if after.atSeparator then none
        else (breaksAndSpaces fuel after).map fun (more, after) => (found ++ more, after)
      else some ([], cur)
    | none => some ([], cur)

/-- Fold a line break with those that follow it. -/
def fold (first more : List Char) : List Char :=
  if first ≠ ['\n'] then first ++ more
  else if more.isEmpty then [' ']
  else more

/-! ## Plain scalars -/

/-- The space after a word of a plain scalar, whether a line was broken in it, and the position after it. -/
def plainSpaces (cur : Cursor) : List Char × Bool × Cursor :=
  let (spaces, after) := cur.takeWhile (· = ' ')
  if endsLine after.peek && after.peek.isSome then
    let (first, start) := after.lineBreak
    if start.atSeparator then ([], true, start)
    else
      match breaksAndSpaces (start.rest.length + 1) start with
      | some (more, after) => (fold first more, true, after)
      | none => ([], true, start)
  else (spaces, false, after)

/-- The characters of a word of a plain scalar. -/
def plainWord (inFlow : Bool) : List Char → List Char
  | [] => []
  | c :: rest =>
    let ends :=
      endsWord (some c) ||
      (c = ':' && (endsWord rest.head? || (inFlow && rest.head?.any fun d => ",[]\x7b\x7d".toList.contains d))) ||
      (inFlow && ",?[]\x7b\x7d".toList.contains c)
    if ends then [] else c :: plainWord inFlow rest

/-- A plain scalar whose further lines start at column `indent` or later, with `space` before its next word,
    and whether a line was broken last. -/
def plainFrom (inFlow : Bool) (indent : Int) : Nat → List Char → Bool → Cursor → List Char × Bool × Cursor
  | 0, _, broke, cur => ([], broke, cur)
  | fuel + 1, space, broke, cur =>
    let word := plainWord inFlow cur.rest
    if cur.peek = some '#' || word.isEmpty then ([], broke, cur)
    else
      let (space', broke, after) := plainSpaces (cur.skip word.length)
      let text := space ++ word
      if space'.isEmpty || after.peek = some '#' || (!inFlow && after.column < indent) then (text, broke, after)
      else
        let (more, broke, after) := plainFrom inFlow indent fuel space' broke after
        (text ++ more, broke, after)

/-- A plain scalar, and whether a line was broken at its end, after which a key may begin. -/
def plain (inFlow : Bool) (indent : Int) (cur : Cursor) : List Char × Bool × Cursor :=
  plainFrom inFlow indent (cur.rest.length + 1) [] false cur

/-! ## Quoted scalars -/

/-- The character of an escape of one letter. -/
def escapedLetter? : Char → Option Char
  | '0' => some '\x00'
  | 'a' => some '\x07'
  | 'b' => some '\x08'
  | 't' => some '\t'
  | '\t' => some '\t'
  | 'n' => some '\n'
  | 'v' => some '\x0b'
  | 'f' => some '\x0c'
  | 'r' => some '\r'
  | 'e' => some '\x1b'
  | ' ' => some ' '
  | '"' => some '"'
  | '\\' => some '\\'
  | '/' => some '/'
  | 'N' => some '\x85'
  | '_' => some '\xa0'
  | 'L' => some '\u2028'
  | 'P' => some '\u2029'
  | _ => none

/-- The number of digits after the letter of a numeric escape. -/
def escapeDigits? : Char → Option Nat
  | 'x' => some 2
  | 'u' => some 4
  | 'U' => some 8
  | _ => none

/-- Line breaks with the blanks between them, as the line breaks; `none` at the marks between documents. -/
def quotedBreaks : Nat → Cursor → Option (List Char × Cursor)
  | 0, cur => some ([], cur)
  | fuel + 1, cur =>
    if cur.atSeparator then none
    else
      let after := cur.skipWhile fun c => c = ' ' || c = '\t'
      if endsLine after.peek && after.peek.isSome then
        let (found, start) := after.lineBreak
        (quotedBreaks fuel start).map fun (more, after) => (found ++ more, after)
      else some ([], after)

/-- The blanks inside a quoted scalar, folded if they hold line breaks. -/
def quotedSpaces (cur : Cursor) : Option (List Char × Cursor) :=
  let (spaces, after) := cur.takeWhile fun c => c = ' ' || c = '\t'
  match after.peek with
  | none => none
  | some c =>
    if isBreak c then
      let (first, start) := after.lineBreak
      (quotedBreaks (start.rest.length + 1) start).map fun (more, after) => (fold first more, after)
    else some (spaces, after)

/-- An escape after its backslash; an escaped line break joins two lines. Each escape is one code point, so two halves
    stay apart. -/
def quotedEscape (cur : Cursor) : Option (List Point × Cursor) :=
  match cur.peek with
  | none => none
  | some c =>
    match escapedLetter? c with
    | some found => some ([.char found], cur.next)
    | none =>
      match escapeDigits? c with
      | some width =>
        let digits := cur.next.rest.take width
        match if digits.length = width then Json.hexNumber? digits else none with
        | some n =>
          if n ≤ 0x10FFFF then some ([.ofNat n], cur.next.skip width) else none
        | none => none
      | none =>
        if isBreak c then
          let (_, start) := cur.lineBreak
          (quotedBreaks (start.rest.length + 1) start).map fun (found, after) => (found.map .char, after)
        else none

/-- A quoted scalar after its opening quote. -/
def quotedFrom (double : Bool) : Nat → Cursor → Option (List Point × Cursor)
  | 0, _ => none
  | fuel + 1, cur =>
    let more (found : List Point) (after : Cursor) : Option (List Point × Cursor) :=
      (quotedFrom double fuel after).map fun (text, after) => (found ++ text, after)
    match cur.peek with
    | none => none
    | some c =>
      if c = '\'' && !double then
        if cur.look 1 = some '\'' then more [.char '\''] (cur.skip 2) else some ([], cur.next)
      else if c = '"' && double then some ([], cur.next)
      else if c = '\\' && double then
        match quotedEscape cur.next with
        | some (found, after) => more found after
        | none => none
      else if endsWord (some c) then
        match quotedSpaces cur with
        | some (found, after) => more (found.map .char) after
        | none => none
      else more [.char c] cur.next

/-- A quoted scalar. -/
def quoted (cur : Cursor) : Option (List Point × Cursor) :=
  quotedFrom (cur.peek = some '"') (cur.rest.length + 1) cur.next

/-! ## Block scalars -/

/-- What becomes of the line breaks at the end of a block. -/
inductive Chomping where
  | clip
  | strip
  | keep
  deriving DecidableEq

/-- The line breaks among blank lines, whose spaces up to column `indent` are passed. -/
def blockBreaks (indent : Int) : Nat → Cursor → List Char × Cursor
  | 0, cur => ([], cur)
  | fuel + 1, cur =>
    match cur.peek with
    | some c =>
      if c = ' ' && cur.column < indent then blockBreaks indent fuel cur.next
      else if isBreak c then
        let (found, start) := cur.lineBreak
        let (more, after) := blockBreaks indent fuel start
        (found ++ more, after)
      else ([], cur)
    | none => ([], cur)

/-- The line breaks among the blank lines at the start of a block, the greatest column in them, and the
    position of its first visible character. -/
def blockStart : Nat → Int → Cursor → List Char × Int × Cursor
  | 0, most, cur => ([], most, cur)
  | fuel + 1, most, cur =>
    match cur.peek with
    | some c =>
      if c = ' ' then blockStart fuel (max most cur.next.column) cur.next
      else if isBreak c then
        let (found, start) := cur.lineBreak
        let (more, most, after) := blockStart fuel most start
        (found ++ more, most, after)
      else ([], most, cur)
    | none => ([], most, cur)

/-- The lines of a block at column `indent`, after the line breaks `breaks`: their text, the last line break,
    the line breaks after it, and the position there. -/
def blockLines (folded : Bool) (indent : Int) :
    Nat → List Char → Cursor → List Char × List Char × List Char × Cursor
  | 0, breaks, cur => ([], [], breaks, cur)
  | fuel + 1, breaks, cur =>
    if cur.column ≠ indent || cur.peek.isNone then ([], [], breaks, cur)
    else
      let (line, ending) := cur.takeWhile fun c => !isBreak c
      let (lineBreak, start) := ending.lineBreak
      let (breaks', after) := blockBreaks indent (start.rest.length + 1) start
      let isBlank (c : Option Char) : Bool := c = some ' ' || c = some '\t'
      if after.column = indent && after.peek.isSome then
        let joint :=
          if folded && lineBreak = ['\n'] && !isBlank line.head? && !isBlank after.peek then
            if breaks'.isEmpty then [' '] else []
          else lineBreak
        let (text, last, ends, position) := blockLines folded indent fuel breaks' after
        (breaks ++ line ++ joint ++ text, last, ends, position)
      else (breaks ++ line, lineBreak, breaks', after)

/-- The marks after the sign of a block: what becomes of its end, and how far it is indented. -/
def blockMarks (cur : Cursor) : Option (Chomping × Option Nat × Cursor) :=
  let chomping? (c : Option Char) : Option Chomping :=
    if c = some '+' then some .keep else if c = some '-' then some .strip else none
  let digit? (c : Option Char) : Option Nat :=
    c.bind fun c => if c.isDigit then some (c.toNat - '0'.toNat) else none
  let marks : Option (Chomping × Option Nat × Cursor) :=
    match chomping? cur.peek with
    | some chomping =>
      match digit? cur.next.peek with
      | some 0 => none
      | some n => some (chomping, some n, cur.skip 2)
      | none => some (chomping, none, cur.next)
    | none =>
      match digit? cur.peek with
      | some 0 => none
      | some n =>
        match chomping? cur.next.peek with
        | some chomping => some (chomping, some n, cur.skip 2)
        | none => some (.clip, some n, cur.next)
      | none => some (.clip, none, cur)
  marks.filter fun (_, _, after) => endsLineOrSpace after.peek

/-- A block below the column `parent`. -/
def block (parent : Int) (cur : Cursor) : Option (List Char × Cursor) := do
  let folded := cur.peek = some '>'
  let (chomping, increment, marked) ← blockMarks cur.next
  let ending := marked.skipSpaces.skipComment
  if !endsLine ending.peek then none
  else
    let start := ending.lineBreak.2
    let least := max 1 (parent + 1)
    let fuel := start.rest.length + 1
    let (indent, breaks, first) := match increment with
      | none =>
        let (breaks, most, first) := blockStart fuel 0 start
        (max least most, breaks, first)
      | some n =>
        let indent := least + n - 1
        let (breaks, first) := blockBreaks indent fuel start
        (indent, breaks, first)
    let (text, last, ends, after) := blockLines folded indent fuel breaks first
    let kept := match chomping with
      | .strip => []
      | .clip => last
      | .keep => last ++ ends
    return (text ++ kept, after)

end Yaml

end CodeBehind
