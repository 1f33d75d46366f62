import CodeBehind.Value.Basic
import CodeBehind.Yaml.Resolve

/-!
# Writing YAML

The YAML text of sections of named values, in ASCII.

A text is written in the simplest way that reads back: plain if it looks like nothing else and holds nothing
that has a meaning there, else between single quotes, and between double quotes if only escapes will do. A line
that has grown long is broken at the next single space; between double quotes, where spaces count, the break is
escaped.

## Main definitions

* `allowsPlain`, `allowsSingle`: Which ways of writing a text are open.
* `plainText`, `singleText`, `doubleText`: The three ways.
* `valueText`: A value at a column.
* `write`: Sections of named values.
-/

namespace CodeBehind

namespace Yaml

/-- The column after which a line is broken. -/
def bestWidth : Nat := 80

/-- The column at which the further lines of a value begin. -/
def continuation : Nat := 4

/-- The line break and the indentation of a further line. -/
def newLine : List Char :=
  '\n' :: List.replicate continuation ' '

/-- The white space that may stand before or after a mark. -/
def isGap (c : Char) : Bool :=
  "\x00 \t\r\n\x85\u2028\u2029".toList.contains c

/-- Whether a mark would end here: at the end of the text or before white space. -/
def endsMark (rest : List Char) : Bool :=
  rest.head?.all isGap

/-- Whether a text holds, after its first character, a mark that would end it, where `gap` says whether white
    space came last. -/
def hasInnerMark (gap : Bool) : List Char → Bool
  | [] => false
  | c :: rest => (c = ':' && endsMark rest) || (c = '#' && gap) || hasInnerMark (isGap c) rest

/-- Whether a text holds a mark that has a meaning outside quotes. -/
def hasMark (cs : List Char) : Bool :=
  match cs with
  | [] => false
  | c :: rest =>
    "---".toList.isPrefixOf cs || "...".toList.isPrefixOf cs || "#,[]\x7b\x7d&*!|>'\"%@`".toList.contains c ||
      ((c = '?' || c = ':' || c = '-') && endsMark rest) || hasInnerMark (isGap c) rest

/-- Whether a character can be written without an escape. -/
def isOrdinary (c : Char) : Bool :=
  c = '\n' || (' ' ≤ c && c ≤ '~')

/-- Whether one character comes right after another somewhere in a text. -/
def hasPair (a b : Char) : List Char → Bool
  | c :: d :: rest => (c = a && d = b) || hasPair a b (d :: rest)
  | _ => false

/-- Whether a text may stand between single quotes. -/
def allowsSingle (cs : List Char) : Bool :=
  cs.all isOrdinary && !hasPair ' ' '\n' cs && !hasPair '\n' ' ' cs

/-- Whether a text may stand without quotes. -/
def allowsPlain (cs : List Char) : Bool :=
  resolve (String.ofList cs) = .text && allowsSingle cs && !cs.contains '\n' && cs.head? ≠ some ' ' &&
    cs.getLast? ≠ some ' ' && !hasMark cs

/-- A text as runs of spaces, of line breaks, and of other characters. -/
def runs (cs : List Char) : List (List Char) :=
  cs.splitBy fun a b => (a = ' ') == (b = ' ') && (a = '\n') == (b = '\n')

/-- Runs without quotes from a column on. -/
def plainText (column : Nat) : List (List Char) → List Char
  | [] => []
  | run :: rest =>
    if run = [' '] && bestWidth < column then newLine ++ plainText continuation rest
    else run ++ plainText (column + run.length) rest

/-- A run between single quotes: quotes are doubled. -/
def doubleQuotes (run : List Char) : List Char :=
  run.flatMap fun c => if c = '\'' then ['\'', '\''] else [c]

/-- Runs between single quotes from a column on; a run of line breaks gets one more. -/
def singleText (first : Bool) (column : Nat) : List (List Char) → List Char
  | [] => []
  | run :: rest =>
    if run.head? = some '\n' then
      '\n' :: run ++ List.replicate continuation ' ' ++ singleText false continuation rest
    else if run = [' '] && bestWidth < column && !first && !rest.isEmpty then
      newLine ++ singleText false continuation rest
    else
      let written := doubleQuotes run
      written ++ singleText false (column + written.length) rest

/-- The letter that escapes a character. -/
def escapeLetter? : Char → Option Char
  | '\x00' => some '0'
  | '\x07' => some 'a'
  | '\x08' => some 'b'
  | '\t' => some 't'
  | '\n' => some 'n'
  | '\x0b' => some 'v'
  | '\x0c' => some 'f'
  | '\r' => some 'r'
  | '\x1b' => some 'e'
  | '"' => some '"'
  | '\\' => some '\\'
  | '\x85' => some 'N'
  | '\xa0' => some '_'
  | '\u2028' => some 'L'
  | '\u2029' => some 'P'
  | _ => none

/-- The escape of a character. -/
def escapeText (c : Char) : List Char :=
  let digits (width : Nat) : List Char := (Text.hex width c.toNat).map Char.toUpper
  match escapeLetter? c with
  | some letter => ['\\', letter]
  | none =>
    if c.toNat ≤ 0xFF then '\\' :: 'x' :: digits 2
    else if c.toNat ≤ 0xFFFF then '\\' :: 'u' :: digits 4
    else '\\' :: 'U' :: digits 8

/-- Whether a character is escaped between double quotes. -/
def needsEscape (c : Char) : Bool :=
  c = '"' || c = '\\' || !(' ' ≤ c && c ≤ '~')

/-- Characters between double quotes from a column on, where `first` marks the first one and `fresh` one that
    follows an escape. A line is broken before a space or between escapes, and a space that begins a line is
    escaped. -/
def doubleText (first fresh : Bool) (column : Nat) : List Char → List Char
  | [] => []
  | c :: rest =>
    let inside := !first && !rest.isEmpty
    if needsEscape c then
      let escaped := escapeText c
      let after := column + escaped.length
      if inside && bestWidth + 1 < after then
        if rest.head? = some ' ' then
          escaped ++ '\\' :: newLine ++ '\\' :: doubleText false true (continuation + 1) rest
        else escaped ++ '\\' :: newLine ++ doubleText false true continuation rest
      else escaped ++ doubleText false true after rest
    else if inside && (c = ' ' || fresh) && bestWidth < column then
      if c = ' ' then '\\' :: newLine ++ '\\' :: c :: doubleText false false (continuation + 2) rest
      else '\\' :: newLine ++ c :: doubleText false false (continuation + 1) rest
    else c :: doubleText false false (column + 1) rest

/-- A value as it is written from a column on. -/
def valueText (column : Nat) : Value → List Char
  | .null => "null".toList
  | .truth b => (if b then "true" else "false").toList
  | value =>
    let cs := value.display.toList
    if allowsPlain cs then plainText column (runs cs)
    else if allowsSingle cs then '\'' :: singleText true (column + 1) (runs cs) ++ ['\'']
    else '"' :: doubleText true true (column + 1) cs ++ ['"']

/-- A named value on a line of its own, two columns in. -/
def entryLine (name : String) (value : Value) : List Char :=
  let start := "  ".toList ++ name.toList ++ ": ".toList
  start ++ valueText start.length value ++ ['\n']

/-- Sections of named values. -/
def write (sections : List (String × List (String × Value))) : String :=
  String.ofList (sections.flatMap fun (name, entries) =>
    name.toList ++ ":\n".toList ++ entries.flatMap fun (name, value) => entryLine name value)

end Yaml

end CodeBehind
