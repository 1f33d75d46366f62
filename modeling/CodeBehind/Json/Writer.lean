import CodeBehind.Value.Basic

/-!
# Writing JSON

The text of a value, in ASCII, with two spaces of indentation.

Every character beyond printable ASCII is written by its code units, unless it is a control with a short escape. Empty
lists and objects stay on one line. There is no line feed at the end.

## Main definitions

* `stringText`: A text as a JSON string.
* `write`: A value with its indentation.
-/

namespace CodeBehind

namespace Json

/-- A code unit as an escape. -/
def unitEscape (n : Nat) : List Char :=
  '\\' :: 'u' :: Text.hex 4 n

/-- One character inside a string. -/
def escapedChar (c : Char) : List Char :=
  match c with
  | '"' => ['\\', '"']
  | '\\' => ['\\', '\\']
  | '\n' => ['\\', 'n']
  | '\r' => ['\\', 'r']
  | '\t' => ['\\', 't']
  | '\x08' => ['\\', 'b']
  | '\x0c' => ['\\', 'f']
  | c =>
    let n := c.toNat
    if 0x20 ≤ n && n ≤ 0x7E then [c]
    else if n < 0x10000 then unitEscape n
    else unitEscape (0xD800 + (n - 0x10000) / 0x400) ++ unitEscape (0xDC00 + (n - 0x10000) % 0x400)

/-- A text as a JSON string. -/
def stringText (s : String) : String :=
  String.ofList ('"' :: s.toList.flatMap escapedChar ++ ['"'])

/-- A number, with the names of those that are not finite. -/
def realText (x : Float) : String :=
  if x.isNaN then "NaN"
  else if x.isInf then (if x < 0.0 then "-Infinity" else "Infinity")
  else Decimal.text x

/-- The line break before something at a depth. -/
def newline (depth : Nat) : String :=
  "\n" ++ String.ofList (List.replicate (2 * depth) ' ')

mutual

/-- A value that begins at a depth. -/
def writeAt (depth : Nat) : Value → String
  | .null => "null"
  | .truth b => if b then "true" else "false"
  | .integer i => toString i
  | .real x => realText x
  | .text s => stringText s
  | .list items =>
    match items with
    | [] => "[]"
    | items => "[" ++ ",".intercalate (itemsAt (depth + 1) items) ++ newline depth ++ "]"
  | .mapping pairs =>
    match pairs with
    | [] => "\x7b\x7d"
    | pairs => "\x7b" ++ ",".intercalate (pairsAt (depth + 1) pairs) ++ newline depth ++ "\x7d"
  | value => stringText value.display

/-- The lines of the elements of a list. -/
def itemsAt (depth : Nat) : List Value → List String
  | [] => []
  | item :: rest => (newline depth ++ writeAt depth item) :: itemsAt depth rest

/-- The lines of the members of an object. -/
def pairsAt (depth : Nat) : List (Value × Value) → List String
  | [] => []
  | (key, value) :: rest =>
    (newline depth ++ stringText key.display ++ ": " ++ writeAt depth value) :: pairsAt depth rest

end

/-- The text of a value. -/
def write (value : Value) : String :=
  writeAt 0 value

end Json

end CodeBehind
