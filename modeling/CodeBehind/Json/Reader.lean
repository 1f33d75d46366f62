import CodeBehind.Decimal.Limit
import CodeBehind.Value.Basic

/-!
# Reading JSON

From a text to the value it denotes, or to the first place at which it denotes none.

Besides the values of the standard the reader takes the three names for numbers that are not finite. Keys may
repeat, and the last one counts. A string may name halves of pairs, which are kept if they do not make a character.
A fault is told with its line, its column and its position, all counted in characters, so a reader works on what is
left of the text and a fault remembers how much that was.

The recursion is bounded by a count that is chosen from the length of the text. Every value takes at least one
character, so the count never runs out.

## Main definitions

* `Fault`, `Fault.message`: What is wrong, and where, in words.
* `string`, `number`, `value`: What a text begins with, and what is left of it.
* `read`: The value of a whole text.
-/

namespace CodeBehind

namespace Json

/-- What is wrong with a text. -/
inductive Mistake where
  | noValue
  | noName
  | noColon
  | noComma
  | extraData
  | unterminatedString
  | controlCharacter
  | badEscape
  | badCodePoint
  | byteOrderMark
  deriving DecidableEq, Repr

/-- A mistake where so many characters were left, or a number with too many digits. -/
inductive Fault where
  | mistake (what : Mistake) (left : Nat)
  | longNumber (digits : Nat)
  deriving DecidableEq, Repr

/-- A mistake in words. -/
def Mistake.wording : Mistake → String
  | noValue => "Expecting value"
  | noName => "Expecting property name enclosed in double quotes"
  | noColon => "Expecting ':' delimiter"
  | noComma => "Expecting ',' delimiter"
  | extraData => "Extra data"
  | unterminatedString => "Unterminated string starting at"
  | controlCharacter => "Invalid control character at"
  | badEscape => "Invalid \\escape"
  | badCodePoint => "Invalid \\uXXXX escape"
  | byteOrderMark => "Unexpected UTF-8 BOM (decode using utf-8-sig)"

/-- The fault of reading `text` in words. -/
def Fault.message (text : List Char) : Fault → String
  | mistake what left =>
    let before := text.take (text.length - left)
    let line := before.count '\n' + 1
    let column := (before.reverse.takeWhile (· ≠ '\n')).length + 1
    what.wording ++ ": line " ++ toString line ++ " column " ++ toString column ++
      " (char " ++ toString before.length ++ ")"
  | longNumber digits => (Decimal.NumeralFault.tooLong digits).message

/-- A mistake where `rest` is left. -/
def fail (mistake : Mistake) (rest : List Char) : Except Fault α :=
  .error (.mistake mistake rest.length)

/-- The white space between the parts of a text. -/
def isSpace (c : Char) : Bool :=
  c = ' ' || c = '\t' || c = '\n' || c = '\r'

/-- A text without the white space at its start. -/
def skipSpace (cs : List Char) : List Char :=
  cs.dropWhile isSpace

/-- The value of a hexadecimal digit. -/
def hexDigit? (c : Char) : Option Nat :=
  if '0' ≤ c && c ≤ '9' then some (c.toNat - '0'.toNat)
  else if 'a' ≤ c && c ≤ 'f' then some (c.toNat - 'a'.toNat + 10)
  else if 'A' ≤ c && c ≤ 'F' then some (c.toNat - 'A'.toNat + 10)
  else none

/-- The number that hexadecimal digits denote. -/
def hexNumber? (digits : List Char) : Option Nat :=
  digits.foldlM (fun n c => (hexDigit? c).map (16 * n + ·)) 0

/-- The character of a short escape. -/
def shortEscape? : Char → Option Char
  | '"' => some '"'
  | '\\' => some '\\'
  | '/' => some '/'
  | 'b' => some '\x08'
  | 'f' => some '\x0c'
  | 'n' => some '\n'
  | 'r' => some '\r'
  | 't' => some '\t'
  | _ => none

/-- The second half that follows a first one, if one does: its digits end before the last character. -/
def lowHalf? (cs : List Char) : Except Fault (Option (Nat × List Char)) :=
  match cs with
  | '\\' :: 'u' :: a :: b :: c :: d :: e :: rest =>
    match hexNumber? [a, b, c, d] with
    | none => fail .badCodePoint ('u' :: a :: b :: c :: d :: e :: rest)
    | some low => .ok (if Point.isLowHalf low then some (low, e :: rest) else none)
  | _ => .ok none

/-- Read an escape after its backslash; a code point may not end the text. A first half takes the second half that
    follows it, and a half without the other is kept. -/
def escape (cs : List Char) : Except Fault (Point × List Char) :=
  match cs with
  | 'u' :: a :: b :: c :: d :: e :: rest =>
    match hexNumber? [a, b, c, d] with
    | none => fail .badCodePoint cs
    | some n =>
      if Point.isHighHalf n then do
        match ← lowHalf? (e :: rest) with
        | some (low, rest') => .ok (.char (Point.pairCharacter n low), rest')
        | none => .ok (.ofNat n, e :: rest)
      else .ok (.ofNat n, e :: rest)
  | 'u' :: _ => fail .badCodePoint cs
  | c :: rest =>
    match shortEscape? c with
    | some c' => .ok (.char c', rest)
    | none => fail .badEscape ('\\' :: cs)
  | [] => fail .badEscape ['\\']

/-- Read a string after its opening quote, which had `start` characters from it on; at most `fuel`
    characters are read. -/
def stringFrom (start : Nat) : Nat → List Char → Except Fault (List Point × List Char)
  | 0, _ => .error (.mistake .unterminatedString start)
  | _ + 1, [] => .error (.mistake .unterminatedString start)
  | fuel + 1, c :: cs =>
    if c = '"' then .ok ([], cs)
    else if c = '\\' then
      if cs.isEmpty then .error (.mistake .unterminatedString start)
      else do
        let (point, rest) ← escape cs
        let (points, rest') ← stringFrom start fuel rest
        return (point :: points, rest')
    else if c.toNat < 0x20 then fail .controlCharacter (c :: cs)
    else do
      let (points, rest) ← stringFrom start fuel cs
      return (.char c :: points, rest)

/-- Read a string after its opening quote. -/
def string (cs : List Char) : Except Fault (List Point × List Char) :=
  stringFrom (cs.length + 1) (cs.length + 1) cs

/-- The digits a text begins with, and what is left. -/
def splitDigits (cs : List Char) : List Char × List Char :=
  (cs.takeWhile Char.isDigit, cs.dropWhile Char.isDigit)

/-- The number that decimal digits denote. -/
def decimalNumber (digits : List Char) : Nat :=
  digits.foldl (fun n c => 10 * n + (c.toNat - '0'.toNat)) 0

/-- The digits of a fraction; a point without digits behind it begins none. -/
def fraction (cs : List Char) : List Char × List Char :=
  match cs with
  | '.' :: rest =>
    let (digits, rest') := splitDigits rest
    if digits.isEmpty then ([], cs) else (digits, rest')
  | _ => ([], cs)

/-- The sign of a power of ten, and what follows it. -/
def powerSign : List Char → Int × List Char
  | '+' :: rest => (1, rest)
  | '-' :: rest => (-1, rest)
  | cs => (1, cs)

/-- A power of ten; a mark without digits behind it begins none. -/
def power (cs : List Char) : Option Int × List Char :=
  match cs with
  | c :: rest =>
    if c = 'e' || c = 'E' then
      let (sign, rest) := powerSign rest
      let (digits, rest') := splitDigits rest
      if digits.isEmpty then (none, cs) else (some (sign * (decimalNumber digits : Int)), rest')
    else (none, cs)
  | [] => (none, [])

/-- Whether a number has a minus, and what follows it. -/
def splitMinus : List Char → Bool × List Char
  | '-' :: rest => (true, rest)
  | cs => (false, cs)

/-- The digits of a whole number without a leading zero, and what is left. -/
def splitWhole : List Char → List Char × List Char
  | '0' :: rest => (['0'], rest)
  | cs => splitDigits cs

/-- Read a number: digits without a leading zero, then a fraction and a power of ten. -/
def number (cs : List Char) : Except Fault (Value × List Char) :=
  let (negative, body) := splitMinus cs
  let (digits, rest) := splitWhole body
  if digits.isEmpty then fail .noValue cs
  else
    let (decimals, rest) := fraction rest
    let (exponent, rest) := power rest
    if decimals.isEmpty && exponent.isNone then
      if Decimal.digitLimit < digits.length then .error (.longNumber digits.length)
      else
        let n := decimalNumber digits
        .ok (.integer (if negative then -(n : Int) else n), rest)
    else
      let n := decimalNumber (digits ++ decimals)
      let e := exponent.getD 0 - decimals.length
      .ok (.real (Decimal.ofDecimal negative n e), rest)

/-- The values that are written as a name. -/
def names : List (String × Value) := [
  ("null", .null),
  ("true", .truth true),
  ("false", .truth false),
  ("NaN", .real (0.0 / 0.0)),
  ("Infinity", .real (Decimal.infinite false)),
  ("-Infinity", .real (Decimal.infinite true))]

/-- Read a value that is written as a name. -/
def name? (cs : List Char) : Option (Value × List Char) :=
  names.findSome? fun (name, value) =>
    if name.toList.isPrefixOf cs then some (value, cs.drop name.toList.length) else none

mutual

/-- Read a value; `fuel` bounds the depth and the number of parts. -/
def value : Nat → List Char → Except Fault (Value × List Char)
  | 0, cs => fail .noValue cs
  | fuel + 1, cs =>
    match cs with
    | '"' :: rest => do
      let (points, rest) ← string rest
      return (.ofPoints points, rest)
    | '\x7b' :: rest =>
      match skipSpace rest with
      | '\x7d' :: rest => .ok (.mapping [], rest)
      | rest => do
        let (pairs, rest) ← members fuel [] rest
        return (.mapping pairs, rest)
    | '[' :: rest =>
      match skipSpace rest with
      | ']' :: rest => .ok (.list [], rest)
      | rest => do
        let (items, rest) ← elements fuel rest
        return (.list items, rest)
    | cs =>
      match name? cs with
      | some found => .ok found
      | none => number cs

/-- Read the members of an object up to its closing brace, after the members `pairs`. -/
def members : Nat → List (Value × Value) → List Char → Except Fault (List (Value × Value) × List Char)
  | 0, _, cs => fail .noName cs
  | fuel + 1, pairs, cs =>
    match cs with
    | '"' :: rest => do
      let (key, rest) ← string rest
      match skipSpace rest with
      | ':' :: rest =>
        let (found, rest) ← value fuel (skipSpace rest)
        let pairs := Value.setKey pairs (.ofPoints key) found
        match skipSpace rest with
        | '\x7d' :: rest => .ok (pairs, rest)
        | ',' :: rest => members fuel pairs (skipSpace rest)
        | rest => fail .noComma rest
      | rest => fail .noColon rest
    | cs => fail .noName cs

/-- Read the elements of an array up to its closing bracket. -/
def elements : Nat → List Char → Except Fault (List Value × List Char)
  | 0, cs => fail .noValue cs
  | fuel + 1, cs => do
    let (first, rest) ← value fuel cs
    match skipSpace rest with
    | ']' :: rest => .ok ([first], rest)
    | ',' :: rest => do
      let (items, rest) ← elements fuel (skipSpace rest)
      return (first :: items, rest)
    | rest => fail .noComma rest

end

/-- The value of a whole text. -/
def read (text : List Char) : Except Fault Value :=
  if text.head? = some '\uFEFF' then .error (.mistake .byteOrderMark text.length)
  else do
    let (found, rest) ← value (2 * text.length + 2) (skipSpace text)
    match skipSpace rest with
    | [] => .ok found
    | rest => fail .extraData rest

end Json

end CodeBehind
