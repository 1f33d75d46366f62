import CodeBehind.Identifier
import CodeBehind.Json.Reader

/-!
# Kinds of plain scalars

What a plain scalar stands for, by the way it is written.

The words for true and false, the forms of numbers, the words for null and the forms of dates are recognised;
everything else is a text. The same rules are used when values are written: a text that looks like something
else must not be written plain. Forms are told by the whole scalar, except that one line feed at its end is let
pass.

## Main definitions

* `Kind`: The kinds of scalars.
* `resolve`: The kind of a plain scalar.
-/

namespace CodeBehind

namespace Yaml

/-- The kinds of scalars. -/
inductive Kind where
  | truth
  | real
  | integer
  | merge
  | null
  | timestamp
  | value
  | mark
  | text
  deriving DecidableEq, Repr

/-- The words for true and false. -/
def truthWords : List String := [
  "yes", "Yes", "YES", "no", "No", "NO", "true", "True", "TRUE", "false", "False", "FALSE", "on", "On", "ON",
  "off", "Off", "OFF"]

/-- The words for null, besides the empty scalar. -/
def nullWords : List String := ["~", "null", "Null", "NULL", ""]

/-- A text without a sign before it. -/
def dropSign : List Char → List Char
  | '+' :: rest => rest
  | '-' :: rest => rest
  | cs => cs

/-- Whether a text begins with a digit and goes on with digits and underscores. -/
def isDigits (cs : List Char) : Bool :=
  match cs with
  | c :: rest => c.isDigit && rest.all fun c => c.isDigit || c = '_'
  | [] => false

/-- The part of a text before a character, and the part from it on. -/
def splitBefore (c : Char) (cs : List Char) : List Char × List Char :=
  (cs.takeWhile (· ≠ c), cs.dropWhile (· ≠ c))

/-- Whether a text is a power of ten, with a sign, or nothing. -/
def isPower : List Char → Bool
  | [] => true
  | mark :: sign :: rest =>
    (mark = 'e' || mark = 'E') && (sign = '+' || sign = '-') && !rest.isEmpty && rest.all Char.isDigit
  | _ => false

/-- Whether a text is a fraction after its point. -/
def isFraction (cs : List Char) : Bool :=
  isPower (cs.dropWhile fun c => c.isDigit || c = '_')

/-- Whether a text is a sequence of parts below sixty, each after a colon; there must be one. -/
def isSixtieths : List Char → Bool
  | [':', c] => c.isDigit
  | [':', a, b] => '0' ≤ a && a ≤ '5' && b.isDigit
  | ':' :: a :: ':' :: rest => a.isDigit && isSixtieths (':' :: rest)
  | ':' :: a :: b :: ':' :: rest => '0' ≤ a && a ≤ '5' && b.isDigit && isSixtieths (':' :: rest)
  | _ => false

/-- Whether a scalar is written as a number with a fraction. -/
def isReal (cs : List Char) : Bool :=
  let body := dropSign cs
  let (whole, rest) := splitBefore '.' body
  match rest with
  | [] => false
  | _ :: fraction =>
    let (digits, sixtieths) := splitBefore ':' whole
    (isDigits whole && isFraction fraction) ||
      (isDigits digits && isSixtieths sixtieths && fraction.all fun c => c.isDigit || c = '_') ||
      (whole.isEmpty && body = cs && fraction.head?.any Char.isDigit && isFraction fraction) ||
      (whole.isEmpty && ["inf", "Inf", "INF"].contains (String.ofList fraction)) ||
      (whole.isEmpty && body = cs && ["nan", "NaN", "NAN"].contains (String.ofList fraction))

/-- Whether a scalar is written as an integer: in base two, eight, ten, sixteen or sixty. -/
def isInteger (cs : List Char) : Bool :=
  match dropSign cs with
  | '0' :: 'b' :: rest => !rest.isEmpty && rest.all fun c => c = '0' || c = '1' || c = '_'
  | '0' :: 'x' :: rest => !rest.isEmpty && rest.all fun c => (Json.hexDigit? c).isSome || c = '_'
  | '0' :: rest => rest.all fun c => ('0' ≤ c && c ≤ '7') || c = '_'
  | body =>
    let (digits, sixtieths) := splitBefore ':' body
    isDigits digits && (sixtieths.isEmpty || isSixtieths sixtieths)

/-- One or two digits at the start of a text, and what follows them. -/
def shortNumber? (cs : List Char) : Option (Nat × List Char) :=
  match cs with
  | a :: b :: rest =>
    if a.isDigit && b.isDigit then some (Json.decimalNumber [a, b], rest)
    else if a.isDigit then some (Json.decimalNumber [a], b :: rest)
    else none
  | [a] => if a.isDigit then some (Json.decimalNumber [a], []) else none
  | [] => none

/-- A number of exactly `width` digits at the start of a text, and what follows it. -/
def fixedNumber? (width : Nat) (cs : List Char) : Option (Nat × List Char) :=
  let digits := cs.take width
  if digits.length = width && digits.all Char.isDigit then some (Json.decimalNumber digits, cs.drop width)
  else none

/-- What follows a character at the start of a text. -/
def after? (c : Char) (cs : List Char) : Option (List Char) :=
  match cs with
  | d :: rest => if d = c then some rest else none
  | [] => none

/-- The parts of a time of day, with its fraction and its offset from universal time as they are written. -/
structure TimeParts where
  hour : Nat
  minute : Nat
  second : Nat
  fraction : List Char
  offset : Option (Bool × Nat × Nat)

/-- The parts of a date, with a time of day if there is one. -/
structure TimestampParts where
  year : Nat
  month : Nat
  day : Nat
  isPadded : Bool
  time : Option TimeParts

/-- An offset from universal time that ends the text; the flag marks one to the west. -/
def offset? (cs : List Char) : Option (Option (Bool × Nat × Nat)) :=
  match cs with
  | [] => some none
  | _ =>
    match cs.dropWhile fun c => c = ' ' || c = '\t' with
    | ['Z'] => some (some (false, 0, 0))
    | sign :: rest =>
      if sign = '+' || sign = '-' then do
        let (hour, rest) ← shortNumber? rest
        match rest with
        | [] => return some (sign = '-', hour, 0)
        | rest =>
          let (minute, rest) ← fixedNumber? 2 (← after? ':' rest)
          if rest.isEmpty then return some (sign = '-', hour, minute) else none
      else none
    | [] => none

/-- A time of day that ends the text. -/
def timeParts? (cs : List Char) : Option TimeParts := do
  let (hour, rest) ← shortNumber? cs
  let (minute, rest) ← fixedNumber? 2 (← after? ':' rest)
  let (second, rest) ← fixedNumber? 2 (← after? ':' rest)
  let (fraction, rest) := match rest with
    | '.' :: rest => (rest.takeWhile Char.isDigit, rest.dropWhile Char.isDigit)
    | rest => ([], rest)
  return { hour, minute, second, fraction, offset := ← offset? rest }

/-- The parts of a date or a date with a time. -/
def timestampParts? (cs : List Char) : Option TimestampParts := do
  let (year, rest) ← fixedNumber? 4 cs
  let rest ← after? '-' rest
  let (month, rest') ← shortNumber? rest
  let dayStart ← after? '-' rest'
  let (day, ending) ← shortNumber? dayStart
  let isPadded := rest.length = rest'.length + 2 && dayStart.length = ending.length + 2
  match ending with
  | [] => return { year, month, day, isPadded, time := none }
  | c :: rest =>
    if c = 'T' || c = 't' then return { year, month, day, isPadded, time := some (← timeParts? rest) }
    else if c = ' ' || c = '\t' then
      let start := rest.dropWhile fun c => c = ' ' || c = '\t'
      return { year, month, day, isPadded, time := some (← timeParts? start) }
    else none

/-- Whether a scalar is written as a date, which must have two digits for month and day, or as a date with a
    time. -/
def isTimestamp (cs : List Char) : Bool :=
  match timestampParts? cs with
  | some parts => parts.isPadded || parts.time.isSome
  | none => false

/-- The kind of a plain scalar. -/
def resolve (text : String) : Kind :=
  let cs := Identifier.dropFinalNewline text.toList
  let word := String.ofList cs
  if text = "" then .null
  else if truthWords.contains word then .truth
  else if isReal cs then .real
  else if isInteger cs then .integer
  else if word = "<<" then .merge
  else if nullWords.contains word && !cs.isEmpty then .null
  else if isTimestamp cs then .timestamp
  else if word = "=" then .value
  else if word = "!" || word = "&" || word = "*" then .mark
  else .text

end Yaml

end CodeBehind
