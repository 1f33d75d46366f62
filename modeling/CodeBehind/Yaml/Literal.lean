import CodeBehind.Failure
import CodeBehind.Text.Digit
import CodeBehind.Text.LowerCase
import CodeBehind.Value.Basic
import CodeBehind.Yaml.Resolve

/-!
# Scalars

The values that the texts of YAML scalars denote.

A scalar whose tag is given need not look like what the tag says, so every kind of scalar has a reader of its
own that is more lenient than the form by which plain scalars are told apart: it takes signs twice, bases
named twice and the digits of any script. Most texts that it does not take make the document unreadable like
any other mistake in it, but an empty number, a word that is neither true nor false and a date that is none
are reported as what they are.

## Main definitions

* `Fault`: Why a text has no value.
* `integer`, `real`, `truth`, `timestamp`, `binary`: Reading scalars.
* `isNamedNan`: Whether a scalar is the usual name of what is not a number.
-/

namespace CodeBehind

namespace Yaml

/-- Why a text has no value. -/
inductive Fault where
  | refused
  | misuse (misuse : Misuse)
  deriving DecidableEq, Repr

/-- What may be missing becomes a refusal. -/
def orRefuse (found : Option α) : Except Fault α :=
  match found with
  | some value => .ok value
  | none => .error .refused

/-! ## Numbers -/

/-- The blanks that may stand around a number: all but the separators of information. -/
def isMargin (c : Char) : Bool :=
  Text.isBlank c && !('\x1c' ≤ c && c ≤ '\x1f')

/-- A digit of any script as the common one; other characters stay. -/
def commonDigit (c : Char) : Char :=
  match Text.digit? c with
  | some n => Char.ofNat ('0'.toNat + n)
  | none => c

/-- A numeral in common digits, without the blanks around it. -/
def numeral (cs : List Char) : List Char :=
  ((((cs.map commonDigit).dropWhile isMargin).reverse).dropWhile isMargin).reverse

/-- A text without underscores. -/
def dropUnderscores (text : String) : List Char :=
  text.toList.filter (· ≠ '_')

/-- The letter that may stand after a zero before digits of a base. -/
def baseLetters : Nat → List Char
  | 2 => ['b', 'B']
  | 8 => ['o', 'O']
  | 16 => ['x', 'X']
  | _ => []

/-- A text without the zero and letter that name its base. -/
def dropBase (base : Nat) (cs : List Char) : List Char :=
  match cs with
  | '0' :: letter :: rest => if (baseLetters base).contains letter then rest else cs
  | _ => cs

/-- The integer that a text with a sign and digits of a base denotes; decimal digits must not be too many. -/
def integerIn? (base : Nat) (cs : List Char) : Option Int :=
  let cs := numeral cs
  let digits := dropBase base (dropSign cs)
  let values := digits.map fun c => (Json.hexDigit? c).filter (· < base)
  if digits.isEmpty || (base = 10 && Decimal.digitLimit < digits.length) then none
  else do
    let n ← values.foldlM (fun n value => value.map (base * n + ·)) 0
    return if cs.head? = some '-' then -(n : Int) else n

/-- The sum of parts in base sixty, the last one counted once. -/
def sixtieths (parts : List Int) : Int :=
  parts.foldl (fun sum part => 60 * sum + part) 0

/-- The integer that a scalar denotes. -/
def integer (text : String) : Except Fault Int := do
  let all := dropUnderscores text
  if all.isEmpty then throw (.misuse .emptyText)
  let sign : Int := if all.head? = some '-' then -1 else 1
  let body := dropSign all
  let size ← match body with
    | [] => throw (.misuse .emptyText)
    | ['0'] => pure 0
    | '0' :: 'b' :: rest => orRefuse (integerIn? 2 rest)
    | '0' :: 'x' :: rest => orRefuse (integerIn? 16 rest)
    | '0' :: rest => orRefuse (integerIn? 8 ('0' :: rest))
    | body =>
      if body.contains ':' then
        sixtieths <$> orRefuse ((body.splitOn ':').mapM (integerIn? 10))
      else orRefuse (integerIn? 10 body)
  return sign * size

/-- The names of numbers that are not finite. -/
def namedReal? (word : String) : Option Float :=
  if word = "inf" || word = "infinity" then some (Decimal.infinite false)
  else if word = "nan" then some (0.0 / 0.0)
  else none

/-- The number that digits with a point and a power of ten denote. -/
def decimal? (negative : Bool) (cs : List Char) : Option Float :=
  let (whole, rest) := Json.splitDigits cs
  let (fraction, rest) := match rest with
    | '.' :: rest => Json.splitDigits rest
    | rest => ([], rest)
  let (power, rest) := Json.power rest
  if !rest.isEmpty || (whole.isEmpty && fraction.isEmpty) then none
  else
    let digits := Json.decimalNumber (whole ++ fraction)
    some (Decimal.ofDecimal negative digits (power.getD 0 - fraction.length))

/-- The number that a text in small letters denotes. -/
def real? (cs : List Char) : Option Float :=
  let cs := numeral cs
  let negative := cs.head? = some '-'
  let body := dropSign cs
  match namedReal? (String.ofList body) with
  | some x => some (if negative then -x else x)
  | none => decimal? negative body

/-- The weight of a part in base sixty, counted from the last one. -/
def sixtiethsWeight (place : Nat) : Float :=
  Decimal.ofRatio false (Nat.pow 60 place) 1

/-- The sum of parts in base sixty, each rounded by itself, the last one added first; every weight must be
    finite. -/
def realSixtieths (parts : List Float) : Except Fault Float :=
  if (sixtiethsWeight (parts.length - 1)).isInf then .error (.misuse .tooLargeFactor)
  else .ok (parts.reverse.zipIdx.foldl (fun sum part => sum + part.1 * sixtiethsWeight part.2) 0.0)

/-- The text of a number with a fraction as it is read: in small letters and without underscores. -/
def realText (text : String) : List Char :=
  (dropUnderscores text).map Char.toLower

/-- The usual name of what is not a number. -/
def nanName : List Char := ".nan".toList

/-- Whether a scalar is the usual name of what is not a number; all such scalars denote one and the same. -/
def isNamedNan (text : String) : Bool :=
  dropSign (realText text) = nanName

/-- The number with a fraction that a scalar denotes. -/
def real (text : String) : Except Fault Float := do
  let all := realText text
  if all.isEmpty then throw (.misuse .emptyText)
  let sign : Float := if all.head? = some '-' then -1.0 else 1.0
  let body := dropSign all
  if body = ".inf".toList then return sign * Decimal.infinite false
  else if body = nanName then return 0.0 / 0.0
  else if body.contains ':' then
    return sign * (← realSixtieths (← orRefuse ((body.splitOn ':').mapM real?)))
  else return sign * (← orRefuse (real? body))

/-! ## Other scalars -/

/-- Whether a word means true or false. -/
def truth (text : String) : Except Fault Bool :=
  let word := Text.lower text
  if ["yes", "true", "on"].contains word then .ok true
  else if ["no", "false", "off"].contains word then .ok false
  else .error (.misuse (.unknownName word))

/-- The millionths that the digits of a fraction denote; further digits are dropped. -/
def microseconds (fraction : List Char) : Nat :=
  let digits := fraction.take 6
  Json.decimalNumber (digits ++ List.replicate (6 - digits.length) '0')

/-- The date, or the point in time, that a scalar denotes. -/
def timestamp (text : String) : Except Fault Value := do
  match timestampParts? (Identifier.dropFinalNewline text.toList) with
  | none => throw (.misuse (.noMethod "NoneType" "groupdict"))
  | some parts =>
    let date : Date := ⟨parts.year, parts.month, parts.day⟩
    match parts.time with
    | none => if date.isValid then return .date date else throw .refused
    | some time =>
      let offset : Option Int := time.offset.map fun (west, hour, minute) =>
        let seconds : Int := 3600 * hour + 60 * minute
        if west then -seconds else seconds
      let moment : Moment :=
        ⟨date, time.hour, time.minute, time.second, microseconds time.fraction, offset⟩
      if moment.isValid then return .moment moment else throw .refused

/-- The value of a letter of the alphabet of 64. -/
def letterValue? (c : Char) : Option Nat :=
  if 'A' ≤ c && c ≤ 'Z' then some (c.toNat - 'A'.toNat)
  else if 'a' ≤ c && c ≤ 'z' then some (c.toNat - 'a'.toNat + 26)
  else if c.isDigit then some (c.toNat - '0'.toNat + 52)
  else if c = '+' then some 62
  else if c = '/' then some 63
  else none

/-- The bytes of letters, where `group` are those of the group of four that is not complete yet and `pads` the
    signs at its end; other characters are passed over, and a padded group ends the data. -/
def binaryFrom (group : List Nat) (pads : Nat) : List Char → Option (List UInt8)
  | [] => if group.isEmpty then some [] else none
  | c :: rest =>
    if c = '=' then
      if 2 ≤ group.length && 4 ≤ group.length + (pads + 1) then
        match group with
        | [a, b] => some [UInt8.ofNat (a * 4 + b / 16)]
        | [a, b, d] => some [UInt8.ofNat (a * 4 + b / 16), UInt8.ofNat (b % 16 * 16 + d / 4)]
        | _ => some []
      else binaryFrom group (if 2 ≤ group.length then pads + 1 else pads) rest
    else
      match letterValue? c with
      | none => binaryFrom group pads rest
      | some n =>
        match group with
        | [a, b, d] =>
          (binaryFrom [] 0 rest).map fun bytes =>
            UInt8.ofNat (a * 4 + b / 16) :: UInt8.ofNat (b % 16 * 16 + d / 4) :: UInt8.ofNat (d % 4 * 64 + n) ::
              bytes
        | group => binaryFrom (group ++ [n]) 0 rest

/-- The bytes that a scalar denotes. -/
def binary (text : String) : Except Fault Value :=
  let cs := text.toList
  if cs.all fun c => c.toNat < 0x80 then (orRefuse (binaryFrom [] 0 cs)).map .bytes
  else .error .refused

end Yaml

end CodeBehind
