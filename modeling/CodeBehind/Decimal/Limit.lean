import CodeBehind.Decimal.Binary64
import CodeBehind.Text.Quoted

/-!
# Limits of decimal numerals

How long a decimal numeral may be, and what is wrong with numerals that cannot be taken.

Turning digits into a number and back takes time that grows faster than their count, so whole numbers with too
many digits are neither read nor shown. A numeral that breaks off, or one with the digits of another script in
a place where only the common ones count, is refused as well.

## Main definitions

* `digitLimit`: The most digits a whole number may have.
* `NumeralFault`, `NumeralFault.message`: What is wrong with a numeral, in words.
* `isTooLong`: Whether a number has too many digits to be shown.
-/

namespace CodeBehind

namespace Decimal

/-- The most digits a whole number may have. -/
def digitLimit : Nat := 4300

/-- What is wrong with a numeral: it has too many digits to be read, its number has too many digits to be shown,
    or it holds a digit that does not count, which may be where a power of ten should begin. -/
inductive NumeralFault where
  | tooLong (digits : Nat)
  | tooLarge
  | strangeDigit (digit : Char)
  | brokenPower
  deriving DecidableEq, Repr

/-- The fault in words. -/
def NumeralFault.message : NumeralFault → String
  | tooLong digits => limit ++ ": value has " ++ toString digits ++ " digits" ++ advice
  | tooLarge => limit ++ advice
  | strangeDigit digit =>
    let code := String.ofList ((Text.hex 4 digit.toNat).map Char.toUpper)
    "invalid character '" ++ String.singleton digit ++ "' (U+" ++ code ++ ")" ++ place
  | brokenPower => "invalid decimal literal" ++ place
where
  limit : String := "Exceeds the limit (" ++ toString digitLimit ++ " digits) for integer string conversion"
  advice : String := "; use sys.set_int_max_str_digits() to increase the limit"
  place : String := " (<unknown>, line 1)"

/-- Whether a number has too many digits to be shown. -/
def isTooLong (n : Int) : Bool :=
  tenTo digitLimit ≤ n.natAbs

end Decimal

end CodeBehind
