/-!
# Double-precision numbers

Between exact rationals and the 64-bit floating-point format.

Every step is exact natural-number arithmetic on a significand and a power of two, so nothing depends on how
a machine rounds. A positive rational is scaled until its quotient has as many bits as the format keeps, the
quotient is rounded half to even, and the result is assembled. Below the normal range the scale stops and the
quotient simply has fewer bits; above the range the result is infinite.

## Main definitions

* `divHalfEven`: The integer nearest to a quotient, ties to the even one.
* `assemble`: The number with given sign, significand and power of two.
* `ofRatio`: The number nearest to a rational.
* `ofDecimal`: The number nearest to `digits * 10 ^ exponent`.
* `Parts`, `partsOf`: A finite number taken apart again.
-/

namespace CodeBehind

namespace Decimal

/-- A power of two. -/
def twoTo (exponent : Nat) : Nat := Nat.pow 2 exponent

/-- A power of ten. -/
def tenTo (exponent : Nat) : Nat := Nat.pow 10 exponent

/-- The integer nearest to `num / den`; a tie goes to the even neighbour. -/
def divHalfEven (num den : Nat) : Nat :=
  let q := num / den
  let r := num % den
  if 2 * r < den then q
  else if den < 2 * r then q + 1
  else if q % 2 = 0 then q else q + 1

/-- The least power of two of the format. -/
def minExponent : Int := -1074

/-- The greatest power of two that a full significand may stand at. -/
def maxExponent : Int := 971

/-- The infinite number of a sign. -/
def infinite (negative : Bool) : Float :=
  if negative then -1.0 / 0.0 else 1.0 / 0.0

/-- The sign bit. -/
def signBit (negative : Bool) : Nat :=
  if negative then twoTo 63 else 0

/-- The number `significand * 2 ^ exponent` with a sign, for a significand of at most 53 bits and an
    exponent not below the least one, at which alone the significand may have fewer bits. -/
def assemble (negative : Bool) (significand : Nat) (exponent : Int) : Float :=
  let (significand, exponent) :=
    if significand = twoTo 53 then (twoTo 52, exponent + 1) else (significand, exponent)
  if exponent > maxExponent then infinite negative
  else
    let field := if significand < twoTo 52 then 0 else (exponent - minExponent + 1).toNat
    Float.ofBits (UInt64.ofNat (signBit negative + field * twoTo 52 + significand % twoTo 52))

/-- The number nearest to `num / den`, ties to even. -/
def ofRatio (negative : Bool) (num den : Nat) : Float :=
  if num = 0 then assemble negative 0 minExponent
  else
    let estimate : Int := (num.log2 : Int) - (den.log2 : Int) - 52
    let scaled (e : Int) : Nat × Nat :=
      if e < 0 then (num * twoTo (-e).toNat, den) else (num, den * twoTo e.toNat)
    let fits (e : Int) : Bool :=
      let (n, d) := scaled e
      n < d * twoTo 53
    let exponent := max minExponent (if fits (estimate - 1) then estimate - 1 else estimate)
    let (n, d) := scaled exponent
    assemble negative (divHalfEven n d) exponent

/-- The number nearest to `digits * 10 ^ exponent`; powers far outside the format are not computed. -/
def ofDecimal (negative : Bool) (digits : Nat) (exponent : Int) : Float :=
  if digits = 0 then assemble negative 0 minExponent
  else
    let magnitude : Int := (digits.log2 : Int) * 30103 / 100000 + exponent
    if magnitude > 320 then infinite negative
    else if magnitude < -360 then assemble negative 0 minExponent
    else if exponent < 0 then ofRatio negative digits (tenTo (-exponent).toNat)
    else ofRatio negative (digits * tenTo exponent.toNat) 1

/-- The sign, significand and power of two of a finite number. -/
structure Parts where
  negative : Bool
  significand : Nat
  exponent : Int

/-- Take a finite number apart; for the others the parts mean nothing. -/
def partsOf (x : Float) : Parts :=
  let bits : Nat := x.toBits.toNat
  let field : Nat := bits / twoTo 52 % twoTo 11
  let low : Nat := bits % twoTo 52
  { negative := bits / twoTo 63 = 1
    significand := if field = 0 then low else twoTo 52 + low
    exponent := if field = 0 then minExponent else minExponent + (field : Int) - 1 }

end Decimal

end CodeBehind
