import CodeBehind.Decimal.Binary64

/-!
# Shortest decimal texts

Writing a double-precision number with as few digits as will read back as the same number.

The reals that round to a number form an interval around it, whose ends belong to it when the significand is
even; it is narrower below a power of two. For one digit, two digits and so on up to seventeen, the two
neighbours of the number on that decimal grid are tried, and the first grid with a hit wins. If both
neighbours hit, the nearer one is taken, and the even one if they are equally near. Everything is compared
after clearing denominators, in natural numbers.

## Main definitions

* `Interval`: A number and the reals that round to it, as multiples of one power of two.
* `shortestDigits`: The digits and the power of ten.
* `text`: The number as configuration values are shown.
* `percent`: A ratio as a whole percentage.
-/

namespace CodeBehind

namespace Decimal

/-- A positive number `4 * m * 2 ^ q` with the ends of its rounding interval, all as multiples of
    `2 ^ q`; `closed` says whether the ends belong to it. -/
structure Interval where
  lowest : Nat
  value : Nat
  highest : Nat
  exponent : Int
  closed : Bool

/-- The rounding interval of a positive finite number. -/
def intervalOf (p : Parts) : Interval :=
  let narrow := p.significand = twoTo 52 && p.exponent > minExponent
  { lowest := 4 * p.significand - (if narrow then 1 else 2)
    value := 4 * p.significand
    highest := 4 * p.significand + 2
    exponent := p.exponent - 2
    closed := p.significand % 2 = 0 }

/-- The sides of a comparison of `a * 2 ^ q` with `b * 10 ^ k`, with denominators cleared. -/
def cleared (a : Nat) (q : Int) (b : Nat) (k : Int) : Nat × Nat :=
  let a := if q < 0 then a else a * twoTo q.toNat
  let b := if q < 0 then b * twoTo (-q).toNat else b
  if k < 0 then (a * tenTo (-k).toNat, b) else (a, b * tenTo k.toNat)

/-- Whether `d * 10 ^ k` lies in the interval. -/
def Interval.contains (i : Interval) (d : Nat) (k : Int) : Bool :=
  let (low, point) := cleared i.lowest i.exponent d k
  let (high, point') := cleared i.highest i.exponent d k
  if i.closed then low ≤ point && point' ≤ high else low < point && point' < high

/-- The neighbours of the number on the grid of multiples of `10 ^ k`, the nearer one first; of two
    equally near ones the even one. -/
def Interval.neighbours (i : Interval) (k : Int) : List Nat :=
  let (value, step) := cleared i.value i.exponent 1 k
  let below := value / step
  if divHalfEven value step = below then [below, below + 1] else [below + 1, below]

/-- The digits on the grid of multiples of `10 ^ k` that read back, the nearer ones first. -/
def Interval.onGrid (i : Interval) (k : Int) : Option Nat :=
  (i.neighbours k).find? (i.contains · k)

/-- The least power of ten above the number, by trying from an estimate upwards. -/
def Interval.magnitude (i : Interval) : Int :=
  let estimate : Int := ((i.value.log2 : Int) + i.exponent) * 30103 / 100000 - 1
  let exceeds (e : Int) : Bool :=
    let (value, power) := cleared i.value i.exponent 1 e
    value < power
  ([0, 1, 2, 3].map (estimate + ·)).find? exceeds |>.getD (estimate + 4)

/-- The fewest digits `d` and the power `k` such that `d * 10 ^ k` reads back as the number. -/
def shortestDigits (p : Parts) : Nat × Int :=
  let i := intervalOf p
  let top := i.magnitude
  let grids := (List.range 17).map fun (n : Nat) => top - 1 - (n : Int)
  (grids.findSome? fun k => (i.onGrid k).map fun d => (d, k)).getD (0, 0)

/-- Drop the zeros at the end of the digits of a number. -/
def dropTrailingZeros : List Char → List Char
  | [] => []
  | c :: cs =>
    match dropTrailingZeros cs with
    | [] => if c = '0' then [] else [c]
    | kept => c :: kept

/-- Write `0.d₁d₂… * 10 ^ point` positionally, always with a fraction. -/
def positional (digits : List Char) (point : Int) : List Char :=
  if point ≤ 0 then '0' :: '.' :: List.replicate (-point).toNat '0' ++ digits
  else
    let n := point.toNat
    let whole := digits.take n ++ List.replicate (n - digits.length) '0'
    let fraction := digits.drop n
    whole ++ '.' :: (if fraction.isEmpty then ['0'] else fraction)

/-- Write `0.d₁d₂… * 10 ^ point` with one digit before the point and a power of ten of at least two
    digits. -/
def scientific (digits : List Char) (point : Int) : List Char :=
  let power := point - 1
  let powerDigits := Nat.toDigits 10 power.natAbs
  let fraction := digits.drop 1
  digits.take 1 ++ (if fraction.isEmpty then [] else '.' :: fraction) ++
    'e' :: (if power < 0 then '-' else '+') :: List.replicate (2 - powerDigits.length) '0' ++ powerDigits

/-- The text of a positive finite number: positional from `10 ^ -4` up to below `10 ^ 16`. -/
def positiveText (p : Parts) : List Char :=
  let (d, k) := shortestDigits p
  let all := Nat.toDigits 10 d
  let point := (all.length : Int) + k
  let digits := dropTrailingZeros all
  if -4 < point && point ≤ 16 then positional digits point else scientific digits point

/-- The text of a number as configuration values are shown. -/
def text (x : Float) : String :=
  if x.isNaN then "nan"
  else
    let p := partsOf x
    let sign := if p.negative then "-" else ""
    if x.isInf then sign ++ "inf"
    else if p.significand = 0 then sign ++ "0.0"
    else sign ++ String.ofList (positiveText p)

/-- The integer nearest to the size of a finite number, ties to even. -/
def wholePart (p : Parts) : Nat :=
  if p.exponent < 0 then divHalfEven p.significand (twoTo (-p.exponent).toNat)
  else p.significand * twoTo p.exponent.toNat

/-- A ratio as a percentage without decimals; a negative ratio keeps its sign even when it rounds to
    nothing. -/
def percent (ratio : Float) : String :=
  let x := ratio * 100.0
  if x.isNaN then "nan%"
  else
    let p := partsOf x
    let sign := if p.negative then "-" else ""
    if x.isInf then sign ++ "inf%" else sign ++ toString (wholePart p) ++ "%"

end Decimal

end CodeBehind
