import BoardQuery.Number.Binary64

/-!
# Decimal text of doubles

A positive number is written by significant digits and the exponent of the first one. The digits
are either the fewest that read back as the same double, the nearest of those, or a fixed count.
How digits and exponent become text is said by a style.
-/

namespace BoardQuery

/-- Significant digits, the first one not zero, and the power of ten of the first. -/
structure Decimal where
  digits : List Char
  exponent : Int
  deriving DecidableEq

namespace Decimal

/-- The decimal `m · 10^e` with the trailing zeros of `m` dropped. -/
def ofScaled (m : Nat) (e : Int) : Decimal :=
  let ds := Nat.toDigits 10 m
  ⟨(ds.reverse.dropWhile (· == '0')).reverse, e + ds.length - 1⟩

/-- The quotient of `units` by `10^e` as a fraction of two whole numbers. -/
def overPower (units : Nat) (e : Int) : Nat × Nat :=
  if 0 ≤ e then (units, unitsPerOne * Nat.pow 10 e.toNat)
  else (units * Nat.pow 10 (-e).toNat, unitsPerOne)

/-- The exponent of the first significant digit of a positive value. -/
def leadingExponent (units : Nat) : Int :=
  let guess : Int := ((units.log2 : Int) - 1074) * 30103 / 100000
  let reaches (e : Int) : Bool :=
    let f := overPower units e
    f.2 ≤ f.1
  if reaches (guess + 1) then guess + 1 else if reaches guess then guess else guess - 1

/-- Bounds of the reals that round to a double, in half units, and whether they are included. -/
structure Interval where
  low : Nat
  high : Nat
  closed : Bool

def Interval.ofCode (code : Nat) : Interval where
  low := Binary64.unitsOfCode (code - 1) + Binary64.unitsOfCode code
  high := Binary64.unitsOfCode code + Binary64.unitsOfCode (code + 1)
  closed := code % 2 == 0

/-- Whether `m · 10^e` lies in the interval. -/
def Interval.holds (i : Interval) (m : Nat) (e : Int) : Bool :=
  let num := if 0 ≤ e then 2 * m * Nat.pow 10 e.toNat * unitsPerOne else 2 * m * unitsPerOne
  let den := if 0 ≤ e then 1 else Nat.pow 10 (-e).toNat
  if i.closed then i.low * den ≤ num && num ≤ i.high * den
  else i.low * den < num && num < i.high * den

/-- The number of the grid of multiples of `10^e` that lies in the interval of the double, the
nearer one if both neighbours of the value do, and the even one of two equally near. -/
def onGrid? (code : Nat) (e : Int) : Option Nat :=
  let f := overPower (Binary64.unitsOfCode code) e
  let below := f.1 / f.2
  let interval := Interval.ofCode code
  match interval.holds below e && 0 < below, interval.holds (below + 1) e with
  | true, true => some (roundHalfEven f.1 f.2)
  | true, false => some below
  | false, true => some (below + 1)
  | false, false => none

/-- The fewest digits that read back as the double with this code; seventeen always do. -/
def shortest (code : Nat) : Decimal :=
  let lead := leadingExponent (Binary64.unitsOfCode code)
  let grids := (List.range 17).map fun (n : Nat) => lead - (n : Int)
  match grids.findSome? fun e => (onGrid? code e).map (ofScaled · e) with
  | some d => d
  | none => ofScaled 0 0

/-- The value with `count` significant digits, a half rounded to the even digit. -/
def rounded (count : Nat) (code : Nat) : Decimal :=
  let units := Binary64.unitsOfCode code
  let e := leadingExponent units - count + 1
  let f := overPower units e
  ofScaled (roundHalfEven f.1 f.2) e

end Decimal

/-- How the digits of a number become text. -/
structure NumberStyle where
  /-- The digits of a positive finite double, from its code. -/
  digits : Nat → Decimal
  /-- Exponents from `lowest` to `highest` are written positionally. -/
  lowest : Int
  highest : Int
  /-- Whether a mantissa of one digit is written with a decimal zero. -/
  pointInMantissa : Bool
  nanText : String
  infinityText : String

namespace NumberStyle

/-- Digits with the decimal point at its place, and at least one digit on each side of it. -/
def positional (d : Decimal) : List Char :=
  if d.exponent < 0 then
    '0' :: '.' :: List.replicate (-d.exponent - 1).toNat '0' ++ d.digits
  else
    let n := d.exponent.toNat + 1
    let whole := d.digits.take n ++ List.replicate (n - d.digits.length) '0'
    let fraction := d.digits.drop n
    whole ++ '.' :: (if fraction.isEmpty then ['0'] else fraction)

/-- A mantissa with one digit before the point, and a signed exponent of at least two digits. -/
def scientific (style : NumberStyle) (d : Decimal) : List Char :=
  let fraction := d.digits.drop 1
  let tail :=
    if fraction.isEmpty then (if style.pointInMantissa then ['.', '0'] else [])
    else '.' :: fraction
  let places := Nat.toDigits 10 d.exponent.natAbs
  d.digits.take 1 ++ tail ++ 'e' :: (if d.exponent < 0 then '-' else '+') ::
    List.replicate (2 - places.length) '0' ++ places

def magnitude (style : NumberStyle) (code : Nat) : List Char :=
  if code == 0 then ['0', '.', '0']
  else if code == infinityCode then style.infinityText.toList
  else
    let d := style.digits code
    if style.lowest ≤ d.exponent && d.exponent ≤ style.highest then positional d
    else style.scientific d

def text (style : NumberStyle) : Binary64 → List Char
  | .nan => style.nanText.toList
  | .signed negative code _ =>
    if negative then '-' :: style.magnitude code else style.magnitude code

/-- Numbers in messages: the fewest digits, positional below 10¹⁶. -/
def message : NumberStyle := ⟨Decimal.shortest, -4, 15, false, "nan", "inf"⟩

/-- Numbers in documents. They are those of messages, but for the names of NaN and infinity. -/
def document : NumberStyle := ⟨Decimal.shortest, -4, 15, false, "NaN", "Infinity"⟩

/-- Numbers that a text operation of the store meets: fifteen digits. -/
def stored : NumberStyle := ⟨Decimal.rounded 15, -4, 14, true, "NaN", "Inf"⟩

end NumberStyle

end BoardQuery
