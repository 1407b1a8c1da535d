/-!
# Doubles

The numbers of the binary64 format, as exact integers. A double other than NaN has a sign and a
code, and codes count the magnitudes upwards from zero: `0` is zero, the next ones are the
subnormal numbers, and the last is infinity. Every magnitude is a whole number of units of
2⁻¹⁰⁷⁴, so doubles are compared as integers and rounded by one division.
-/

namespace BoardQuery

/-- The number of units in one, two to the power of 1074. -/
def unitsPerOne : Nat := Nat.pow (Nat.pow 2 179) 6

/-- The number of codes that share an exponent. -/
def codesPerExponent : Nat := Nat.pow 2 52

/-- The code of infinity. -/
def infinityCode : Nat := 2047 * codesPerExponent

/-- A binary64 number. -/
inductive Binary64 where
  | nan
  | signed (negative : Bool) (code : Nat) (le : code ≤ infinityCode)
  deriving DecidableEq

namespace Binary64

/-- The magnitude with this code, in units. Infinity stands one step past the largest number. -/
def unitsOfCode (code : Nat) : Nat :=
  if code < codesPerExponent then code
  else (codesPerExponent + code % codesPerExponent) * Nat.pow 2 (code / codesPerExponent - 1)

/-- The code of the magnitude next to `num / den`; of two equally near ones, the even code. -/
def nearestCode (num den : Nat) : Nat :=
  let whole := unitsPerOne * num / den
  let rest := unitsPerOne * num % den
  let shift := whole.log2 - 52
  let spacing := Nat.pow 2 shift
  let kept := whole / spacing
  let tail := whole % spacing * den + rest
  let step := spacing * den
  let code := kept + shift * codesPerExponent
  if 2 * tail > step || (2 * tail == step && kept % 2 == 1) then code + 1 else code

/-- The double with this sign and code; codes past infinity are infinity. -/
def ofCode (negative : Bool) (code : Nat) : Binary64 :=
  .signed negative (min code infinityCode) (Nat.min_le_right ..)

/-- The double next to `num / den`. -/
def ofRatio (negative : Bool) (num den : Nat) : Binary64 :=
  ofCode negative (nearestCode num den)

def zero : Binary64 := ofCode false 0

def infinity (negative : Bool) : Binary64 := ofCode negative infinityCode

def isFinite : Binary64 → Bool
  | .nan => false
  | .signed _ code _ => code != infinityCode

/-- The double next to an integer; none when the integer lies past the largest double. -/
def ofInt? (n : Int) : Option Binary64 :=
  let x := ofRatio (n < 0) n.natAbs 1
  if x.isFinite then some x else none

/-- The value in units, by which numbers are compared. NaN has none. -/
def units? : Binary64 → Option Int
  | .nan => none
  | .signed negative code _ => some (if negative then -unitsOfCode code else unitsOfCode code)

/-- The value of an integer in units. -/
def unitsOfInt (n : Int) : Int := n * unitsPerOne

/-- The value cut towards zero to an integer; none for NaN and the infinities. -/
def truncate? (x : Binary64) : Option Int :=
  if x.isFinite then x.units?.map (Int.tdiv · unitsPerOne) else none

/-- A finite number without a fraction. -/
def isIntegral (x : Binary64) : Bool :=
  x.isFinite && x.units?.all (fun u => u % (unitsPerOne : Int) == 0)

def isZero : Binary64 → Bool
  | .nan => false
  | .signed _ code _ => code == 0

/-- Whether `x < y`; false when either is NaN. -/
def lt (x y : Binary64) : Bool :=
  match x.units?, y.units? with
  | some a, some b => a < b
  | _, _ => false

/-- Whether `x ≤ y`; false when either is NaN. -/
def le (x y : Binary64) : Bool :=
  match x.units?, y.units? with
  | some a, some b => a ≤ b
  | _, _ => false

/-- Equal in value: the two zeros are, and NaN equals nothing. -/
def eq (x y : Binary64) : Bool :=
  match x.units?, y.units? with
  | some a, some b => a == b
  | _, _ => false

end Binary64

/-- The whole number next to `num / den`; of two equally near ones, the even one. -/
def roundHalfEven (num den : Nat) : Nat :=
  let whole := num / den
  let rest := num % den
  if 2 * rest > den || (2 * rest == den && whole % 2 == 1) then whole + 1 else whole

/-- The quotient `part / total` as a percentage with two decimals. The quotient, the product with a
hundred and the rounding are each rounded to a double. -/
def percentage (part total : Nat) : Binary64 :=
  let quotient := Binary64.ofRatio false part total
  let scaled := Binary64.ofRatio false ((quotient.units?.getD 0).natAbs * 100) unitsPerOne
  let hundredths := roundHalfEven ((scaled.units?.getD 0).natAbs * 100) unitsPerOne
  Binary64.ofRatio false hundredths 100

end BoardQuery
