import BoardQuery.Number.Binary64
import BoardQuery.Text.Blank
import BoardQuery.Text.Digit

/-!
# Numbers written as text

Text is read as a number leniently: blanks around it are dropped, the digits of every script
count, and single underscores may stand between digits.
-/

namespace BoardQuery

open Text

/-- Drops underscores that stand between two digits; any other underscore stays, and is no digit. -/
def dropUnderscores : List Char → List Char
  | a :: '_' :: b :: rest =>
    if isDecimalDigit a && isDecimalDigit b then a :: dropUnderscores (b :: rest)
    else a :: '_' :: dropUnderscores (b :: rest)
  | a :: rest => a :: dropUnderscores rest
  | [] => []

/-- Splits a sign off; no sign is a plus. -/
def splitSign : List Char → Bool × List Char
  | '-' :: rest => (true, rest)
  | '+' :: rest => (false, rest)
  | cs => (false, cs)

/-- The double next to `digits · 10^exponent`. Exponents that lie far outside the range of doubles
are settled without computing the power. -/
def Binary64.ofDigits (negative : Bool) (digits : List Nat) (exponent : Int) : Binary64 :=
  let m := digitsValue digits
  let reach := exponent + digits.length
  if m == 0 || reach < -330 then .ofCode negative 0
  else if 0 ≤ exponent then
    if (digits.dropWhile (· == 0)).length + exponent > 310 then .infinity negative
    else .ofRatio negative (m * Nat.pow 10 exponent.toNat) 1
  else .ofRatio negative m (Nat.pow 10 (-exponent).toNat)

/-- An exponent part, `e` and an integer, or nothing. -/
def readExponent? : List Char → Option Int
  | [] => some 0
  | c :: rest =>
    if c == 'e' || c == 'E' then
      let (negative, ds) := splitSign rest
      (natOfDigits? ds).map fun n => if negative then -(n : Int) else n
    else none

/-- Digits with an optional fraction and exponent, at least one digit in the two parts together. -/
def readDecimal? (negative : Bool) (cs : List Char) : Option Binary64 := do
  let whole := cs.takeWhile isDecimalDigit
  let rest := cs.dropWhile isDecimalDigit
  let (fraction, rest) :=
    match rest with
    | '.' :: more => (more.takeWhile isDecimalDigit, more.dropWhile isDecimalDigit)
    | _ => ([], rest)
  if whole.isEmpty && fraction.isEmpty then none
  let exponent ← readExponent? rest
  let digits ← (whole ++ fraction).mapM digitValue?
  return .ofDigits negative digits (exponent - fraction.length)

/-- The double that a text stands for, the words for infinity and NaN included. -/
def readNumber? (s : String) : Option Binary64 :=
  let (negative, cs) := splitSign (dropUnderscores (trimBy isNumberBlank s.toList))
  let word := String.ofList (cs.map Char.toLower)
  if word == "inf" || word == "infinity" then some (.infinity negative)
  else if word == "nan" then some .nan
  else readDecimal? negative cs

/-- Why a text is no integer. -/
inductive IntegerError where
  | malformed
  | tooLong (digits : Nat)
  deriving DecidableEq

/-- The most digits an integer may be written with. -/
def maxIntegerDigits : Nat := 4300

/-- The integer that a text stands for. -/
def readInteger (s : String) : Except IntegerError Int :=
  let (negative, cs) := splitSign (dropUnderscores (trimBy isNumberBlank s.toList))
  let count := (cs.takeWhile isDecimalDigit).length
  if maxIntegerDigits < count then .error (.tooLong count)
  else
    match natOfDigits? cs with
    | some n => .ok (if negative then -(n : Int) else n)
    | none => .error .malformed

end BoardQuery
