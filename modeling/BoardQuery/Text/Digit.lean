/-!
# Decimal digits

The decimal digits of every script. Each script has its ten digits in a row, so the place of the
zero gives the value of the other nine.
-/

namespace BoardQuery.Text

/-- The code points of the zeros. -/
def zeroCodes : List Nat := [
  48, 1632, 1776, 1984, 2406, 2534, 2662, 2790, 2918, 3046, 3174, 3302, 3430, 3558, 3664, 3792,
  3872, 4160, 4240, 6112, 6160, 6470, 6608, 6784, 6800, 6992, 7088, 7232, 7248, 42528, 43216, 43264,
  43472, 43504, 43600, 44016, 65296, 66720, 68912, 69734, 69872, 69942, 70096, 70384, 70736, 70864,
  71248, 71360, 71472, 71904, 72016, 72784, 73040, 73120, 92768, 92864, 93008, 120782, 120792,
  120802, 120812, 120822, 123200, 123632, 125264, 130032]

/-- The value of a decimal digit. -/
def digitValue? (c : Char) : Option Nat :=
  (zeroCodes.find? fun z => z ≤ c.toNat && c.toNat ≤ z + 9).map (c.toNat - ·)

def isDecimalDigit (c : Char) : Bool :=
  (digitValue? c).isSome

/-- The number that a run of decimal digits stands for. -/
def digitsValue (ds : List Nat) : Nat :=
  ds.foldl (fun n d => 10 * n + d) 0

/-- A text of at least one character, all of them decimal digits. -/
def isDigits (s : List Char) : Bool :=
  !s.isEmpty && s.all isDecimalDigit

/-- The number written by `s`, if `s` has a character and all of them are decimal digits. -/
def natOfDigits? (s : List Char) : Option Nat :=
  if s.isEmpty then none else (s.mapM digitValue?).map digitsValue

end BoardQuery.Text
