/-!
# Dates

The days of the years 1 to 9999 in the Gregorian calendar. A day has a number, counted from
1 January of year 1, and the numbers of all days are consecutive.
-/

namespace BoardQuery

def isLeapYear (year : Nat) : Bool :=
  year % 4 == 0 && (year % 100 != 0 || year % 400 == 0)

/-- The length of a month; a number that is no month has no days. -/
def daysInMonth (year month : Nat) : Nat :=
  match month with
  | 1 | 3 | 5 | 7 | 8 | 10 | 12 => 31
  | 4 | 6 | 9 | 11 => 30
  | 2 => if isLeapYear year then 29 else 28
  | _ => 0

def maxYear : Nat := 9999

/-- A day of the calendar. -/
structure Date where
  year : Nat
  month : Nat
  day : Nat
  year_pos : 1 ≤ year
  year_le : year ≤ maxYear
  day_pos : 1 ≤ day
  day_le : day ≤ daysInMonth year month
  deriving DecidableEq

namespace Date

/-- The date with these parts, if there is one. -/
def of? (year month day : Int) : Option Date :=
  if h : 1 ≤ year.toNat ∧ year.toNat ≤ maxYear ∧ 1 ≤ day.toNat ∧
      day.toNat ≤ daysInMonth year.toNat month.toNat then
    some ⟨year.toNat, month.toNat, day.toNat, h.1, h.2.1, h.2.2.1, h.2.2.2⟩
  else none

/-- The days before the first of January. -/
def daysBeforeYear (year : Nat) : Nat :=
  (year - 1) * 365 + (year - 1) / 4 - (year - 1) / 100 + (year - 1) / 400

/-- The days of a year before the first of a month. -/
def daysBeforeMonth (year : Nat) : Nat → Nat
  | 0 => 0
  | month + 1 => daysBeforeMonth year month + daysInMonth year month

/-- The number of a day, zero for the first one. -/
def number (d : Date) : Nat :=
  daysBeforeYear d.year + daysBeforeMonth d.year d.month + (d.day - 1)

/-- The year that holds the day with this number. -/
def yearOf (n : Nat) : Nat :=
  let guess := n * 400 / 146097 + 1
  if daysBeforeYear (guess + 1) ≤ n then guess + 1
  else if daysBeforeYear guess ≤ n then guess
  else guess - 1

/-- The month and the day of the month of the `n`-th day counted from the first of `month`. -/
def monthAndDay (year : Nat) : Nat → Nat → Nat → Nat × Nat
  | 0, month, n => (month, n + 1)
  | left + 1, month, n =>
    if n < daysInMonth year month then (month, n + 1)
    else monthAndDay year left (month + 1) (n - daysInMonth year month)

/-- The day with this number, up to the last day of the calendar. -/
def ofNumber? (n : Nat) : Option Date :=
  let year := yearOf n
  let (month, day) := monthAndDay year 11 1 (n - daysBeforeYear year)
  of? year month day

/-- Zero for Monday. -/
def weekday (d : Date) : Nat :=
  d.number % 7

/-- The day `offset` days later. -/
def addDays? (d : Date) (offset : Int) : Option Date :=
  let n := d.number + offset
  if n < 0 then none else ofNumber? n.toNat

/-- A number with at least `width` digits. -/
def padded (width n : Nat) : List Char :=
  let ds := Nat.toDigits 10 n
  List.replicate (width - ds.length) '0' ++ ds

/-- Year, month and day with dashes between them. -/
def chars (d : Date) : List Char :=
  padded 4 d.year ++ '-' :: padded 2 d.month ++ '-' :: padded 2 d.day

def text (d : Date) : String :=
  String.ofList d.chars

end Date

end BoardQuery
