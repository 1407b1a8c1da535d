import BoardQuery.Calendar.Date

/-!
# Moments

A moment is a day and the microseconds passed in it, without a time zone: stored moments are in
universal time. A moment read from text may carry an offset from it.
-/

namespace BoardQuery

def microsPerSecond : Nat := 1000000

def microsPerDay : Nat := 86400 * microsPerSecond

/-- A point in time to the microsecond. -/
structure Moment where
  date : Date
  micros : Nat
  micros_lt : micros < microsPerDay
  deriving DecidableEq

namespace Moment

/-- The moment with these parts, if there is one. -/
def of? (year month day hour minute second micro : Int) : Option Moment := do
  let date ← Date.of? year month day
  if 0 ≤ hour ∧ hour < 24 ∧ 0 ≤ minute ∧ minute < 60 ∧ 0 ≤ second ∧ second < 60 ∧
      0 ≤ micro ∧ micro < microsPerSecond then
    let micros := ((hour * 60 + minute) * 60 + second) * microsPerSecond + micro
    if h : micros.toNat < microsPerDay then some ⟨date, micros.toNat, h⟩ else none
  else none

/-- The first moment of a day. -/
def midnight (d : Date) : Moment := ⟨d, 0, by decide⟩

/-- Microseconds since the first moment of the calendar. -/
def instant (m : Moment) : Nat :=
  m.date.number * microsPerDay + m.micros

def ofInstant? (n : Int) : Option Moment :=
  if n < 0 then none
  else (Date.ofNumber? (n.toNat / microsPerDay)).map fun d =>
    ⟨d, n.toNat % microsPerDay, Nat.mod_lt _ (by decide)⟩

/-- The first moment of the calendar. -/
def first : Moment := midnight ⟨1, 1, 1, by decide, by decide, by decide, by decide⟩

/-- The number of 1 January 1970. -/
def epochDay : Nat := 719162

/-- The moment some seconds after the start of 1970. -/
def ofEpoch? (seconds : Int) : Option Moment :=
  ofInstant? (epochDay * microsPerDay + seconds * microsPerSecond)

/-- The moment some microseconds later, if it lies within the calendar. -/
def shift? (m : Moment) (micros : Int) : Option Moment :=
  ofInstant? (m.instant + micros)

def startOfDay (m : Moment) : Moment := midnight m.date

/-- The moment without its fraction of a second. -/
def wholeSecond (m : Moment) : Moment :=
  ⟨m.date, m.micros - m.micros % microsPerSecond, Nat.lt_of_le_of_lt (Nat.sub_le ..) m.micros_lt⟩

def seconds (m : Moment) : Nat := m.micros / microsPerSecond

/-- Hours, minutes and seconds with colons between them. -/
def clockChars (m : Moment) : List Char :=
  Date.padded 2 (m.seconds / 3600) ++ ':' :: Date.padded 2 (m.seconds / 60 % 60) ++
    ':' :: Date.padded 2 (m.seconds % 60)

/-- The fraction of a second, six digits after a point. -/
def fractionChars (m : Moment) : List Char :=
  '.' :: Date.padded 6 (m.micros % microsPerSecond)

/-- Day and time, with a fraction only if it is not zero. -/
def isoChars (m : Moment) : List Char :=
  m.date.chars ++ 'T' :: m.clockChars ++
    (if m.micros % microsPerSecond == 0 then [] else m.fractionChars)

def isoText (m : Moment) : String :=
  String.ofList m.isoChars

/-- Day and time to the second, with a space between them. -/
def secondText (m : Moment) : String :=
  String.ofList (m.date.chars ++ ' ' :: m.clockChars)

/-- Day and time to the microsecond, with a space between them. -/
def microText (m : Moment) : String :=
  String.ofList (m.date.chars ++ ' ' :: m.clockChars ++ m.fractionChars)

end Moment

/-- A moment with the offset of its clock from universal time, in microseconds, if it states one. -/
structure ZonedMoment where
  moment : Moment
  offset : Option Int
  deriving DecidableEq

namespace ZonedMoment

/-- The offset as it is written: hours and minutes, with seconds only if they are not zero. -/
def offsetChars (offset : Int) : List Char :=
  let n := offset.natAbs
  let s := n / microsPerSecond
  (if offset < 0 then '-' else '+') :: Date.padded 2 (s / 3600) ++
    ':' :: Date.padded 2 (s / 60 % 60) ++
    (if s % 60 == 0 && n % microsPerSecond == 0 then [] else ':' :: Date.padded 2 (s % 60)) ++
    (if n % microsPerSecond == 0 then [] else '.' :: Date.padded 6 (n % microsPerSecond))

def isoText (z : ZonedMoment) : String :=
  String.ofList (z.moment.isoChars ++ (z.offset.map offsetChars).getD [])

end ZonedMoment

/-- Why a text stands for no moment. -/
inductive MomentError where
  /-- The text is no date. -/
  | malformed
  /-- The moment lies outside the calendar. -/
  | outOfRange
  /-- The offset is a day or more. -/
  | offsetTooLarge
  deriving DecidableEq

/-- The moment in universal time. -/
def ZonedMoment.toUniversal (z : ZonedMoment) : Except MomentError Moment :=
  match z.offset with
  | none => .ok z.moment
  | some offset =>
    if microsPerDay ≤ offset.natAbs then .error .offsetTooLarge
    else
      match z.moment.shift? (-offset) with
      | some m => .ok m
      | none => .error .outOfRange

end BoardQuery
