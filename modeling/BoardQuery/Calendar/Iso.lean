import BoardQuery.Calendar.Moment
import BoardQuery.Number.Reading

/-!
# ISO 8601 moments

Two readers of ISO 8601 text. `Iso.read` takes dates by month, week or day of the year, in basic
or extended form, any one character between day and time, a fraction of any length and an offset.
`Iso.readStrict` takes what moments are written as, and fixed groups of digits only.
-/

namespace BoardQuery.Iso

/-- The integer in the first `n` characters; at the end of the text there may be fewer. -/
def leadingInt? (n : Nat) (cs : List Char) : Option Int :=
  (readInteger (String.ofList (cs.take n))).toOption

/-- The parts of a date, not yet checked, and the rest of the text. -/
abbrev DateParts := (Int × Int × Int) × List Char

/-- Year, month and day: `YYYY`, `YYYY-MM`, `YYYY-MM-DD` or `YYYYMMDD`. -/
def readByMonth? (cs : List Char) : Option DateParts := do
  if cs.length < 4 then none
  let year ← leadingInt? 4 cs
  match cs.drop 4 with
  | [] => return ((year, 1, 1), [])
  | c :: more =>
    let dashed := c == '-'
    let rest := if dashed then more else c :: more
    if rest.length < 2 then none
    let month ← leadingInt? 2 rest
    match rest.drop 2 with
    | [] => if dashed then return ((year, month, 1), []) else none
    | c :: more =>
      if dashed && c != '-' then none
      let rest := if dashed then more else c :: more
      if rest.length < 2 then none
      let day ← leadingInt? 2 rest
      return ((year, month, day), rest.drop 2)

/-- The day of a week. The first week of a year is the one that holds the fourth of January. -/
def ofWeek (year week day : Int) : Except MomentError Date := do
  if week < 1 ∨ 53 < week ∨ day < 1 ∨ 7 < day then .error .malformed
  match Date.of? year 1 4 with
  | none => .error .malformed
  | some fourth =>
    match fourth.addDays? ((week - 1) * 7 + (day - 1) - fourth.weekday) with
    | some d => .ok d
    | none => .error .outOfRange

/-- A date by week, `YYYY-Www-D` or `YYYYWwwD` with the day left out or not, or by the day of the
year, `YYYY-DDD` or `YYYYDDD`. -/
def readByWeekOrDay (cs : List Char) : Except MomentError (Date × List Char) := do
  if cs.length < 4 then .error .malformed
  let some year := leadingInt? 4 cs | .error .malformed
  let dashed := (cs.drop 4).head? == some '-'
  let rest := cs.drop (if dashed then 5 else 4)
  match rest with
  | 'W' :: more =>
    let some week := leadingInt? 2 more | .error .malformed
    match more.drop 2 with
    | [] => return (← ofWeek year week 1, [])
    | c :: after =>
      if (c == '-') != dashed then .error .malformed
      let after := if dashed then after else c :: after
      let some day := leadingInt? 1 after | .error .malformed
      return (← ofWeek year week day, after.drop 1)
  | _ =>
    if rest.length < 3 then .error .malformed
    let some day := leadingInt? 3 rest | .error .malformed
    if day < 1 ∨ 365 + (if isLeapYear year.toNat then 1 else 0) < day then .error .malformed
    match (Date.of? year 1 1).bind (·.addDays? (day - 1)) with
    | some d => return (d, rest.drop 3)
    | none => .error .malformed

/-- An offset, `Z`, `±HH`, `±HHMM` or `±HH:MM`, in microseconds. -/
def readOffset? (cs : List Char) : Option Int := do
  match cs with
  | ['Z'] => return 0
  | ['z'] => return 0
  | sign :: rest =>
    if cs.length != 3 && cs.length != 5 && cs.length != 6 then none
    let direction : Int ← if sign == '-' then some (-1) else if sign == '+' then some 1 else none
    let hours ← leadingInt? 2 rest
    let tail := rest.drop 2
    let minutes ←
      if tail.isEmpty then some 0
      else leadingInt? tail.length (if tail.head? == some ':' then tail.drop 1 else tail)
    if 59 < minutes ∨ 23 < hours then none
    return direction * (hours * 60 + minutes) * 60 * microsPerSecond
  | [] => none

/-- Microseconds from the digits of a fraction, cut after the sixth. -/
def fractionMicros (ds : List Char) : Nat :=
  let kept := ds.take 6
  ((kept.mapM Text.digitValue?).map Text.digitsValue).getD 0 * Nat.pow 10 (6 - kept.length)

/-- The parts of a time of day and its offset. -/
structure TimeParts where
  hour : Int
  minute : Int
  second : Int
  micro : Int
  offset : Option Int

/-- The rest of a time after the part with this index: hours are part 0, minutes 1, seconds 2 and
the fraction 3. An offset may stand in place of any part, and ends the time. -/
def readTimeFrom (index : Nat) (colons : Bool) (t : TimeParts) (cs : List Char) :
    Option TimeParts :=
  match cs with
  | [] => some t
  | c :: rest =>
    if c == '-' || c == '+' || c == 'Z' || c == 'z' then
      (readOffset? cs).map fun offset => { t with offset := some offset }
    else
      match index with
      | 0 => do readTimeFrom 1 false { t with hour := ← leadingInt? 2 cs } (cs.drop 2)
      | 1 =>
        let colons := c == ':'
        let cs := if colons then rest else cs
        do readTimeFrom 2 colons { t with minute := ← leadingInt? 2 cs } (cs.drop 2)
      | 2 =>
        if colons && c != ':' then none
        else
          let cs := if colons then rest else cs
          do readTimeFrom 3 colons { t with second := ← leadingInt? 2 cs } (cs.drop 2)
      | 3 =>
        let ds := rest.takeWhile fun d => '0' ≤ d && d ≤ '9'
        if (c == '.' || c == ',') && !ds.isEmpty then
          match rest.dropWhile fun d => '0' ≤ d && d ≤ '9' with
          | [] => some { t with micro := fractionMicros ds }
          | sign :: tail =>
            if sign == '-' || sign == '+' || sign == 'Z' || sign == 'z' then
              (readOffset? (sign :: tail)).map fun offset =>
                { t with micro := fractionMicros ds, offset := some offset }
            else none
        else none
      | _ => none
termination_by 4 - index

/-- A time of day. The twenty-fourth hour stands for the midnight that ends the day. -/
def readTime? (cs : List Char) : Option TimeParts := do
  if cs.length < 2 then none
  let t ← readTimeFrom 0 false ⟨0, 0, 0, 0, none⟩ cs
  if t.hour == 24 && (t.minute != 0 || t.second != 0 || t.micro != 0) then none
  return t

/-- The date of a text and what stands after it. -/
def readDate (cs : List Char) : Except MomentError DateParts :=
  match readByMonth? cs with
  | some r => .ok r
  | none => (readByWeekOrDay cs).map fun r => ((r.1.year, r.1.month, r.1.day), r.2)

/-- An ISO 8601 moment in its forms by month, week or day of the year. -/
def read (cs : List Char) : Except MomentError ZonedMoment := do
  if cs.any (127 < ·.toNat) then .error .malformed
  let ((year, month, day), rest) ← readDate cs
  let some t := (if rest.isEmpty then some ⟨0, 0, 0, 0, none⟩ else readTime? (rest.drop 1))
    | .error .malformed
  let hour := if t.hour == 24 then 0 else t.hour
  let some m := Moment.of? year month day hour t.minute t.second t.micro | .error .malformed
  if t.hour == 24 then
    match m.shift? microsPerDay with
    | some m => return ⟨m, t.offset⟩
    | none => .error .outOfRange
  else return ⟨m, t.offset⟩

/-! ## Fixed groups of digits -/

def isAsciiDigit (c : Char) : Bool :=
  '0' ≤ c && c ≤ '9'

/-- The number in exactly `n` ASCII digits at the front, and the rest. -/
def takeDigits? (n : Nat) (cs : List Char) : Option (Nat × List Char) :=
  let ds := cs.take n
  if ds.length == n && ds.all isAsciiDigit then
    (Text.natOfDigits? ds).map fun v => (v, cs.drop n)
  else none

/-- Where the date of a text ends: the index of the separator before the time. A week date with a
dash and two digits after it is taken to end before the dash. -/
def dateLength? (cs : List Char) : Option Nat :=
  let at? (i : Nat) := cs[i]?
  if cs.length < 7 then none
  else if cs.length == 7 then some 7
  else if at? 4 == some '-' then
    if at? 5 == some 'W' then
      if at? 8 == some '-' then
        if cs.length == 9 then none
        else if (at? 10).any isAsciiDigit then some 8
        else some 10
      else some 8
    else some 10
  else if at? 4 == some 'W' then
    let stop := 7 + ((cs.drop 7).takeWhile isAsciiDigit).length
    if stop < 9 then some stop else if stop % 2 == 0 then some 7 else some 8
  else some 8

/-- Whether a year has a week with this number: fifty-two weeks, and one more in years that begin on
a Thursday, or on a Wednesday if they are leap years. -/
def hasWeek (year week : Nat) : Bool :=
  week < 53 || (week == 53 && (Date.of? year 1 1).any fun d =>
    d.weekday == 3 || (d.weekday == 2 && isLeapYear year))

/-- A date of fixed groups of digits. -/
def strictDate? (cs : List Char) : Option Date := do
  let (year, rest) ← takeDigits? 4 cs
  let dashed := rest.head? == some '-'
  let rest := if dashed then rest.drop 1 else rest
  let skipDash (cs : List Char) : Option (List Char) :=
    if dashed then (if cs.head? == some '-' then some (cs.drop 1) else none) else some cs
  match rest with
  | 'W' :: more =>
    let (week, rest) ← takeDigits? 2 more
    if !hasWeek year week then none
    if rest.isEmpty then (ofWeek year week 1).toOption
    else
      let (day, _) ← takeDigits? 1 (← skipDash rest)
      (ofWeek year week day).toOption
  | _ =>
    let (month, rest) ← takeDigits? 2 rest
    let (day, _) ← takeDigits? 2 (← skipDash rest)
    Date.of? year month day

/-- What follows a group of digits in a time of day. -/
inductive ClockRest where
  | nothing
  | fraction (cs : List Char)
  | group (cs : List Char)

/-- What the rest of a time of day begins with. One more character at the end of it is passed over
when `zoned` says that an offset follows. -/
def clockRest? (zoned colons : Bool) : List Char → Option ClockRest
  | [] => some .nothing
  | [_] => if zoned then some .nothing else none
  | c :: more =>
    if colons && c == ':' then some (.group more)
    else if c == '.' || c == ',' then some (.fraction more)
    else if colons then none
    else some (.group (c :: more))

/-- The microseconds of a fraction. After the sixth digit anything may stand before an offset. -/
def strictFraction? (zoned : Bool) (cs : List Char) : Option Nat :=
  if (cs.take 6).all isAsciiDigit && (zoned || (cs.drop 6).all isAsciiDigit) then
    some (fractionMicros (cs.take 6))
  else none

/-- Hours, minutes, seconds and fraction of a time of day. Minutes and seconds may be left out. -/
def strictClock? (zoned : Bool) (cs : List Char) : Option (Nat × Nat × Nat × Nat) := do
  let (hour, rest) ← takeDigits? 2 cs
  let colons := rest.head? == some ':'
  match ← clockRest? zoned colons rest with
  | .nothing => return (hour, 0, 0, 0)
  | .fraction cs => return (hour, 0, 0, ← strictFraction? zoned cs)
  | .group cs =>
    let (minute, rest) ← takeDigits? 2 cs
    match ← clockRest? zoned colons rest with
    | .nothing => return (hour, minute, 0, 0)
    | .fraction cs => return (hour, minute, 0, ← strictFraction? zoned cs)
    | .group cs =>
      let (second, rest) ← takeDigits? 2 cs
      match ← clockRest? zoned colons rest with
      | .nothing => return (hour, minute, second, 0)
      | .fraction cs => return (hour, minute, second, ← strictFraction? zoned cs)
      | .group cs => return (hour, minute, second, ← strictFraction? zoned cs)

/-- An offset after its sign, less than a day. A fraction of a second alone is no offset. -/
def strictOffset? (negative : Bool) (cs : List Char) : Option Int := do
  let (hour, minute, second, micro) ← strictClock? false cs
  let seconds := (hour * 60 + minute) * 60 + second
  let n : Int := if seconds == 0 then 0 else seconds * microsPerSecond + micro
  if n < microsPerDay then some (if negative then -n else n) else none

/-- A moment as it is written, or with groups of digits left out from the end. -/
def readStrict? (s : String) : Option ZonedMoment := do
  let cs := s.toList
  let n ← dateLength? cs
  let date ← strictDate? (cs.take n)
  if cs.length ≤ n then return ⟨.midnight date, none⟩
  let tail := cs.drop (n + 1)
  let isSign (c : Char) := c == '+' || c == '-' || c == 'Z'
  let clock := tail.takeWhile (!isSign ·)
  let zone := tail.dropWhile (!isSign ·)
  let (hour, minute, second, micro) ← strictClock? (!zone.isEmpty) clock
  let offset ←
    match zone with
    | [] => some none
    | ['Z'] => some (some 0)
    | '+' :: rest => (strictOffset? false rest).map some
    | '-' :: rest => (strictOffset? true rest).map some
    | _ => none
  let m ← Moment.of? date.year date.month date.day hour minute second micro
  return ⟨m, offset⟩

end BoardQuery.Iso
