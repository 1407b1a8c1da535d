import BoardQuery.Calendar.Moment
import BoardQuery.Text.Blank
import BoardQuery.Text.Digit

/-!
# Dates in free form

Dates as people write them: `March 1, 2026`, `3/1/26 5pm`, `Fri 10h30`. The text is cut into
words, numbers and single characters. A run over the tokens notes weekday, time of day, offset and
up to three numbers of a date, whose order is settled at the end: months come before days unless
that cannot be. What the text leaves open is taken from a reference day, and a token that means
nothing makes the whole text meaningless.
-/

namespace BoardQuery.FreeForm

open Text

abbrev Token := List Char

/-! ## Tokens -/

/-- What kind of token is being read. The dotted kinds hold a point, and may turn out to be several
tokens. -/
inductive Mode where
  | word
  | number
  | dottedWord
  | dottedNumber
  deriving DecidableEq

def isNumeral (c : Char) : Bool :=
  isDecimalDigit c

/-- Letters, and every character outside ASCII that is neither a digit nor blank. -/
def isLetter (c : Char) : Bool :=
  c.isAlpha || (127 < c.toNat && !isDecimalDigit c && !isBlank c)

/-- A token while it is read: its characters in reverse, and whether letters were passed in it. -/
structure Partial where
  mode : Mode
  chars : List Char
  letters : Bool

/-- The token grown by the next character, or none if the character starts another token. -/
def Partial.grow? (p : Partial) (c : Char) : Option Partial :=
  let more := c :: p.chars
  match p.mode with
  | .word =>
    if isLetter c then some ⟨.word, more, true⟩
    else if c == '.' then some ⟨.dottedWord, more, true⟩
    else none
  | .number =>
    if isNumeral c then some { p with chars := more }
    else if c == '.' || (c == ',' && 2 ≤ p.chars.length) then
      some { p with mode := .dottedNumber, chars := more }
    else none
  | .dottedWord =>
    if c == '.' || isLetter c then some ⟨.dottedWord, more, true⟩
    else if isNumeral c && p.chars.head? == some '.' then some ⟨.dottedNumber, more, true⟩
    else none
  | .dottedNumber =>
    if c == '.' || isNumeral c then some { p with chars := more }
    else if isLetter c && p.chars.head? == some '.' then
      some { p with mode := .dottedWord, chars := more }
    else none

/-- The longest token that `p` grows to, and the rest. A word ends with letters passed whenever a
character follows it. -/
def Partial.finish (p : Partial) : List Char → Partial × List Char
  | [] => (p, [])
  | c :: rest =>
    match p.grow? c with
    | some q => q.finish rest
    | none =>
      (if p.mode = .word ∨ p.mode = .dottedWord then { p with letters := true } else p, c :: rest)

/-- Splits at points and commas, which stay as tokens of their own. -/
def splitDots : List Char → List Char → List Token
  | acc, [] => [acc.reverse]
  | acc, c :: rest =>
    if c == '.' || c == ',' then acc.reverse :: [c] :: splitDots [] rest
    else splitDots (c :: acc) rest

/-- The tokens of a finished piece. A dotted piece stays whole only as a number with one point; a
comma in such a number is its point. -/
def Partial.tokens (p : Partial) : List Token :=
  let whole := p.chars.reverse
  let dotted := p.mode = .dottedWord ∨ p.mode = .dottedNumber
  let points := whole.count '.'
  let split := dotted ∧ (p.letters ∨ 1 < points ∨ p.chars.head?.any (fun c => c == '.' || c == ','))
  let pieces := if split then splitDots [] whole else [whole]
  match pieces with
  | [] => []
  | first :: more =>
    let first :=
      if p.mode = .dottedNumber ∧ !first.contains '.' then
        first.map fun c => if c == ',' then '.' else c
      else first
    first :: more.filter (!·.isEmpty)

/-- The tokens of a text. Each step consumes a character, so its length is enough fuel. -/
def tokensFrom : Nat → List Char → List Token
  | 0, _ => []
  | fuel + 1, cs =>
    match cs with
    | [] => []
    | c :: rest =>
      if isLetter c || isNumeral c then
        let start : Partial := ⟨if isLetter c then .word else .number, [c], false⟩
        let (p, after) := start.finish rest
        p.tokens ++ tokensFrom fuel after
      else (if isBlank c then [' '] else [c]) :: tokensFrom fuel rest

def tokens (cs : List Char) : List Token :=
  let cs := cs.filter (·.toNat != 0)
  tokensFrom (cs.length + 1) cs

/-! ## Words -/

def lowered (t : Token) : String :=
  String.ofList (t.map Char.toLower)

/-- The place of the group of spellings that holds a word. -/
def placeIn (groups : List (List String)) (t : Token) : Option Nat :=
  groups.findIdx? (·.contains (lowered t))

/-- Zero for Monday. -/
def weekday? (t : Token) : Option Nat :=
  placeIn [["mon", "monday"], ["tue", "tuesday"], ["wed", "wednesday"], ["thu", "thursday"],
    ["fri", "friday"], ["sat", "saturday"], ["sun", "sunday"]] t

def month? (t : Token) : Option Nat :=
  (placeIn [["jan", "january"], ["feb", "february"], ["mar", "march"], ["apr", "april"], ["may"],
    ["jun", "june"], ["jul", "july"], ["aug", "august"], ["sep", "sept", "september"],
    ["oct", "october"], ["nov", "november"], ["dec", "december"]] t).map (· + 1)

/-- The unit that a label names: zero for hours, one for minutes, two for seconds. -/
def timeUnit? (t : Token) : Option Nat :=
  placeIn [["h", "hour", "hours"], ["m", "minute", "minutes"], ["s", "second", "seconds"]] t

/-- Whether the word stands for the second half of the day. -/
def halfDay? (t : Token) : Option Bool :=
  (placeIn [["am", "a"], ["pm", "p"]] t).map (· == 1)

/-- Tokens that mean nothing and are passed over. -/
def isFiller (t : Token) : Bool :=
  [" ", ".", ",", ";", "-", "/", "'", "at", "on", "and", "ad", "m", "t", "of", "st", "nd", "rd",
    "th"].contains (lowered t)

def isUniversalName (t : Token) : Bool :=
  ["utc", "gmt", "z"].contains (lowered t)

/-- Words that are read as numbers and then refused. -/
def isNumberWord (t : Token) : Bool :=
  ["inf", "infinity", "nan"].contains (lowered t)

/-! ## Numbers -/

/-- A number with its fraction as `part` of `10 ^ places`. -/
structure Amount where
  whole : Nat
  part : Nat
  places : Nat

def Amount.read? (t : Token) : Option Amount :=
  match t.takeWhile (· != '.'), t.dropWhile (· != '.') with
  | whole, [] => (natOfDigits? whole).map (⟨·, 0, 0⟩)
  | whole, _ :: part => do return ⟨← natOfDigits? whole, ← natOfDigits? part, part.length⟩

/-- Sixty times the fraction, cut to a whole number; none if there is no fraction. -/
def Amount.sixtieths? (a : Amount) : Option Nat :=
  if a.part == 0 then none else some (60 * a.part / Nat.pow 10 a.places)

/-- Seconds and microseconds; the fraction is cut after six digits. -/
def secondsAndMicros? (t : Token) : Option (Nat × Nat) := do
  match t.takeWhile (· != '.'), t.dropWhile (· != '.') with
  | whole, [] => return (← natOfDigits? whole, 0)
  | whole, _ :: part =>
    let kept := part.take 6
    return (← natOfDigits? whole, (← natOfDigits? kept) * Nat.pow 10 (6 - kept.length))

/-! ## The numbers of a date -/

/-- Up to three numbers in the order written, with the places of those known to be the year or the
month. `century` says that the year was written in full. -/
structure DayNumbers where
  values : List Nat
  century : Bool
  yearAt : Option Nat
  monthAt : Option Nat

namespace DayNumbers

def addYear? (d : DayNumbers) (n : Nat) : Option DayNumbers :=
  if d.yearAt.isSome then none
  else some { d with values := d.values ++ [n], century := true, yearAt := some d.values.length }

def addMonth? (d : DayNumbers) (n : Nat) : Option DayNumbers :=
  if d.monthAt.isSome then none
  else some { d with values := d.values ++ [n], monthAt := some d.values.length }

def addPlain (d : DayNumbers) (n : Nat) : DayNumbers :=
  { d with values := d.values ++ [n] }

/-- Adds digits. More than two of them are a year. -/
def addDigits? (d : DayNumbers) (t : Token) : Option DayNumbers := do
  let n ← natOfDigits? t
  if 2 < t.length then d.addYear? n else some (d.addPlain n)

/-- Adds a number. One above a hundred is a year. -/
def addAmount? (d : DayNumbers) (a : Amount) : Option DayNumbers :=
  if 100 < a.whole ∨ (a.whole = 100 ∧ 0 < a.part) then d.addYear? a.whole
  else some (d.addPlain a.whole)

def monthValue (d : DayNumbers) : Nat :=
  (d.monthAt.bind (d.values[·]?)).getD 0

/-- Whether a number can be the day of the month. Without a year, February has 29 days. None if
the month is no month. -/
def couldBeDay? (d : DayNumbers) (a : Amount) : Option Bool :=
  let within (limit : Nat) : Bool :=
    1 ≤ a.whole && (a.whole < limit || (a.whole == limit && a.part == 0))
  if d.monthAt.isNone then some (within 31)
  else
    let year := (d.yearAt.bind (d.values[·]?)).getD 2000
    let limit := daysInMonth year d.monthValue
    if limit == 0 then none else some (within limit)

/-- Year, month and day, as far as they are settled. -/
abbrev Settled := Option Nat × Option Nat × Option Nat

/-- Two numbers, neither of them a month by name. -/
def settleTwo (a b : Nat) : Settled :=
  if 31 < a then (some a, some b, none)
  else if 31 < b then (some b, some a, none)
  else (none, some a, some b)

/-- Three numbers of which a month by name is all that is known. -/
def settleAroundMonth (place a b c : Nat) : Settled :=
  match place with
  | 0 => if 31 < b then (some b, some a, some c) else (some c, some a, some b)
  | 1 => if 31 < a then (some a, some b, some c) else (some c, some b, some a)
  | _ => if 31 < b then (some b, some c, some a) else (some a, some c, some b)

/-- Three numbers without a month by name; the year leads if it is known to or must. -/
def settleThree (yearFirst : Bool) (a b c : Nat) : Settled :=
  if 31 < a || yearFirst then (some a, some b, some c)
  else if 12 < a then (some c, some b, some a)
  else (some c, some a, some b)

/-- The year and the month are known of three numbers, and the day is the third. -/
def settleKnown (year month a b c : Nat) : Settled :=
  let at' (i : Nat) := [a, b, c][i]?
  let rest := ([0, 1, 2].find? fun i => i != year && i != month).getD 0
  (at' year, at' month, at' rest)

/-- Which number is the year, which the month and which the day. -/
def settle? (d : DayNumbers) : Option Settled :=
  match d.values, d.yearAt, d.monthAt with
  | [], _, _ => some (none, none, none)
  | [a], some _, _ => some (some a, none, none)
  | [a], none, some _ => some (none, some a, none)
  | [a], none, none => some (if 31 < a then (some a, none, none) else (none, none, some a))
  | [a, b], some y, some _ =>
    some (if y == 0 then (some a, some b, none) else (some b, some a, none))
  | [a, b], none, some m =>
    let month := if m == 0 then a else b
    let other := if m == 0 then b else a
    some (if 31 < other then (some other, some month, none) else (none, some month, some other))
  | [a, b], _, none => some (settleTwo a b)
  | [a, b, c], some y, some m => some (settleKnown y m a b c)
  | [a, b, c], none, some m => some (settleAroundMonth m a b c)
  | [a, b, c], y, none => some (settleThree (y == some 0) a b c)
  | _, _, _ => none

end DayNumbers

/-! ## The run over the tokens -/

/-- What has been noted so far. An offset is in seconds. -/
structure Draft where
  days : DayNumbers
  weekday : Option Nat
  hour : Option Nat
  minute : Option Nat
  second : Option Nat
  micro : Option Nat
  zoneName : Option Token
  offset : Option Int

def Draft.empty : Draft := ⟨⟨[], false, none, none⟩, none, none, none, none, none, none, none⟩

/-- The hour on the 24-hour clock. -/
def onHalf (hour : Nat) (afternoon : Bool) : Nat :=
  if hour < 12 && afternoon then hour + 12
  else if hour == 12 && !afternoon then 0
  else hour

/-- Whether a token can be the name of a time zone here: after a time of day, once. -/
def couldBeZone (d : Draft) (offsetKnown : Bool) (t : Token) : Bool :=
  d.hour.isSome && d.zoneName.isNone && !offsetKnown && t.length ≤ 5 &&
    (t.all Char.isUpper || t == ['z'])

/-- The label that gives a number its unit: the next token, the one after a space, the previous
one, or for the last token the one before a space. -/
def labelPlace? (ts : Array Token) (i : Nat) : Option Nat :=
  let isLabel (j : Nat) : Bool := (ts[j]?.bind timeUnit?).isSome
  let isSpace (j : Nat) : Bool := ts[j]? == some [' ']
  if isLabel (i + 1) then some (i + 1)
  else if isSpace (i + 1) && isLabel (i + 2) then some (i + 2)
  else if 0 < i && isLabel (i - 1) then some (i - 1)
  else if 1 < i && i + 1 == ts.size && isSpace (i - 1) && isLabel (i - 2) then some (i - 2)
  else none

/-- Notes a number under the unit of a label; a number after a label has the next smaller unit. -/
def withUnit? (d : Draft) (t : Token) (a : Amount) (unit : Nat) : Option Draft :=
  match unit with
  | 0 =>
    let d := { d with hour := some a.whole }
    some (match a.sixtieths? with
      | some m => { d with minute := some m }
      | none => d)
  | 1 => some { d with minute := some a.whole, second := a.sixtieths? }
  | 2 => (secondsAndMicros? t).map fun s => { d with second := some s.1, micro := some s.2 }
  | _ => some d

def isSeparator (t : Token) : Bool :=
  t == ['-'] || t == ['/'] || t == ['.']

/-- A number and what follows it in a date with separators: `1-2-3`, `1/Mar/26`. Gives the index
of the last token used. -/
def separated? (d : Draft) (ts : Array Token) (i : Nat) (t : Token) : Option (Nat × Draft) := do
  let sep := ts[i + 1]?
  let days ← d.days.addDigits? t
  match ts[i + 2]? with
  | none => return (i + 1, { d with days })
  | some second =>
    if isFiller second then return (i + 1, { d with days })
    let days ←
      if isDigits second then days.addDigits? second
      else days.addMonth? (← month? second)
    if ts[i + 3]?.isSome && ts[i + 3]? == sep then
      let third ← ts[i + 4]?
      let days ←
        match month? third with
        | some m => days.addMonth? m
        | none => days.addDigits? third
      return (i + 4, { d with days })
    else return (i + 2, { d with days })

/-- A time of day with colons. Gives the index of the last token used. -/
def clock? (d : Draft) (ts : Array Token) (i : Nat) (a : Amount) : Option (Nat × Draft) := do
  let minutes ← Amount.read? (← ts[i + 2]?)
  let d := { d with
    hour := some a.whole, minute := some minutes.whole, second := minutes.sixtieths? }
  if ts[i + 3]? == some [':'] && ts[i + 4]?.isSome then
    let (second, micro) ← secondsAndMicros? (← ts[i + 4]?)
    return (i + 4, { d with second := some second, micro := some micro })
  else return (i + 2, d)

/-- A number token at `i`. Gives the index of the last token used. -/
def number? (d : Draft) (ts : Array Token) (i : Nat) (t : Token) (a : Amount) :
    Option (Nat × Draft) :=
  let next := ts[i + 1]?
  let part (from' len : Nat) : Option Nat := natOfDigits? ((t.drop from').take len)
  if d.days.values.length == 3 && (t.length == 2 || t.length == 4) && d.hour.isNone &&
      next.all (fun n => n != [':'] && (timeUnit? n).isNone) then do
    let d := { d with hour := some (← part 0 2) }
    if t.length == 4 then return (i, { d with minute := some (← part 2 2) }) else return (i, d)
  else if t.length == 6 || (6 < t.length && t[6]? == some '.' && !(t.take 6).contains '.') then
    if d.days.values.isEmpty && !t.contains '.' then do
      let days ← d.days.addDigits? (t.take 2)
      let days ← days.addDigits? ((t.drop 2).take 2)
      let days ← days.addDigits? (t.drop 4)
      return (i, { d with days })
    else do
      let (second, micro) ← secondsAndMicros? (t.drop 4)
      return (i, { d with
        hour := some (← part 0 2), minute := some (← part 2 2),
        second := some second, micro := some micro })
  else if t.length == 8 || t.length == 12 || t.length == 14 then do
    let days ← d.days.addDigits? (t.take 4)
    let days ← days.addDigits? ((t.drop 4).take 2)
    let days ← days.addDigits? ((t.drop 6).take 2)
    let d := { d with days }
    if t.length == 8 then return (i, d)
    let d := { d with hour := some (← part 8 2), minute := some (← part 10 2) }
    if t.length == 12 then return (i, d)
    return (i, { d with second := some (← part 12 2) })
  else
    match labelPlace? ts i with
    | some j => do
      let unit ← ts[j]?.bind timeUnit?
      let d ← withUnit? d t a (if i < j then unit else unit + 1)
      return (if i < j then j else i, d)
    | none =>
      if next == some [':'] && ts[i + 2]?.isSome then clock? d ts i a
      else if next.any isSeparator then separated? d ts i t
      else if next.all isFiller then
        match ts[i + 2]?.bind halfDay? with
        | some afternoon => some (i + 2, { d with hour := some (onHalf a.whole afternoon) })
        | none => do return (i + 1, { d with days := ← d.days.addAmount? a })
      else
        match (next.bind halfDay?).filter fun _ => a.whole < 24 with
        | some afternoon => some (i + 1, { d with hour := some (onHalf a.whole afternoon) })
        | none => do
          if ← d.days.couldBeDay? a then return (i, { d with days := ← d.days.addAmount? a })
          else none

/-- The last two digits of a year stand for the year of that ending that lies less than fifty years
ahead of the reference year and at most fifty back. -/
def fullYear (reference n : Nat) : Nat :=
  if n < 100 then
    let year := reference / 100 * 100 + n
    if reference + 50 ≤ year then year - 100
    else if year + 50 < reference then year + 100
    else year
  else n

/-- A month by name at `i`, with what belongs to it: `Jan-01-99`, `Jan of 01`. Gives the index of
the last token used. -/
def monthName? (reference : Nat) (d : Draft) (ts : Array Token) (i m : Nat) :
    Option (Nat × Draft) := do
  let days ← d.days.addMonth? m
  let next := ts[i + 1]?
  if next == some ['-'] || next == some ['/'] then
    let days ← days.addDigits? (← ts[i + 2]?)
    if ts[i + 3]?.isSome && ts[i + 3]? == next then
      let days ← days.addDigits? (← ts[i + 4]?)
      return (i + 4, { d with days })
    else return (i + 2, { d with days })
  else if next == some [' '] && ts[i + 3]? == some [' '] && (ts[i + 2]?.map lowered) == some "of" &&
      ts[i + 4]?.isSome then
    let last ← ts[i + 4]?
    if isDigits last then
      let days ← days.addYear? (fullYear reference (← natOfDigits? last))
      return (i + 4, { d with days })
    else return (i + 4, { d with days })
  else return (i, { d with days })

/-- An offset after its sign at `i`, with a zone name in parentheses after it. Gives the index of
the last token used. -/
def offset? (d : Draft) (ts : Array Token) (i : Nat) (positive : Bool) : Option (Nat × Draft) := do
  let first ← ts[i + 1]?
  let (hours, minutes, j) ←
    if first.length == 4 then
      some (← natOfDigits? (first.take 2), ← natOfDigits? (first.drop 2), i)
    else if ts[i + 2]? == some [':'] then
      some (← natOfDigits? first, ← natOfDigits? (← ts[i + 3]?), i + 2)
    else if first.length ≤ 2 then some (← natOfDigits? first, 0, i)
    else none
  let size : Int := (hours * 60 + minutes) * 60
  let d := { d with offset := some (if positive then size else -size) }
  let name := ts[j + 4]?.getD []
  if (ts[j + 2]?).any isFiller && ts[j + 3]? == some ['('] && ts[j + 5]? == some [')'] &&
      3 ≤ name.length && couldBeZone d false name then
    return (j + 5, { d with zoneName := some name })
  else return (j + 1, d)

/-- A zone name at `i`. A sign after it is turned round: `GMT+3` is the clock that shows three hours
when it is none in Greenwich, written the other way. -/
def zoneName (d : Draft) (ts : Array Token) (i : Nat) (t : Token) : Array Token × Draft :=
  let d := { d with zoneName := some t, offset := if t == ['z'] then some 0 else none }
  let next := ts[i + 1]?
  if next == some ['+'] || next == some ['-'] then
    (ts.setIfInBounds (i + 1) (if next == some ['+'] then ['-'] else ['+']),
      { d with offset := none, zoneName := if isUniversalName t then none else some t })
  else (ts, d)

/-- One token at `i`. Gives the index of the last token used, and the tokens, of which a sign may
have been turned round. None if the token means nothing. -/
def step? (reference : Nat) (d : Draft) (ts : Array Token) (i : Nat) (t : Token) :
    Option (Nat × Array Token × Draft) :=
  let used (r : Nat × Draft) : Nat × Array Token × Draft := (r.1, ts, r.2)
  if isNumberWord t then none
  else
    match Amount.read? t with
    | some a => (number? d ts i t a).map used
    | none =>
      match weekday? t with
      | some w => some (i, ts, { d with weekday := some w })
      | none =>
        match month? t with
        | some m => (monthName? reference d ts i m).map used
        | none =>
          match halfDay? t with
          | some afternoon =>
            match d.hour with
            | some h =>
              if h ≤ 12 then some (i, ts, { d with hour := some (onHalf h afternoon) }) else none
            | none => none
          | none =>
            if couldBeZone d d.offset.isSome t then
              let (ts, d) := zoneName d ts i t
              some (i, ts, d)
            else if d.hour.isSome && (t == ['+'] || t == ['-']) then
              (offset? d ts i (t == ['+'])).map used
            else if isFiller t then some (i, ts, d)
            else none

/-- The run from token `i` on. Each step uses a token, so their number is enough fuel. -/
def run? (reference : Nat) : Nat → Draft → Array Token → Nat → Option Draft
  | 0, d, _, _ => some d
  | fuel + 1, d, ts, i =>
    match ts[i]? with
    | none => some d
    | some t => do
      let (last, ts, d) ← step? reference d ts i t
      run? reference fuel d ts (last + 1)

/-- Whether a draft holds anything at all. -/
def Draft.isEmpty (d : Draft) (s : DayNumbers.Settled) : Bool :=
  s.1.isNone && s.2.1.isNone && s.2.2.isNone && d.weekday.isNone && d.hour.isNone &&
    d.minute.isNone && d.second.isNone && d.micro.isNone && d.zoneName.isNone && d.offset.isNone

/-- The offset of a draft in microseconds. A zone that is not universal time and has no offset is
passed over. -/
def Draft.offsetMicros? (d : Draft) : Option Int :=
  let universal := d.zoneName.any isUniversalName
  let seconds := if universal then some 0 else d.offset
  seconds.map (· * microsPerSecond)

/-- Whether an offset in microseconds can be held at all: fewer than a thousand million days. -/
def canHoldOffset (n : Int) : Bool :=
  (n / microsPerDay).natAbs < 1000000000

/-- The moment that a text in free form means on the day of `now`. -/
def read? (now : Moment) (cs : List Char) : Option ZonedMoment := do
  let ts := (tokens cs).toArray
  let reference := now.date.year
  let d ← run? reference ts.size Draft.empty ts 0
  let settled ← d.days.settle?
  if d.isEmpty settled then none
  let (year, month, day) := settled
  let year := year.map fun y => if d.days.century then y else fullYear reference y
  let inYear := year.getD now.date.year
  let inMonth := month.getD now.date.month
  let length := daysInMonth inYear inMonth
  if length == 0 then none
  let moment ← Moment.of? inYear inMonth (day.getD (min now.date.day length))
    (d.hour.getD 0) (d.minute.getD 0) (d.second.getD 0) (d.micro.getD 0)
  let moment ←
    match d.weekday, day with
    | some w, none => do
      let date ← moment.date.addDays? ((7 - moment.date.weekday + w) % 7 : Nat)
      some ⟨date, moment.micros, moment.micros_lt⟩
    | _, _ => some moment
  let offset := d.offsetMicros?
  if !offset.all canHoldOffset then none
  return ⟨moment, offset⟩

end BoardQuery.FreeForm
