import BoardQuery.Calendar.FreeForm
import BoardQuery.Calendar.Iso
import BoardQuery.Fault

/-!
# Coercion

Raw values read as numbers, moments and truth values. Stored values and filter operands are read by
the same functions.
-/

namespace BoardQuery

namespace Json

/-- Null, blank texts and empty arrays are no value. -/
def isBlank : Json → Bool
  | .null => true
  | .str s => Text.isBlankText s
  | .arr items => items.isEmpty
  | _ => false

/-- The finite number that a value stands for. Truth values are no numbers. A text is trimmed first,
other than the text of a bound. -/
def toNumber? : Json → Except Fault (Option Binary64)
  | .int n =>
    match Binary64.ofInt? n with
    | some x => .ok (some x)
    | none => .error .outOfRange
  | .num x => .ok (if x.isFinite then some x else none)
  | .str s => .ok ((readNumber? (Text.trim s)).filter (·.isFinite))
  | _ => .ok none

/-- The number that a bound stands for; text that is no number is unreadable. -/
def toBound : Json → Except Fault Binary64
  | .bool b => .ok (.ofRatio false (if b then 1 else 0) 1)
  | .int n =>
    match Binary64.ofInt? n with
    | some x => .ok x
    | none => .error .outOfRange
  | .num x => .ok x
  | .str s =>
    match readNumber? s with
    | some x => .ok x
    | none => .error (.unreadable (.number s))
  | _ => .error .wrongShape

/-- The integer that a value stands for, a fraction cut off. -/
def toInteger : Json → Except Fault Int
  | .bool b => .ok (if b then 1 else 0)
  | .int n => .ok n
  | .num .nan => .error (.unreadable .integerOfNaN)
  | .num x =>
    match x.truncate? with
    | some n => .ok n
    | none => .error .outOfRange
  | .str s =>
    match readInteger s with
    | .ok n => .ok n
    | .error .malformed => .error (.unreadable (.integer s))
    | .error (.tooLong digits) => .error (.unreadable (.integerTooLong digits))
  | _ => .error .wrongShape

/-- The truth value that a value stands for. -/
def toBool? : Json → Option Bool
  | .bool b => some b
  | .int n => if n == 0 then some false else if n == 1 then some true else none
  | .num x =>
    if x.isZero then some false
    else if x.eq (.ofRatio false 1 1) then some true
    else none
  | .str s =>
    let word := Text.trim (String.ofList (s.toList.map Char.toLower))
    if ["true", "1", "yes", "on"].contains word then some true
    else if ["false", "0", "no", "off"].contains word then some false
    else none
  | _ => none

/-- What a value holds one after another: the items of an array, the characters of a text, the
names of an object. -/
def elements : Json → Except Fault (List Json)
  | .arr items => .ok items
  | .str s => .ok (s.toList.map fun c => .str (String.ofList [c]))
  | .obj fields => .ok (fields.map fun f => .str f.1)
  | _ => .error .wrongShape

end Json

def MomentError.fault : MomentError → Fault
  | .offsetTooLarge => .unreadable .offsetTooLarge
  | _ => .outOfRange

/-- The moment that a trimmed text stands for, in universal time: an ISO 8601 text, or a date in
free form on the day of `now`. -/
def readMoment? (now : Moment) (cs : List Char) : Except MomentError (Option Moment) :=
  match Iso.read cs with
  | .ok z => z.toUniversal.map some
  | .error .malformed =>
    match FreeForm.read? now cs with
    | some z => z.toUniversal.map some
    | none => .ok none
  | .error e => .error e

/-- The moment that a value stands for. -/
def Json.toMoment? (now : Moment) : Json → Except Fault (Option Moment)
  | .str s =>
    let cs := Text.trimChars s.toList
    if cs.isEmpty then .ok none else (readMoment? now cs).mapError MomentError.fault
  | _ => .ok none

/-- A list without repetitions, in the order of first appearance. -/
def distinct {α : Type} [BEq α] (items : List α) : List α :=
  items.foldl (fun kept x => if kept.contains x then kept else kept ++ [x]) []

/-- The elements of a value without repetitions; only scalars can be told apart. -/
def Json.distinct? (v : Json) : Except Fault (List Json) := do
  (← v.elements).foldlM (fun kept v =>
    if !v.isScalar then .error .wrongShape
    else .ok (if kept.any (·.same v) then kept else kept ++ [v])) []

/-- Trimmed texts without blanks and repetitions. -/
def trimmedDistinct (items : List String) : List String :=
  distinct ((items.map Text.trim).filter (· != ""))

end BoardQuery
