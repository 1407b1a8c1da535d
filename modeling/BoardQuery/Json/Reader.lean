import BoardQuery.Json.Basic
import BoardQuery.Number.Reading

/-!
# Reading documents

The grammar of JSON, with the words `NaN`, `Infinity` and `-Infinity` as numbers. A number without
fraction and exponent is an integer of any size up to a limit of digits. Of fields of one name the
last value counts, at the place of the first.
-/

namespace BoardQuery.Json

/-- Why a text is no document. -/
inductive ReadError where
  | malformed
  | integerTooLong (digits : Nat)
  deriving DecidableEq

def isSpace (c : Char) : Bool :=
  c == ' ' || c == '\t' || c == '\n' || c == '\r'

def skipSpace (cs : List Char) : List Char :=
  cs.dropWhile isSpace

def isAsciiDigit (c : Char) : Bool :=
  '0' ≤ c && c ≤ '9'

def hexValue? (c : Char) : Option Nat :=
  if '0' ≤ c && c ≤ '9' then some (c.toNat - 48)
  else if 'a' ≤ c && c ≤ 'f' then some (c.toNat - 87)
  else if 'A' ≤ c && c ≤ 'F' then some (c.toNat - 55)
  else none

/-- Four hexadecimal digits, as a UTF-16 unit. -/
def readUnit : List Char → Except ReadError (Nat × List Char)
  | a :: b :: c :: d :: rest =>
    match hexValue? a, hexValue? b, hexValue? c, hexValue? d with
    | some a, some b, some c, some d => .ok (((a * 16 + b) * 16 + c) * 16 + d, rest)
    | _, _, _, _ => .error .malformed
  | _ => .error .malformed

/-- The character of an escaped unit, joined with a low surrogate that follows a high one. A
surrogate that stands alone becomes the replacement character. -/
def readUnitEscape (cs : List Char) : Except ReadError (Char × List Char) := do
  let (unit, rest) ← readUnit cs
  if 0xd800 ≤ unit && unit < 0xdc00 then
    match rest with
    | '\\' :: 'u' :: more =>
      let (low, after) ← readUnit more
      if 0xdc00 ≤ low && low < 0xe000 then
        .ok (Char.ofNat (0x10000 + (unit - 0xd800) * 0x400 + (low - 0xdc00)), after)
      else .ok (Char.ofNat 0xfffd, rest)
    | _ => .ok (Char.ofNat 0xfffd, rest)
  else if 0xdc00 ≤ unit && unit < 0xe000 then .ok (Char.ofNat 0xfffd, rest)
  else .ok (Char.ofNat unit, rest)

def simpleEscape? (c : Char) : Option Char :=
  match c with
  | '"' => some '"'
  | '\\' => some '\\'
  | '/' => some '/'
  | 'b' => some (Char.ofNat 8)
  | 'f' => some (Char.ofNat 12)
  | 'n' => some '\n'
  | 'r' => some '\r'
  | 't' => some '\t'
  | _ => none

/-- The characters of a text after its opening quote. The reversed text so far is `acc`; each step
consumes a character, so the length of the input is enough fuel. -/
def readStringTail : Nat → List Char → List Char → Except ReadError (String × List Char)
  | 0, _, _ => .error .malformed
  | fuel + 1, acc, cs =>
    match cs with
    | [] => .error .malformed
    | '"' :: rest => .ok (String.ofList acc.reverse, rest)
    | '\\' :: 'u' :: rest => do
      let (c, after) ← readUnitEscape rest
      readStringTail fuel (c :: acc) after
    | '\\' :: e :: rest =>
      match simpleEscape? e with
      | some c => readStringTail fuel (c :: acc) rest
      | none => .error .malformed
    | c :: rest => if c.toNat < 32 then .error .malformed else readStringTail fuel (c :: acc) rest

def readString (cs : List Char) : Except ReadError (String × List Char) :=
  readStringTail (cs.length + 1) [] cs

/-- The digits of an exponent with its sign, if one follows. -/
def spanExponent (cs : List Char) : Option (Int × List Char) :=
  match cs with
  | e :: rest =>
    if e == 'e' || e == 'E' then
      let (negative, more) := splitSign rest
      let ds := more.takeWhile isAsciiDigit
      (Text.natOfDigits? ds).map fun n =>
        (if negative then -(n : Int) else n, more.dropWhile isAsciiDigit)
    else none
  | [] => none

/-- The digits of a fraction, if a point and a digit follow. -/
def spanFraction (cs : List Char) : Option (List Char × List Char) :=
  match cs with
  | '.' :: rest =>
    let ds := rest.takeWhile isAsciiDigit
    if ds.isEmpty then none else some (ds, rest.dropWhile isAsciiDigit)
  | _ => none

/-- A number whose sign has been read: one zero or digits that start with another digit, then a
fraction and an exponent if they are there. -/
def readNumberTail (negative : Bool) (cs : List Char) : Except ReadError (Json × List Char) :=
  let (whole, rest) :=
    match cs with
    | '0' :: more => (['0'], more)
    | _ => (cs.takeWhile isAsciiDigit, cs.dropWhile isAsciiDigit)
  if whole.isEmpty then .error .malformed
  else
    let fraction := spanFraction rest
    let rest := (fraction.map (·.2)).getD rest
    let exponent := spanExponent rest
    let rest := (exponent.map (·.2)).getD rest
    if fraction.isNone && exponent.isNone then
      if maxIntegerDigits < whole.length then .error (.integerTooLong whole.length)
      else
        let n := (Text.natOfDigits? whole).getD 0
        .ok (.int (if negative then -(n : Int) else n), rest)
    else
      let fractionDigits := (fraction.map (·.1)).getD []
      let digits := (whole ++ fractionDigits).filterMap Text.digitValue?
      .ok (.num (.ofDigits negative digits ((exponent.map (·.1)).getD 0 - fractionDigits.length)),
        rest)

/-- The words that are values. -/
def words : List (List Char × Json) := [
  ("null".toList, .null), ("true".toList, .bool true), ("false".toList, .bool false),
  ("NaN".toList, .num .nan), ("Infinity".toList, .num (.infinity false)),
  ("-Infinity".toList, .num (.infinity true))]

def readWord? (cs : List Char) : Option (Json × List Char) :=
  words.findSome? fun w => if w.1.isPrefixOf cs then some (w.2, cs.drop w.1.length) else none

mutual

/-- One value. Every call but the first follows a character consumed, so twice the length of the
input is enough fuel. -/
def readValue : Nat → List Char → Except ReadError (Json × List Char)
  | 0, _ => .error .malformed
  | fuel + 1, cs =>
    match cs with
    | '"' :: rest => (readString rest).map fun r => (.str r.1, r.2)
    | '[' :: rest =>
      match skipSpace rest with
      | ']' :: after => .ok (.arr [], after)
      | inner => readItems fuel [] inner
    | '\x7b' :: rest =>
      match skipSpace rest with
      | '\x7d' :: after => .ok (.obj [], after)
      | inner => readFields fuel [] inner
    | _ =>
      match readWord? cs with
      | some r => .ok r
      | none =>
        match cs with
        | '-' :: rest => readNumberTail true rest
        | _ => readNumberTail false cs

/-- Items up to the closing bracket; `acc` holds those read, in reverse. -/
def readItems : Nat → List Json → List Char → Except ReadError (Json × List Char)
  | 0, _, _ => .error .malformed
  | fuel + 1, acc, cs => do
    let (v, rest) ← readValue fuel cs
    match skipSpace rest with
    | ',' :: more => readItems fuel (v :: acc) (skipSpace more)
    | ']' :: after => .ok (.arr (v :: acc).reverse, after)
    | _ => .error .malformed

/-- Fields up to the closing brace. -/
def readFields : Nat → Fields → List Char → Except ReadError (Json × List Char)
  | 0, _, _ => .error .malformed
  | fuel + 1, acc, cs =>
    match cs with
    | '"' :: rest => do
      let (name, rest) ← readString rest
      match skipSpace rest with
      | ':' :: more => do
        let (v, rest) ← readValue fuel (skipSpace more)
        match skipSpace rest with
        | ',' :: more => readFields fuel (acc.insert name v) (skipSpace more)
        | '\x7d' :: after => .ok (.obj (acc.insert name v), after)
        | _ => .error .malformed
      | _ => .error .malformed
    | _ => .error .malformed

end

/-- The document that a text is, with space around it. -/
def read (s : String) : Except ReadError Json := do
  let cs := s.toList
  let (v, rest) ← readValue (2 * cs.length + 2) (skipSpace cs)
  if (skipSpace rest).isEmpty then return v else .error .malformed

end BoardQuery.Json
