import BoardQuery.Json.Writer
import BoardQuery.Number.Reading
import BoardQuery.Store.Truth

/-!
# Cells

The scalars that the store compares: nothing, integers of 64 bits, numbers, and text. Numbers are
compared by their exact value and stand before every text, and texts are compared by their bytes.
A comparison with nothing has no outcome.
-/

namespace BoardQuery

/-- A scalar of the store. -/
inductive Cell where
  | null
  | int (n : Int)
  | real (x : Binary64)
  | text (s : String)
  deriving DecidableEq

/-- Integers of 64 bits lie below this bound, and not below its negative. -/
def integerBound : Int := 9223372036854775808

/-- Whether an integer fits into 64 bits. -/
def fitsInteger (n : Int) : Bool :=
  -integerBound ≤ n && n < integerBound

namespace Cell

def isNull : Cell → Bool
  | .null => true
  | _ => false

/-- The value of a number, in units. -/
def units? : Cell → Option Int
  | .int n => some (Binary64.unitsOfInt n)
  | .real x => x.units?
  | _ => none

/-- How two cells stand to each other, unless one of them is nothing. -/
def compare? : Cell → Cell → Option Ordering
  | .null, _ => none
  | _, .null => none
  | .text s, .text t => some (compare s t)
  | .text _, _ => some .gt
  | _, .text _ => some .lt
  | a, b =>
    match a.units?, b.units? with
    | some m, some n => some (compare m n)
    | _, _ => none

/-- The text of a cell for operations on text, which end at a null character. -/
def likeChars? : Cell → Option (List Char)
  | .null => none
  | .int n => some (intText n)
  | .real x => some (NumberStyle.stored.text x)
  | .text s => some (s.toList.takeWhile (· != '\x00'))

/-- The scalar under which a stored document is compared: an array or an object counts as its text,
a truth value as one or zero, an integer beyond 64 bits as the double next to it, and a text ends
at its first null character. -/
def ofStored : Json → Cell
  | .null => .null
  | .bool b => .int (if b then 1 else 0)
  | .int n => if fitsInteger n then .int n else .real (.ofRatio (n < 0) n.natAbs 1)
  | .num x => .real x
  | .str s => .text (String.ofList (s.toList.takeWhile (· != '\x00')))
  | v => .text (v.write)

def toJson : Cell → Json
  | .null => .null
  | .int n => .int n
  | .real x => .num x
  | .text s => .str s

end Cell

/-- The ways to compare two cells. -/
inductive Comparison where
  | equal
  | notEqual
  | less
  | lessEqual
  | greater
  | greaterEqual
  deriving DecidableEq, Repr

namespace Comparison

/-- Whether cells that stand like this pass. -/
def holds : Comparison → Ordering → Bool
  | .equal, o => o == .eq
  | .notEqual, o => o != .eq
  | .less, o => o == .lt
  | .lessEqual, o => o != .gt
  | .greater, o => o == .gt
  | .greaterEqual, o => o != .lt

def test (c : Comparison) (a b : Cell) : Truth :=
  match a.compare? b with
  | some o => .ofBool (c.holds o)
  | none => .unknown

end Comparison

/-- A text sought in another: at its start, at its end, or anywhere, or the two as wholes. Letters
of the unaccented alphabet match in either case. -/
structure TextPattern where
  /-- Whether anything may come before. -/
  after : Bool
  literal : List Char
  /-- Whether anything may follow. -/
  before : Bool

/-- Whether `pattern` occurs in `cs`. -/
def occursIn (pattern : List Char) : List Char → Bool
  | [] => pattern.isEmpty
  | c :: cs => pattern.isPrefixOf (c :: cs) || occursIn pattern cs

namespace TextPattern

/-- The pattern for a text; it ends at a null character, with nothing allowed to follow. -/
def of (after : Bool) (s : String) (before : Bool) : TextPattern :=
  let literal := s.toList.takeWhile (· != '\x00')
  ⟨after, literal, before && literal.length == s.length⟩

def anywhere (s : String) : TextPattern := of true s true

def atStart (s : String) : TextPattern := of false s true

def atEnd (s : String) : TextPattern := of true s false

def accepts (p : TextPattern) (cs : List Char) : Bool :=
  let pattern := p.literal.map Char.toLower
  let text := cs.map Char.toLower
  match p.after, p.before with
  | true, true => occursIn pattern text
  | true, false => pattern.isSuffixOf text
  | false, true => pattern.isPrefixOf text
  | false, false => pattern == text

end TextPattern

/-- How a column brings what it is compared with into its own form. -/
inductive Affinity where
  | none
  | text
  | numeric
  deriving DecidableEq

/-- The number that a text is, with ASCII space around it. -/
def readLiteral? (s : String) : Option Cell :=
  let isSpace (c : Char) : Bool := c == ' ' || ('\t' ≤ c && c ≤ '\r')
  let cs := ((s.toList.dropWhile isSpace).reverse.dropWhile isSpace).reverse
  if cs.all fun c => c.toNat < 128 then
    let (negative, rest) := splitSign cs
    match Text.natOfDigits? rest with
    | some n =>
      let n : Int := if negative then -(n : Int) else n
      some (if fitsInteger n then .int n else .real (.ofRatio (n < 0) n.natAbs 1))
    | none => (readDecimal? negative rest).map .real
  else .none

/-- The form that a column gives to what it is compared with. -/
def Affinity.apply (a : Affinity) (c : Cell) : Cell :=
  match a, c with
  | .text, .int n => .text (String.ofList (intText n))
  | .text, .real x => .text (String.ofList (NumberStyle.stored.text x))
  | .numeric, .text s => (readLiteral? s).getD c
  | _, c => c

end BoardQuery
