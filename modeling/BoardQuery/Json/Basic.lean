import BoardQuery.Number.Binary64

/-!
# Documents

The values that requests carry and that columns hold. A number keeps whether it was written as an
integer, and an object keeps the order of its fields.
-/

namespace BoardQuery

/-- A document. -/
inductive Json where
  | null
  | bool (b : Bool)
  | int (n : Int)
  | num (x : Binary64)
  | str (s : String)
  | arr (items : List Json)
  | obj (fields : List (String × Json))

/-- The fields of an object. -/
abbrev Fields := List (String × Json)

namespace Fields

def get? (fields : Fields) (name : String) : Option Json :=
  fields.lookup name

/-- The value of a field; a missing field is null. -/
def get (fields : Fields) (name : String) : Json :=
  (fields.lookup name).getD .null

def has (fields : Fields) (name : String) : Bool :=
  fields.any (·.1 == name)

/-- Writes a field. A name that is there already keeps its place. -/
def insert (fields : Fields) (name : String) (value : Json) : Fields :=
  match fields with
  | [] => [(name, value)]
  | (n, v) :: rest => if n == name then (name, value) :: rest else (n, v) :: insert rest name value

/-- The fields, overlaid with more of them. -/
def overlay (fields more : Fields) : Fields :=
  more.foldl (fun acc f => acc.insert f.1 f.2) fields

def erase (fields : Fields) (name : String) : Fields :=
  fields.filter (·.1 != name)

end Fields

namespace Json

def isNull : Json → Bool
  | .null => true
  | _ => false

/-- Null, false, zero, and the empty text, array and object are falsy. -/
def truthy : Json → Bool
  | .null => false
  | .bool b => b
  | .int n => n != 0
  | .num x => !x.isZero
  | .str s => s != ""
  | .arr items => !items.isEmpty
  | .obj fields => !fields.isEmpty

/-- The value if it is truthy, and `other` if not. -/
def orElse (v other : Json) : Json :=
  if v.truthy then v else other

def str? : Json → Option String
  | .str s => some s
  | _ => none

/-- The fields of an object; any other value has none. -/
def fields : Json → Fields
  | .obj fs => fs
  | _ => []

/-- The texts of an array of texts. -/
def strings? : Json → Option (List String)
  | .arr items => items.mapM str?
  | _ => none

def ofStrings (ss : List String) : Json :=
  .arr (ss.map .str)

def ofOption (s : Option String) : Json :=
  match s with
  | some s => .str s
  | none => .null

/-- The numeric value that a truth value, an integer or a finite number has, in units. -/
def units? : Json → Option Int
  | .bool b => some (Binary64.unitsOfInt (if b then 1 else 0))
  | .int n => some (Binary64.unitsOfInt n)
  | .num x => if x.isFinite then x.units? else none
  | _ => none

mutual

/-- Equality of values: numbers and truth values by their numeric value, objects whatever the
order of their fields. -/
def same : Json → Json → Bool
  | .null, .null => true
  | .str a, .str b => a == b
  | .arr a, .arr b => sameItems a b
  | .obj a, .obj b => a.length == b.length && sameFields a b
  | .num x, .num y => x.eq y
  | a, b =>
    match a.units?, b.units? with
    | some m, some n => m == n
    | _, _ => false

def sameItems : List Json → List Json → Bool
  | [], [] => true
  | a :: as, b :: bs => same a b && sameItems as bs
  | _, _ => false

/-- Whether every field of the first list has an equal one in the second. -/
def sameFields : List (String × Json) → List (String × Json) → Bool
  | [], _ => true
  | (name, a) :: rest, bs =>
    (match bs.lookup name with
      | some b => same a b
      | none => false) && sameFields rest bs

end

/-- Texts, numbers, truth values and null; the values that can be members of a set. -/
def isScalar : Json → Bool
  | .arr _ => false
  | .obj _ => false
  | _ => true

end Json

end BoardQuery
