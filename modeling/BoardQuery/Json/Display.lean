import BoardQuery.Json.Basic
import BoardQuery.Number.Decimal
import BoardQuery.Text.Quoted

/-!
# Values in messages

The text that a message shows for a value. A text stands for itself at the top and is quoted
inside an array or an object; `None`, `True` and `False` are the words for null and the truth
values.
-/

namespace BoardQuery

def intText (n : Int) : List Char :=
  if n < 0 then '-' :: Nat.toDigits 10 n.natAbs else Nat.toDigits 10 n.natAbs

/-- The parts with `sep` between them. -/
def joinChars (sep : List Char) : List (List Char) → List Char
  | [] => []
  | [p] => p
  | p :: rest => p ++ sep ++ joinChars sep rest

def joinWith (sep : String) (parts : List String) : String :=
  String.ofList (joinChars sep.toList (parts.map String.toList))

namespace Json

mutual

/-- The quoted form of a value, which stands inside containers. -/
def quotedChars : Json → List Char
  | .null => "None".toList
  | .bool true => "True".toList
  | .bool false => "False".toList
  | .int n => intText n
  | .num x => NumberStyle.message.text x
  | .str s => Text.quoted s
  | .arr items => '[' :: joinChars [',', ' '] (quotedItems items) ++ [']']
  | .obj fields => '\x7b' :: joinChars [',', ' '] (quotedFields fields) ++ ['\x7d']

def quotedItems : List Json → List (List Char)
  | [] => []
  | v :: rest => quotedChars v :: quotedItems rest

def quotedFields : List (String × Json) → List (List Char)
  | [] => []
  | (name, v) :: rest => (Text.quoted name ++ ':' :: ' ' :: quotedChars v) :: quotedFields rest

end

/-- The quoted form of a value. -/
def quoted (v : Json) : String :=
  String.ofList v.quotedChars

/-- The text of a value in a message. -/
def display : Json → String
  | .str s => s
  | v => v.quoted

end Json

end BoardQuery
