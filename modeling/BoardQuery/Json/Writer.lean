import BoardQuery.Json.Display
import BoardQuery.Number.Reading

/-!
# Writing documents

A document is written on one line without blanks, with every character outside printable ASCII as
the escapes of its UTF-16 units.
-/

namespace BoardQuery.Json

/-- The escape of one UTF-16 unit. -/
def unitEscape (n : Nat) : List Char :=
  '\\' :: 'u' :: Text.hexText 4 n

/-- A character inside a written text. -/
def escapeChar (c : Char) : List Char :=
  if c == '"' then ['\\', '"']
  else if c == '\\' then ['\\', '\\']
  else if c == '\n' then ['\\', 'n']
  else if c == '\r' then ['\\', 'r']
  else if c == '\t' then ['\\', 't']
  else if c.toNat == 8 then ['\\', 'b']
  else if c.toNat == 12 then ['\\', 'f']
  else if 32 ≤ c.toNat && c.toNat < 127 then [c]
  else if c.toNat < 0x10000 then unitEscape c.toNat
  else
    let n := c.toNat - 0x10000
    unitEscape (0xd800 + n / 0x400) ++ unitEscape (0xdc00 + n % 0x400)

def writeString (s : String) : List Char :=
  '"' :: s.toList.flatMap escapeChar ++ ['"']

mutual

def writeChars : Json → List Char
  | .null => "null".toList
  | .bool true => "true".toList
  | .bool false => "false".toList
  | .int n => intText n
  | .num x => NumberStyle.document.text x
  | .str s => writeString s
  | .arr items => '[' :: joinChars [','] (writeItems items) ++ [']']
  | .obj fields => '\x7b' :: joinChars [','] (writeFields fields) ++ ['\x7d']

def writeItems : List Json → List (List Char)
  | [] => []
  | v :: rest => writeChars v :: writeItems rest

def writeFields : List (String × Json) → List (List Char)
  | [] => []
  | (name, v) :: rest => (writeString name ++ ':' :: writeChars v) :: writeFields rest

end

def write (v : Json) : String :=
  String.ofList v.writeChars

mutual

/-- Whether a document holds an integer with too many digits to be written. -/
def hasLongInteger : Json → Bool
  | .int n => maxIntegerDigits < (Nat.toDigits 10 n.natAbs).length
  | .arr items => anyLongInteger items
  | .obj fields => anyFieldLongInteger fields
  | _ => false

def anyLongInteger : List Json → Bool
  | [] => false
  | v :: rest => hasLongInteger v || anyLongInteger rest

def anyFieldLongInteger : List (String × Json) → Bool
  | [] => false
  | (_, v) :: rest => hasLongInteger v || anyFieldLongInteger rest

end

end BoardQuery.Json
