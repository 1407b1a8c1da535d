/-!
# Encodings of text

Bytes read as text. The encoding is told by a byte order mark or by where the zero bytes stand
among the first four, and is UTF-8 otherwise. A surrogate that stands alone becomes the replacement
character.
-/

namespace BoardQuery.Encoding

/-- How text is written as bytes. -/
inductive Form where
  | utf8
  | utf16 (bigEndian : Bool)
  | utf32 (bigEndian : Bool)
  deriving DecidableEq

def isSurrogate (n : Nat) : Bool :=
  0xd800 ≤ n && n < 0xe000

/-- The character with a code point. -/
def charOf? (n : Nat) : Option Char :=
  if isSurrogate n then some (Char.ofNat 0xfffd)
  else if n < 0x110000 then some (Char.ofNat n)
  else none

/-- The six bits of a continuation byte. -/
def tail? (b : Nat) : Option Nat :=
  if 0x80 ≤ b && b < 0xc0 then some (b - 0x80) else none

def decodeUtf8 : List Nat → Option (List Char)
  | [] => some []
  | a :: rest =>
    if a < 0x80 then (decodeUtf8 rest).map (Char.ofNat a :: ·)
    else
      match rest with
      | [] => none
      | b :: rest => do
        let b ← tail? b
        if 0xc2 ≤ a && a < 0xe0 then
          let c ← charOf? ((a - 0xc0) * 0x40 + b)
          return c :: (← decodeUtf8 rest)
        match rest with
        | [] => none
        | c :: rest => do
          let c ← tail? c
          if 0xe0 ≤ a && a < 0xf0 then
            let n := ((a - 0xe0) * 0x40 + b) * 0x40 + c
            if n < 0x800 then none
            return (← charOf? n) :: (← decodeUtf8 rest)
          match rest with
          | [] => none
          | d :: rest => do
            let d ← tail? d
            let n := (((a - 0xf0) * 0x40 + b) * 0x40 + c) * 0x40 + d
            if 0xf0 ≤ a && a < 0xf5 && 0x10000 ≤ n then
              return (← charOf? n) :: (← decodeUtf8 rest)
            else none

/-- Bytes taken together in pairs. -/
def pairs? (bigEndian : Bool) : List Nat → Option (List Nat)
  | [] => some []
  | [_] => none
  | a :: b :: rest =>
    (pairs? bigEndian rest).map ((if bigEndian then a * 0x100 + b else b * 0x100 + a) :: ·)

/-- Units of sixteen bits as characters, a high surrogate together with the low one after it. -/
def decodeUnits : List Nat → List Char
  | [] => []
  | [u] => (charOf? u).toList
  | u :: v :: rest =>
    if 0xd800 ≤ u && u < 0xdc00 && 0xdc00 ≤ v && v < 0xe000 then
      Char.ofNat (0x10000 + (u - 0xd800) * 0x400 + (v - 0xdc00)) :: decodeUnits rest
    else (charOf? u).toList ++ decodeUnits (v :: rest)

def decodeUtf16 (bigEndian : Bool) (bytes : List Nat) : Option (List Char) :=
  (pairs? bigEndian bytes).map decodeUnits

/-- Halves of sixteen bits, two to a code point. -/
def decodeHalves (bigEndian : Bool) : List Nat → Option (List Char)
  | [] => some []
  | [_] => none
  | h :: l :: rest => do
    let c ← charOf? (if bigEndian then h * 0x10000 + l else l * 0x10000 + h)
    return c :: (← decodeHalves bigEndian rest)

def decodeUtf32 (bigEndian : Bool) (bytes : List Nat) : Option (List Char) :=
  (pairs? bigEndian bytes).bind (decodeHalves bigEndian)

def Form.decode : Form → List Nat → Option (List Char)
  | .utf8, bytes => decodeUtf8 bytes
  | .utf16 big, bytes => decodeUtf16 big bytes
  | .utf32 big, bytes => decodeUtf32 big bytes

/-- The encoding of a document, and the bytes after its byte order mark. -/
def detect (bytes : List Nat) : Form × List Nat :=
  match bytes with
  | 0 :: 0 :: 0xfe :: 0xff :: rest => (.utf32 true, rest)
  | 0xff :: 0xfe :: 0 :: 0 :: rest => (.utf32 false, rest)
  | 0xfe :: 0xff :: rest => (.utf16 true, rest)
  | 0xff :: 0xfe :: rest => (.utf16 false, rest)
  | 0xef :: 0xbb :: 0xbf :: rest => (.utf8, rest)
  | 0 :: b :: _ :: _ :: _ => (if b == 0 then .utf32 true else .utf16 true, bytes)
  | _ :: 0 :: c :: d :: _ => (if c == 0 && d == 0 then .utf32 false else .utf16 false, bytes)
  | [0, _] => (.utf16 true, bytes)
  | [_, 0] => (.utf16 false, bytes)
  | _ => (.utf8, bytes)

/-- The text that the bytes of a document are. -/
def decode (bytes : List UInt8) : Option String :=
  let (form, rest) := detect (bytes.map (·.toNat))
  (form.decode rest).map String.ofList

end BoardQuery.Encoding
