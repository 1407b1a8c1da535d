/-!
# Base64

Bytes as text of sixty-four letters, the URL-safe ones, padded to groups of four. Reading is
lenient: both forms of the last two letters count, and characters that are no letters are skipped.
-/

namespace BoardQuery.Base64

/-- The letter of a sextet. -/
def letter (n : Nat) : Char :=
  if n < 26 then Char.ofNat (65 + n)
  else if n < 52 then Char.ofNat (71 + n)
  else if n < 62 then Char.ofNat (n - 4)
  else if n == 62 then '-'
  else '_'

/-- The sextet of a letter, from its code. -/
def sextet? (c : UInt8) : Option Nat :=
  let n := c.toNat
  if 65 ≤ n && n ≤ 90 then some (n - 65)
  else if 97 ≤ n && n ≤ 122 then some (n - 71)
  else if 48 ≤ n && n ≤ 57 then some (n + 4)
  else if n == 43 || n == 45 then some 62
  else if n == 47 || n == 95 then some 63
  else none

def encode : List UInt8 → List Char
  | a :: b :: c :: rest =>
    let (a, b, c) := (a.toNat, b.toNat, c.toNat)
    letter (a / 4) :: letter (a % 4 * 16 + b / 16) :: letter (b % 16 * 4 + c / 64) ::
      letter (c % 64) :: encode rest
  | [a, b] =>
    let (a, b) := (a.toNat, b.toNat)
    [letter (a / 4), letter (a % 4 * 16 + b / 16), letter (b % 16 * 4), '=']
  | [a] => [letter (a.toNat / 4), letter (a.toNat % 4 * 16), '=', '=']
  | [] => []

/-- Reads on within a group of four, of which `place` letters have been read. `left` holds the bits
that make no byte yet, and `pads` counts the padding characters since the last letter. Enough
padding ends the text; without it, the last group must be complete. -/
def decodeFrom (place left pads : Nat) : List UInt8 → Option (List UInt8)
  | [] => if place == 0 then some [] else none
  | c :: rest =>
    if c.toNat == 61 then
      if 2 ≤ place then
        if 4 ≤ place + pads + 1 then some [] else decodeFrom place left (pads + 1) rest
      else decodeFrom place left pads rest
    else
      match sextet? c with
      | none => decodeFrom place left pads rest
      | some v =>
        match place with
        | 0 => decodeFrom 1 v 0 rest
        | 1 => (decodeFrom 2 (v % 16) 0 rest).map (UInt8.ofNat (left * 4 + v / 16) :: ·)
        | 2 => (decodeFrom 3 (v % 4) 0 rest).map (UInt8.ofNat (left * 16 + v / 4) :: ·)
        | _ => (decodeFrom 0 0 0 rest).map (UInt8.ofNat (left * 64 + v) :: ·)

/-- The bytes that a text stands for. -/
def decode (cs : List UInt8) : Option (List UInt8) :=
  decodeFrom 0 0 0 cs

end BoardQuery.Base64
