import BoardQuery.Text.Encoding

/-!
# Percent coding

In an address, a percent sign and two hexadecimal digits stand for a byte of UTF-8.
-/

namespace BoardQuery.PercentCoding

def hexValue? (c : Char) : Option Nat :=
  if '0' ≤ c && c ≤ '9' then some (c.toNat - 48)
  else if 'a' ≤ c && c ≤ 'f' then some (c.toNat - 87)
  else if 'A' ≤ c && c ≤ 'F' then some (c.toNat - 55)
  else none

/-- The text of some bytes. What is no UTF-8 becomes replacement characters. -/
def bytesText (bytes : List Nat) : List Char :=
  (Encoding.decodeUtf8 bytes).getD (bytes.map fun b =>
    if b < 0x80 then Char.ofNat b else Char.ofNat 0xfffd)

/-- Decodes a text after the bytes `run`, which have been read in reverse. -/
def decodeFrom (run : List Nat) (cs : List Char) : List Char :=
  match cs with
  | '%' :: a :: b :: rest =>
    match hexValue? a, hexValue? b with
    | some m, some n => decodeFrom ((m * 16 + n) :: run) rest
    | _, _ => bytesText run.reverse ++ '%' :: decodeFrom [] (a :: b :: rest)
  | c :: rest => bytesText run.reverse ++ c :: decodeFrom [] rest
  | [] => bytesText run.reverse

def decode (s : String) : String :=
  String.ofList (decodeFrom [] s.toList)

end BoardQuery.PercentCoding
