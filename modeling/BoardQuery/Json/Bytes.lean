import BoardQuery.Json.Reader
import BoardQuery.Text.Encoding

/-!
# Documents as bytes
-/

namespace BoardQuery.Json

/-- The document that bytes are, in any of the encodings of text. -/
def readBytes (bytes : List UInt8) : Except ReadError Json :=
  match Encoding.decode bytes with
  | some s => read s
  | none => .error .malformed

end BoardQuery.Json
