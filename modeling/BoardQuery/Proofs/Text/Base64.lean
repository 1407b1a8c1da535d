import BoardQuery.Proofs.Text.AsciiBytes
import BoardQuery.Text.Base64

/-!
# Base64 read back

Bytes written as letters are read as the same bytes (`decode_encode`).
-/

namespace BoardQuery

namespace Base64

/-- The byte of a letter. -/
def letterByte (v : Nat) : UInt8 := UInt8.ofNat (letter v).toNat

theorem letterByte_facts : ∀ v < 64,
    (letterByte v).toNat ≠ 61 ∧ sextet? (letterByte v) = some v := by decide

section Letters

variable {v : Nat} (hv : v < 64) (left pads : Nat) (rest : List UInt8)
include hv

theorem decodeFrom_first :
    decodeFrom 0 left pads (letterByte v :: rest) = decodeFrom 1 v 0 rest := by
  obtain ⟨hpad, hsextet⟩ := letterByte_facts v hv
  rw [decodeFrom]
  simp [hpad, hsextet]

theorem decodeFrom_second : decodeFrom 1 left pads (letterByte v :: rest)
    = (decodeFrom 2 (v % 16) 0 rest).map (UInt8.ofNat (left * 4 + v / 16) :: ·) := by
  obtain ⟨hpad, hsextet⟩ := letterByte_facts v hv
  rw [decodeFrom]
  simp [hpad, hsextet]

theorem decodeFrom_third : decodeFrom 2 left pads (letterByte v :: rest)
    = (decodeFrom 3 (v % 4) 0 rest).map (UInt8.ofNat (left * 16 + v / 4) :: ·) := by
  obtain ⟨hpad, hsextet⟩ := letterByte_facts v hv
  rw [decodeFrom]
  simp [hpad, hsextet]

theorem decodeFrom_fourth : decodeFrom 3 left pads (letterByte v :: rest)
    = (decodeFrom 0 0 0 rest).map (UInt8.ofNat (left * 64 + v) :: ·) := by
  obtain ⟨hpad, hsextet⟩ := letterByte_facts v hv
  rw [decodeFrom]
  simp [hpad, hsextet]

end Letters

theorem decodeFrom_encode : (bytes : List UInt8) →
    decodeFrom 0 0 0 ((encode bytes).map (UInt8.ofNat ·.toNat)) = some bytes
  | [] => rfl
  | [a] => by
    have ha := a.toNat_lt
    have hbyte : a.toNat / 4 * 4 + a.toNat % 4 * 16 / 16 = a.toNat := by omega
    change decodeFrom 0 0 0 [letterByte (a.toNat / 4), letterByte (a.toNat % 4 * 16), 61, 61] = _
    rw [decodeFrom_first (by omega), decodeFrom_second (by omega), hbyte, UInt8.ofNat_toNat]
    rfl
  | [a, b] => by
    have ha := a.toNat_lt
    have hb := b.toNat_lt
    have hfirst : a.toNat / 4 * 4 + (a.toNat % 4 * 16 + b.toNat / 16) / 16 = a.toNat := by omega
    have hsecond : (a.toNat % 4 * 16 + b.toNat / 16) % 16 * 16 + b.toNat % 16 * 4 / 4
        = b.toNat := by omega
    change decodeFrom 0 0 0 [letterByte (a.toNat / 4),
      letterByte (a.toNat % 4 * 16 + b.toNat / 16), letterByte (b.toNat % 16 * 4), 61] = _
    rw [decodeFrom_first (by omega), decodeFrom_second (by omega), decodeFrom_third (by omega),
      hfirst, hsecond, UInt8.ofNat_toNat, UInt8.ofNat_toNat]
    rfl
  | a :: b :: c :: rest => by
    have ha := a.toNat_lt
    have hb := b.toNat_lt
    have hc := c.toNat_lt
    have hfirst : a.toNat / 4 * 4 + (a.toNat % 4 * 16 + b.toNat / 16) / 16 = a.toNat := by omega
    have hsecond : (a.toNat % 4 * 16 + b.toNat / 16) % 16 * 16
        + (b.toNat % 16 * 4 + c.toNat / 64) / 4 = b.toNat := by omega
    have hthird : (b.toNat % 16 * 4 + c.toNat / 64) % 4 * 64 + c.toNat % 64 = c.toNat := by omega
    have hrest := decodeFrom_encode rest
    change decodeFrom 0 0 0 (letterByte (a.toNat / 4)
      :: letterByte (a.toNat % 4 * 16 + b.toNat / 16)
      :: letterByte (b.toNat % 16 * 4 + c.toNat / 64) :: letterByte (c.toNat % 64)
      :: (encode rest).map (UInt8.ofNat ·.toNat)) = _
    rw [decodeFrom_first (by omega), decodeFrom_second (by omega), decodeFrom_third (by omega),
      decodeFrom_fourth (by omega), hfirst, hsecond, hthird, hrest, UInt8.ofNat_toNat,
      UInt8.ofNat_toNat, UInt8.ofNat_toNat]
    rfl

theorem letter_ascii (v : Nat) (hv : v < 64) : 0 < (letter v).toNat ∧ (letter v).toNat < 128 := by
  revert v
  decide

theorem encode_ascii : (bytes : List UInt8) → Encoding.Ascii (encode bytes)
  | [] => by simp [encode, Encoding.Ascii]
  | [a] => by
    have ha := a.toNat_lt
    have h1 := letter_ascii (a.toNat / 4) (by omega)
    have h2 := letter_ascii (a.toNat % 4 * 16) (by omega)
    simp [encode, Encoding.Ascii, h1, h2]
  | [a, b] => by
    have ha := a.toNat_lt
    have hb := b.toNat_lt
    have h1 := letter_ascii (a.toNat / 4) (by omega)
    have h2 := letter_ascii (a.toNat % 4 * 16 + b.toNat / 16) (by omega)
    have h3 := letter_ascii (b.toNat % 16 * 4) (by omega)
    simp [encode, Encoding.Ascii, h1, h2, h3]
  | a :: b :: c :: rest => by
    have ha := a.toNat_lt
    have hb := b.toNat_lt
    have hc := c.toNat_lt
    have h1 := letter_ascii (a.toNat / 4) (by omega)
    have h2 := letter_ascii (a.toNat % 4 * 16 + b.toNat / 16) (by omega)
    have h3 := letter_ascii (b.toNat % 16 * 4 + c.toNat / 64) (by omega)
    have h4 := letter_ascii (c.toNat % 64) (by omega)
    have hrest := encode_ascii rest
    simp only [encode, Encoding.Ascii, List.forall_mem_cons] at hrest ⊢
    exact ⟨h1, h2, h3, h4, hrest⟩

theorem decode_encode (bytes : List UInt8) :
    decode (String.ofList (encode bytes)).toUTF8.toList = some bytes := by
  rw [decode, Encoding.toUTF8_ascii (encode_ascii bytes), decodeFrom_encode]

end Base64

end BoardQuery
