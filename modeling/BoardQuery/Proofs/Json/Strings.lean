import BoardQuery.Json.Writer
import BoardQuery.Json.Reader
import Mathlib.Data.List.Basic

/-!
# Texts in documents

Every character comes back from its escape, one outside the first plane from the escapes of its
two units, so a written text is read as itself (`readString_escaped`).
-/

namespace BoardQuery

namespace Json

/-! ## Units -/

theorem hexValue?_digitChar : ∀ n < 16, hexValue? (Nat.digitChar n) = some n := by decide

/-- The four digits of a unit. -/
theorem hexText_four {n : Nat} (h : n < 0x10000) :
    Text.hexText 4 n = [Nat.digitChar (n / 4096), Nat.digitChar (n / 256 % 16),
      Nat.digitChar (n / 16 % 16), Nat.digitChar (n % 16)] := by
  have hstep (m : Nat) : Nat.toDigits 16 m
      = if m < 16 then [Nat.digitChar m]
        else Nat.toDigits 16 (m / 16) ++ [Nat.digitChar (m % 16)] :=
    Nat.toDigits_eq_if (by decide)
  have h1 : n / 16 / 16 = n / 256 := Nat.div_div_eq_div_mul ..
  have h2 : n / 256 / 16 = n / 4096 := Nat.div_div_eq_div_mul ..
  simp only [Text.hexText]
  rw [hstep n]
  split_ifs with hn
  · simp [Nat.div_eq_of_lt, Nat.mod_eq_of_lt, hn, show n < 256 by omega, show n < 4096 by omega]
  rw [hstep (n / 16), h1]
  split_ifs with hn
  · simp [Nat.div_eq_of_lt, Nat.mod_eq_of_lt, hn, show n < 256 by omega, show n < 4096 by omega]
  rw [hstep (n / 256), h2]
  split_ifs with hn
  · simp [Nat.div_eq_of_lt, Nat.mod_eq_of_lt, hn, show n < 4096 by omega]
  rw [hstep (n / 4096), if_pos (by omega)]
  rfl

theorem readUnit_hexText {n : Nat} (h : n < 0x10000) (rest : List Char) :
    readUnit (Text.hexText 4 n ++ rest) = .ok (n, rest) := by
  rw [hexText_four h]
  simp only [List.cons_append, List.nil_append, readUnit,
    hexValue?_digitChar (n / 4096) (by omega), hexValue?_digitChar (n / 256 % 16) (by omega),
    hexValue?_digitChar (n / 16 % 16) (by omega), hexValue?_digitChar (n % 16) (by omega)]
  congr 2
  omega

theorem toNat_not_surrogate (c : Char) : c.toNat < 0xd800 ∨ 0xe000 ≤ c.toNat := by
  rcases c.valid with h | h
  · exact .inl h
  · exact .inr h.1

theorem toNat_lt (c : Char) : c.toNat < 0x110000 := by
  rcases c.valid with h | h
  · exact Nat.lt_trans h (by decide)
  · exact h.2

theorem readUnitEscape_unit {c : Char} (h : c.toNat < 0x10000) (rest : List Char) :
    readUnitEscape (Text.hexText 4 c.toNat ++ rest) = .ok (c, rest) := by
  have hsurrogate := toNat_not_surrogate c
  have hhigh : ¬ (0xd800 ≤ c.toNat ∧ c.toNat < 0xdc00) := by omega
  have hlow : ¬ (0xdc00 ≤ c.toNat ∧ c.toNat < 0xe000) := by omega
  simp [readUnitEscape, readUnit_hexText h, bind, Except.bind, hhigh, hlow]

theorem readUnitEscape_pair {high low : Nat} (hhigh : 0xd800 ≤ high ∧ high < 0xdc00)
    (hlow : 0xdc00 ≤ low ∧ low < 0xe000) (rest : List Char) :
    readUnitEscape (Text.hexText 4 high ++ (unitEscape low ++ rest))
      = .ok (Char.ofNat (0x10000 + (high - 0xd800) * 0x400 + (low - 0xdc00)), rest) := by
  rw [readUnitEscape, readUnit_hexText (by omega)]
  simp only [bind, Except.bind, unitEscape, List.cons_append,
    readUnit_hexText (show low < 0x10000 by omega), hhigh, hlow, decide_true, Bool.and_self,
    if_true]

theorem readUnitEscape_split {c : Char} (h : 0x10000 ≤ c.toNat) (rest : List Char) :
    readUnitEscape (Text.hexText 4 (0xd800 + (c.toNat - 0x10000) / 0x400)
        ++ (unitEscape (0xdc00 + (c.toNat - 0x10000) % 0x400) ++ rest)) = .ok (c, rest) := by
  have hlt := toNat_lt c
  have hjoin : 0x10000 + (0xd800 + (c.toNat - 0x10000) / 0x400 - 0xd800) * 0x400
      + (0xdc00 + (c.toNat - 0x10000) % 0x400 - 0xdc00) = c.toNat := by omega
  rw [readUnitEscape_pair (by omega) (by omega), hjoin, Char.ofNat_toNat]

/-! ## Texts -/

/-- A character that needs no escape is read as itself. -/
theorem readStringTail_plain {c : Char} (hquote : c ≠ '"') (hescape : c ≠ '\\') (h : 32 ≤ c.toNat)
    (fuel : Nat) (acc rest : List Char) :
    readStringTail (fuel + 1) acc (c :: rest) = readStringTail fuel (c :: acc) rest := by
  rw [readStringTail, if_neg (by omega)]
  · exact fun hc => hquote hc
  · exact fun _ hc => absurd hc hescape
  · exact fun _ _ hc => absurd hc hescape

theorem readStringTail_escapeChar (fuel : Nat) (acc : List Char) (c : Char) (rest : List Char) :
    readStringTail (fuel + 1) acc (escapeChar c ++ rest) = readStringTail fuel (c :: acc) rest := by
  unfold escapeChar
  split_ifs with h1 h2 h3 h4 h5 h6 h7 h8 h9
  · rw [beq_iff_eq.1 h1]
    rfl
  · rw [beq_iff_eq.1 h2]
    rfl
  · rw [beq_iff_eq.1 h3]
    rfl
  · rw [beq_iff_eq.1 h4]
    rfl
  · rw [beq_iff_eq.1 h5]
    rfl
  · rw [← Char.ofNat_toNat c, beq_iff_eq.1 h6]
    rfl
  · rw [← Char.ofNat_toNat c, beq_iff_eq.1 h7]
    rfl
  · simp only [beq_iff_eq] at h1 h2
    simp only [Bool.and_eq_true, decide_eq_true_eq] at h8
    exact readStringTail_plain h1 h2 h8.1 fuel acc rest
  · rw [unitEscape, List.cons_append, List.cons_append, readStringTail, readUnitEscape_unit h9]
    rfl
  · simp only []
    rw [List.append_assoc, unitEscape, List.cons_append, List.cons_append, readStringTail,
      readUnitEscape_split (by omega)]
    rfl

theorem escapeChar_ne_nil (c : Char) : escapeChar c ≠ [] := by
  unfold escapeChar
  split_ifs <;> exact List.cons_ne_nil _ _

theorem length_le_flatMap_escapeChar (cs : List Char) :
    cs.length ≤ (cs.flatMap escapeChar).length := by
  induction cs with
  | nil => exact Nat.le_refl _
  | cons c cs ih =>
    have := List.length_pos_of_ne_nil (escapeChar_ne_nil c)
    rw [List.flatMap_cons, List.length_append, List.length_cons]
    omega

theorem readStringTail_flatMap (cs rest : List Char) {fuel : Nat} (h : cs.length < fuel)
    (acc : List Char) :
    readStringTail fuel acc (cs.flatMap escapeChar ++ '"' :: rest)
      = .ok (String.ofList (acc.reverse ++ cs), rest) := by
  obtain ⟨fuel, rfl⟩ := Nat.exists_eq_succ_of_ne_zero (Nat.ne_zero_of_lt h)
  induction cs generalizing fuel acc with
  | nil => simp [readStringTail]
  | cons c cs ih =>
    obtain ⟨fuel, rfl⟩ : ∃ n, fuel = n + 1 := ⟨fuel - 1, by simp at h; omega⟩
    rw [List.flatMap_cons, List.append_assoc, readStringTail_escapeChar, ih _ _ (by simpa using h)]
    simp

theorem readString_escaped (s : String) (rest : List Char) :
    readString (s.toList.flatMap escapeChar ++ '"' :: rest) = .ok (s, rest) := by
  have hle := length_le_flatMap_escapeChar s.toList
  rw [readString, readStringTail_flatMap _ _ (by
    rw [List.length_append, List.length_cons]
    omega)]
  simp

end Json

end BoardQuery
