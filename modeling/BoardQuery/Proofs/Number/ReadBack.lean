import BoardQuery.Proofs.Number.Shortest

/-!
# Digits read back

Digits and an exponent whose real number lies in the interval of a code are read as the double with
that code (`ofDigits_of_contains`). The exponents that are settled without computing the power lie
outside all of these intervals.
-/

namespace BoardQuery

open Text Decimal

seal unitsPerOne

namespace Decimal

open Binary64

theorem Interval.Contains.above_floor {code : Nat} (hcode : 0 < code) {q : ℚ}
    (h : (Interval.ofCode code).Contains q) : (10 : ℚ) ^ (-330 : ℤ) < q := by
  have hlow : (1 : ℚ) ≤ (Interval.ofCode code).low := by
    have hpos : 0 < unitsOfCode code := (unitsOfCode_strictMono hcode).pos
    exact_mod_cast Nat.le_trans hpos (Nat.le_add_left _ _)
  have hle := hlow.trans (contains_bounds h).1
  have hpow : (2 : ℚ) * unitsPerOne < 10 ^ 330 := by
    have hbase : (2 : Nat) ^ 215 < 10 ^ 66 := by norm_num
    have hraised := Nat.pow_lt_pow_left hbase (show 5 ≠ 0 by decide)
    rw [← Nat.pow_mul, ← Nat.pow_mul] at hraised
    have hunits : 2 * unitsPerOne = 2 ^ (215 * 5) := by
      rw [unitsPerOne_eq, ← Nat.pow_succ']
    rw [← hunits] at hraised
    exact_mod_cast hraised
  by_contra hq
  have hten : (0 : ℚ) < 10 ^ 330 := by positivity
  have hzpow : (10 : ℚ) ^ (-330 : ℤ) = (10 ^ 330)⁻¹ := by rw [zpow_neg]; rfl
  have hsmall : q * 10 ^ 330 ≤ 1 := by
    rw [not_lt, hzpow] at hq
    calc q * 10 ^ 330 ≤ (10 ^ 330)⁻¹ * 10 ^ 330 := by gcongr
      _ = 1 := inv_mul_cancel₀ hten.ne'
  have hpos : 0 < q := by
    by_contra hneg
    have : 2 * q * unitsPerOne ≤ 0 :=
      mul_nonpos_of_nonpos_of_nonneg (by linarith) unitsPerOne_cast_pos.le
    linarith
  have hlt : q * (2 * unitsPerOne) < q * 10 ^ 330 := by gcongr
  linarith

theorem Interval.Contains.below_ceiling {code : Nat} (hfin : code < infinityCode) {q : ℚ}
    (h : (Interval.ofCode code).Contains q) : q < 10 ^ (310 : ℤ) := by
  have hhigh : ((Interval.ofCode code).high : ℚ) ≤ 2 * 2 ^ 1024 * unitsPerOne := by
    have h1 := unitsOfCode_strictMono.monotone hfin.le
    have h2 := unitsOfCode_strictMono.monotone (Nat.succ_le_of_lt hfin)
    have hunits : 2 * 2 ^ 1024 * unitsPerOne = 2 * unitsOfCode infinityCode := by
      rw [infinityCode_units, unitsPerOne_eq, Nat.mul_assoc, ← Nat.pow_add]
    have hle : (Interval.ofCode code).high ≤ 2 * 2 ^ 1024 * unitsPerOne := by
      rw [hunits, Nat.two_mul]
      exact Nat.add_le_add h1 h2
    exact_mod_cast hle
  have hle := (contains_bounds h).2.trans hhigh
  have hq : q ≤ 2 ^ 1024 := by
    have h2 : (2 * q) ≤ 2 * 2 ^ 1024 := le_of_mul_le_mul_right hle unitsPerOne_cast_pos
    linarith
  have hbase : (2 : ℚ) ^ 205 < 10 ^ 62 := by norm_num
  calc q ≤ 2 ^ 1024 := hq
    _ ≤ 2 ^ (205 * 5) := pow_le_pow_right₀ (by norm_num) (by norm_num)
    _ = (2 ^ 205) ^ 5 := pow_mul _ _ _
    _ < (10 ^ 62) ^ 5 := pow_lt_pow_left₀ hbase (by positivity) (by norm_num)
    _ = 10 ^ (62 * 5) := (pow_mul _ _ _).symm
    _ = 10 ^ (310 : ℤ) := (zpow_natCast _ _).symm

end Decimal

theorem digitsValue_dropWhile (ds : List Nat) :
    digitsValue (ds.dropWhile (· == 0)) = digitsValue ds := by
  induction ds with
  | nil => rfl
  | cons d ds ih =>
    rw [List.dropWhile_cons]
    split_ifs with h
    · rw [ih, digitsValue_cons, beq_iff_eq.1 h, Nat.zero_mul, Nat.zero_add]
    · rfl

/-- Digits that are not all zero stand for at least the power of ten of the first that is not. -/
theorem pow_le_digitsValue {ds : List Nat} (h : digitsValue ds ≠ 0) :
    10 ^ ((ds.dropWhile (· == 0)).length - 1) ≤ digitsValue ds := by
  rw [← digitsValue_dropWhile] at h ⊢
  rcases hds : ds.dropWhile (· == 0) with _ | ⟨d, rest⟩
  · rw [hds] at h
    exact absurd rfl h
  · have hd : d ≠ 0 := by
      have := List.head_dropWhile_not (· == 0) (w := by rw [hds]; simp)
      simpa [hds] using this
    rw [digitsValue_cons, List.length_cons, Nat.add_sub_cancel]
    exact Nat.le_add_right_of_le (Nat.le_mul_of_pos_left _ (Nat.pos_of_ne_zero hd))

/-- Digits whose real number rounds to a double are read as that double. -/
theorem ofDigits_of_contains {ds : List Nat} (hds : ∀ d ∈ ds, d < 10) {e : ℤ} {code : Nat}
    (hcode : 0 < code) (hfin : code < infinityCode)
    (h : (Interval.ofCode code).Contains (digitsValue ds * 10 ^ e)) (negative : Bool) :
    Binary64.ofDigits negative ds e = .ofCode negative code := by
  have hfloor := h.above_floor hcode
  have hceil := h.below_ceiling hfin
  have hten := ten_zpow_pos e
  have hne : digitsValue ds ≠ 0 := by
    intro h0
    rw [h0, Nat.cast_zero, zero_mul] at hfloor
    exact absurd hfloor (not_lt.2 (ten_zpow_pos _).le)
  have hreach : ¬ e + ds.length < -330 := by
    intro hlt
    have hval : (digitsValue ds : ℚ) ≤ 10 ^ ds.length := by exact_mod_cast (digitsValue_lt hds).le
    have : (digitsValue ds : ℚ) * 10 ^ e ≤ 10 ^ (-330 : ℤ) := by
      calc (digitsValue ds : ℚ) * 10 ^ e ≤ 10 ^ ds.length * 10 ^ e := by gcongr
        _ = 10 ^ (e + ds.length) := by rw [zpow_add₀ (by norm_num), zpow_natCast, mul_comm]
        _ ≤ 10 ^ (-330 : ℤ) := zpow_le_zpow_right₀ (by norm_num) hlt.le
    linarith
  have hlead : ¬ (ds.dropWhile (· == 0)).length + e > 310 := by
    intro hgt
    have hval : (10 : ℚ) ^ ((ds.dropWhile (· == 0)).length - 1) ≤ digitsValue ds := by
      exact_mod_cast pow_le_digitsValue hne
    have : (10 : ℚ) ^ (310 : ℤ) ≤ digitsValue ds * 10 ^ e := by
      calc (10 : ℚ) ^ (310 : ℤ)
          ≤ 10 ^ (((ds.dropWhile (· == 0)).length - 1 : Nat) + e) :=
            zpow_le_zpow_right₀ (by norm_num) (by omega)
        _ = 10 ^ ((ds.dropWhile (· == 0)).length - 1) * 10 ^ e := by
            rw [zpow_add₀ (by norm_num), zpow_natCast]
        _ ≤ digitsValue ds * 10 ^ e := by gcongr
    linarith
  have hguard : ¬ ((digitsValue ds == 0) || decide (e + ds.length < -330)) = true := by
    simp [hne, hreach]
  simp only [Binary64.ofDigits, if_neg hguard, if_neg hlead, Nat.pow_eq]
  split_ifs with he
  · have hq : (digitsValue ds : ℚ) * 10 ^ e
        = (digitsValue ds * 10 ^ e.toNat : Nat) / (1 : Nat) := by
      rw [ten_zpow_of_nonneg he]
      push_cast
      ring
    rw [hq] at h
    rw [Binary64.ofRatio, nearestCode_eq_of_contains Nat.one_pos h]
  · have hq : (digitsValue ds : ℚ) * 10 ^ e = digitsValue ds / (10 ^ (-e).toNat : Nat) := by
      rw [ten_zpow_of_neg he]
      push_cast
      ring
    rw [hq] at h
    rw [Binary64.ofRatio, nearestCode_eq_of_contains (Nat.pow_pos (by decide)) h]

end BoardQuery
