import BoardQuery.Proofs.Number.Rounding
import BoardQuery.Proofs.Text.Digits
import Mathlib.Algebra.Order.Field.Power

/-!
# The shortest digits

Of the grids of decimals that `Decimal.shortest` tries, the one of seventeen digits always meets
the interval of the code, since a double is less than `2⁵³` steps from zero. So the search never
comes back empty, and what it finds rounds to the double it was made from
(`Decimal.shortest_contains`).
-/

namespace BoardQuery

namespace Decimal

open Binary64

theorem unitsPerOne_eq : unitsPerOne = 2 ^ 1074 := (Nat.pow_mul 2 179 6).symm

theorem unitsPerOne_pos : 0 < unitsPerOne := unitsPerOne_eq ▸ Nat.two_pow_pos _

seal unitsPerOne

theorem unitsPerOne_cast_pos : (0 : ℚ) < unitsPerOne := by exact_mod_cast unitsPerOne_pos

theorem ten_zpow_pos (e : ℤ) : (0 : ℚ) < 10 ^ e := zpow_pos (by norm_num) e

theorem ten_zpow_of_nonneg {e : ℤ} (h : 0 ≤ e) : (10 : ℚ) ^ e = 10 ^ e.toNat := by
  rw [← zpow_natCast, Int.toNat_of_nonneg h]

theorem ten_zpow_of_neg {e : ℤ} (h : ¬ 0 ≤ e) : (10 : ℚ) ^ e = 1 / 10 ^ (-e).toNat := by
  rw [one_div, ← zpow_natCast, Int.toNat_of_nonneg (by omega), zpow_neg, inv_inv]

/-- The real number of some units. -/
def valueOfUnits (units : Nat) : ℚ := units / unitsPerOne

theorem Interval.holds_iff (i : Interval) (m : Nat) (e : ℤ) :
    i.holds m e = true ↔ i.Contains (m * 10 ^ e) := by
  by_cases he : 0 ≤ e
  · have hq : (m : ℚ) * 10 ^ e = (m * 10 ^ e.toNat : Nat) / (1 : Nat) := by
      rw [ten_zpow_of_nonneg he]
      push_cast
      ring
    rw [hq, Interval.contains_div _ _ Nat.one_pos, Interval.holds]
    simp only [if_pos he, Nat.pow_eq, ← Nat.mul_assoc]
    split_ifs <;> simp
  · have hq : (m : ℚ) * 10 ^ e = m / (10 ^ (-e).toNat : Nat) := by
      rw [ten_zpow_of_neg he]
      push_cast
      ring
    rw [hq, Interval.contains_div _ _ (Nat.pow_pos (by decide)), Interval.holds]
    simp only [if_neg he, Nat.pow_eq]
    split_ifs <;> simp

theorem overPower_pos (units : Nat) (e : ℤ) : 0 < (overPower units e).2 := by
  unfold overPower
  split_ifs
  · exact Nat.mul_pos unitsPerOne_pos (Nat.pow_pos (by decide))
  · exact unitsPerOne_pos

theorem overPower_value (units : Nat) (e : ℤ) :
    ((overPower units e).1 : ℚ) / (overPower units e).2 = valueOfUnits units / 10 ^ e := by
  have hu := unitsPerOne_cast_pos
  by_cases he : 0 ≤ e
  · rw [overPower, if_pos he, valueOfUnits, ten_zpow_of_nonneg he]
    push_cast [Nat.pow_eq]
    field_simp
  · rw [overPower, if_neg he, valueOfUnits, ten_zpow_of_neg he]
    push_cast [Nat.pow_eq]
    field_simp

/-! ## The leading digit -/

theorem ten_zpow_le_two_zpow_of_nonneg {g k : ℤ} (hk : 0 ≤ k) (h : 196 * g ≤ 59 * k) :
    (10 : ℚ) ^ g ≤ 2 ^ k := by
  rcases lt_or_ge g 0 with hg | hg
  · calc (10 : ℚ) ^ g ≤ 1 := zpow_le_one_of_nonpos₀ (by norm_num) hg.le
      _ ≤ 2 ^ k := one_le_zpow₀ (by norm_num) hk
  · refine le_of_pow_le_pow_left₀ (n := 196) (by norm_num) (zpow_nonneg (by norm_num) k) ?_
    have hbase : (10 : ℚ) ^ (59 : ℤ) ≤ 2 ^ (196 : ℤ) := by norm_num
    calc ((10 : ℚ) ^ g) ^ 196 = 10 ^ (196 * g) := by
          rw [← zpow_natCast, ← zpow_mul, mul_comm]
          rfl
      _ ≤ 10 ^ (59 * k) := zpow_le_zpow_right₀ (by norm_num) h
      _ = (10 ^ (59 : ℤ)) ^ k := zpow_mul _ _ _
      _ ≤ (2 ^ (196 : ℤ)) ^ k := zpow_le_zpow_left₀ hk (by positivity) hbase
      _ = (2 ^ k) ^ 196 := by
          rw [← zpow_natCast, ← zpow_mul, ← zpow_mul, mul_comm]
          rfl

theorem ten_zpow_le_two_zpow_of_nonpos {g k : ℤ} (hk : k ≤ 0) (h : 93 * g ≤ 28 * k) :
    (10 : ℚ) ^ g ≤ 2 ^ k := by
  refine le_of_pow_le_pow_left₀ (n := 93) (by norm_num) (zpow_nonneg (by norm_num) k) ?_
  have hbase : ((10 : ℚ) ^ (28 : ℤ))⁻¹ ≤ (2 ^ (93 : ℤ))⁻¹ := by norm_num
  calc ((10 : ℚ) ^ g) ^ 93 = 10 ^ (93 * g) := by
        rw [← zpow_natCast, ← zpow_mul, mul_comm]
        rfl
    _ ≤ 10 ^ (28 * k) := zpow_le_zpow_right₀ (by norm_num) h
    _ = ((10 ^ (28 : ℤ))⁻¹) ^ (-k) := by rw [zpow_mul, inv_zpow', neg_neg]
    _ ≤ ((2 ^ (93 : ℤ))⁻¹) ^ (-k) := zpow_le_zpow_left₀ (by omega) (by positivity) hbase
    _ = (2 ^ k) ^ 93 := by
        rw [inv_zpow', neg_neg, ← zpow_natCast, ← zpow_mul, ← zpow_mul, mul_comm]
        rfl

/-- The guess of the leading exponent is at most one too high. -/
theorem ten_zpow_guess_le {k : ℤ} (hlow : -1074 ≤ k) (hhigh : k ≤ 1024) :
    (10 : ℚ) ^ (k * 30103 / 100000 - 1) ≤ 2 ^ k := by
  rcases le_total 0 k with hk | hk
  · exact ten_zpow_le_two_zpow_of_nonneg hk (by omega)
  · exact ten_zpow_le_two_zpow_of_nonpos hk (by omega)

theorem two_zpow_log2_le {units : Nat} (h : units ≠ 0) :
    (2 : ℚ) ^ ((units.log2 : ℤ) - 1074) ≤ valueOfUnits units := by
  have hle : (2 : ℚ) ^ units.log2 ≤ units := by exact_mod_cast Nat.log2_self_le h
  have hu : (unitsPerOne : ℚ) = 2 ^ (1074 : ℤ) := by
    rw [unitsPerOne_eq]
    push_cast
    exact (zpow_natCast 2 1074).symm
  rw [valueOfUnits, zpow_sub₀ (by norm_num), zpow_natCast, hu]
  gcongr

theorem ten_zpow_le_of_reaches {units : Nat} {e : ℤ}
    (h : (overPower units e).2 ≤ (overPower units e).1) : (10 : ℚ) ^ e ≤ valueOfUnits units := by
  have hpos : (0 : ℚ) < (overPower units e).2 := by exact_mod_cast overPower_pos units e
  have hle : ((overPower units e).2 : ℚ) ≤ (overPower units e).1 := by exact_mod_cast h
  have hone : (1 : ℚ) ≤ valueOfUnits units / 10 ^ e := by
    rwa [← overPower_value, le_div_iff₀ hpos, one_mul]
  rwa [le_div_iff₀ (ten_zpow_pos e), one_mul] at hone

theorem ten_zpow_leadingExponent_le {units : Nat} (h : units ≠ 0) (hlog : units.log2 ≤ 2098) :
    (10 : ℚ) ^ leadingExponent units ≤ valueOfUnits units := by
  simp only [leadingExponent, decide_eq_true_eq]
  split_ifs with h1 h2
  · exact ten_zpow_le_of_reaches h1
  · exact ten_zpow_le_of_reaches h2
  · exact (ten_zpow_guess_le (by omega) (by omega)).trans (two_zpow_log2_le h)

/-! ## Seventeen digits -/

/-- What is nearer to a double than half the step below it rounds to it. -/
theorem Interval.contains_of_near {code : Nat} (hcode : 0 < code) {q : ℚ}
    (h : 2 * |q - valueOfUnits (unitsOfCode code)| * unitsPerOne < stepOfCode (code - 1)) :
    (Interval.ofCode code).Contains q := by
  have hu := unitsPerOne_cast_pos
  have hbelow := unitsOfCode_succ (code - 1)
  rw [Nat.sub_add_cancel hcode] at hbelow
  have habove := unitsOfCode_succ code
  have hmono : (stepOfCode (code - 1) : ℚ) ≤ stepOfCode code := by
    exact_mod_cast stepOfCode_mono (Nat.sub_le code 1)
  have hlow : ((Interval.ofCode code).low : ℚ)
      = 2 * unitsOfCode code - stepOfCode (code - 1) := by
    rw [Interval.ofCode, hbelow]
    push_cast
    ring
  have hhigh : ((Interval.ofCode code).high : ℚ) = 2 * unitsOfCode code + stepOfCode code := by
    rw [Interval.ofCode, habove]
    push_cast
    ring
  have hv : valueOfUnits (unitsOfCode code) * unitsPerOne = unitsOfCode code :=
    div_mul_cancel₀ _ hu.ne'
  set v := valueOfUnits (unitsOfCode code)
  have habs := abs_lt.1 (show |2 * (q - v) * unitsPerOne| < (stepOfCode (code - 1) : ℚ) by
    rwa [abs_mul, abs_mul, abs_of_pos hu, abs_two])
  have hq : 2 * q * unitsPerOne = 2 * (q - v) * unitsPerOne + 2 * unitsOfCode code := by
    rw [← hv]
    ring
  have hlt : ((Interval.ofCode code).low : ℚ) < 2 * q * unitsPerOne
      ∧ 2 * q * unitsPerOne < (Interval.ofCode code).high := by
    rw [hlow, hhigh, hq]
    constructor <;> linarith [habs.1, habs.2]
  unfold Interval.Contains
  split_ifs
  · exact ⟨hlt.1.le, hlt.2.le⟩
  · exact hlt

/-- The neighbour of a double on a grid of at least seventeen digits rounds to it. -/
theorem Interval.contains_of_grid {code : Nat} (hcode : 0 < code) {m : Nat} {e : ℤ}
    (he : (10 : ℚ) ^ (e + 16) ≤ valueOfUnits (unitsOfCode code))
    (hm : 2 * |(m : ℚ) * 10 ^ e - valueOfUnits (unitsOfCode code)| ≤ 10 ^ e) :
    (Interval.ofCode code).Contains (m * 10 ^ e) := by
  have hu := unitsPerOne_cast_pos
  refine Interval.contains_of_near hcode ?_
  have hunits : (unitsOfCode code : ℚ) ≤ 2 ^ 53 * stepOfCode (code - 1) := by
    have h := unitsOfCode_succ_le (code - 1)
    rw [Nat.sub_add_cancel hcode] at h
    exact_mod_cast h
  have hv : valueOfUnits (unitsOfCode code) * unitsPerOne = unitsOfCode code :=
    div_mul_cancel₀ _ hu.ne'
  have hstep : (0 : ℚ) < stepOfCode (code - 1) := by exact_mod_cast stepOfCode_pos _
  have hgrid : (10 : ℚ) ^ e * 10 ^ 16 ≤ valueOfUnits (unitsOfCode code) := by
    rwa [zpow_add₀ (by norm_num)] at he
  have hscaled : (10 : ℚ) ^ e * 10 ^ 16 * unitsPerOne ≤ unitsOfCode code := by
    rw [← hv]
    gcongr
  calc 2 * |(m : ℚ) * 10 ^ e - valueOfUnits (unitsOfCode code)| * unitsPerOne
      ≤ 10 ^ e * unitsPerOne := by gcongr
    _ < stepOfCode (code - 1) := by linarith

theorem roundHalfEven_eq (num den : Nat) :
    roundHalfEven num den = num / den ∨ roundHalfEven num den = num / den + 1 := by
  simp only [roundHalfEven]
  split_ifs
  · exact .inr rfl
  · exact .inl rfl

theorem onGrid?_contains {code m : Nat} {e : ℤ} (h : onGrid? code e = some m) :
    0 < m ∧ (Interval.ofCode code).Contains (m * 10 ^ e) := by
  unfold onGrid? at h
  simp only [] at h
  split at h
  case h_1 hbelow habove =>
    simp only [Bool.and_eq_true, decide_eq_true_eq, Interval.holds_iff] at hbelow habove
    obtain rfl := Option.some.inj h
    rcases roundHalfEven_eq (overPower (unitsOfCode code) e).1 (overPower (unitsOfCode code) e).2
      with heq | heq
    · rw [heq]
      exact ⟨hbelow.2, hbelow.1⟩
    · rw [heq]
      exact ⟨Nat.succ_pos _, habove⟩
  case h_2 hbelow _ =>
    simp only [Bool.and_eq_true, decide_eq_true_eq, Interval.holds_iff] at hbelow
    obtain rfl := Option.some.inj h
    exact ⟨hbelow.2, hbelow.1⟩
  case h_3 _ habove =>
    rw [Interval.holds_iff] at habove
    obtain rfl := Option.some.inj h
    exact ⟨Nat.succ_pos _, habove⟩
  case h_4 => exact absurd h (by simp)

/-- A grid that is fine enough for seventeen digits has a decimal that rounds to the double. -/
theorem onGrid?_isSome {code : Nat} (hcode : 0 < code) {e : ℤ}
    (he : (10 : ℚ) ^ (e + 16) ≤ valueOfUnits (unitsOfCode code)) : (onGrid? code e).isSome := by
  set f := overPower (unitsOfCode code) e with hf
  set v := valueOfUnits (unitsOfCode code)
  have hten := ten_zpow_pos e
  have hden : (0 : ℚ) < f.2 := by exact_mod_cast overPower_pos _ e
  have hquot : v = f.1 / f.2 * 10 ^ e := by
    rw [overPower_value, div_mul_cancel₀ _ hten.ne']
  have hfloor : ((f.1 / f.2 : Nat) : ℚ) ≤ f.1 / f.2 := Nat.cast_div_le
  have hceil : (f.1 : ℚ) / f.2 < (f.1 / f.2 : Nat) + 1 := by
    rw [div_lt_iff₀' hden]
    exact_mod_cast Nat.lt_mul_div_succ f.1 (overPower_pos _ e)
  -- A number of the grid within half its width of the double lies in the interval.
  have hnear {m : Nat} (hm : 2 * |(m : ℚ) - f.1 / f.2| ≤ 1) :
      (Interval.ofCode code).holds m e = true := by
    refine (Interval.holds_iff _ _ _).2 (Interval.contains_of_grid hcode he ?_)
    change 2 * |(m : ℚ) * 10 ^ e - v| ≤ 10 ^ e
    rw [hquot, ← sub_mul, abs_mul, abs_of_pos hten, ← mul_assoc]
    exact mul_le_of_le_one_left hten.le hm
  simp only [onGrid?]
  rcases le_total (2 * ((f.1 : ℚ) / f.2)) (2 * (f.1 / f.2 : Nat) + 1) with h | h
  · have hholds : (Interval.ofCode code).holds (f.1 / f.2) e = true := by
      refine hnear ?_
      rw [abs_of_nonpos (by linarith)]
      linarith
    have hpos : 0 < f.1 / f.2 := by
      have hone : (10 : ℚ) ^ 16 ≤ f.1 / f.2 := by
        rw [zpow_add₀ (by norm_num), hquot, mul_comm] at he
        exact le_of_mul_le_mul_right he hten
      have : (0 : ℚ) < (f.1 / f.2 : Nat) := by linarith
      exact_mod_cast this
    simp only [← hf, hholds, hpos, decide_true, Bool.and_self]
    split <;> simp_all
  · have hholds : (Interval.ofCode code).holds (f.1 / f.2 + 1) e = true := by
      refine hnear ?_
      push_cast
      rw [abs_of_nonneg (by linarith)]
      linarith
    simp only [← hf, hholds]
    split <;> simp_all

/-! ## Digits and exponent -/

/-- The real number that digits and exponent stand for. -/
def value (d : Decimal) : ℚ :=
  Nat.ofDigitChars 10 d.digits 0 * 10 ^ (d.exponent + 1 - d.digits.length)

/-- Digits as they are written: at least one, and the first of them not zero. -/
structure Proper (d : Decimal) : Prop where
  isDigit : ∀ c ∈ d.digits, c.isDigit = true
  head : ∃ c cs, d.digits = c :: cs ∧ c ≠ '0'

theorem exists_trailing_zeros (cs : List Char) :
    ∃ k, cs = (cs.reverse.dropWhile (· == '0')).reverse ++ List.replicate k '0' := by
  refine ⟨(cs.reverse.takeWhile (· == '0')).length, ?_⟩
  have hzeros : cs.reverse.takeWhile (· == '0')
      = List.replicate (cs.reverse.takeWhile (· == '0')).length '0' := by
    refine List.eq_replicate_of_mem fun c hc => ?_
    simpa using List.all_eq_true.1 List.all_takeWhile c hc
  conv_lhs => rw [← List.reverse_reverse cs, ← List.takeWhile_append_dropWhile (p := (· == '0'))
    (l := cs.reverse), List.reverse_append, hzeros, List.reverse_replicate]

theorem isDigit_of_mem_toDigits {m : Nat} {c : Char} (h : c ∈ Nat.toDigits 10 m) :
    c.isDigit = true :=
  Nat.isDigit_of_mem_toDigits (by decide) (by decide) h

theorem toDigits_head {m : Nat} (hm : 0 < m) : ∃ c cs, Nat.toDigits 10 m = c :: cs ∧ c ≠ '0' := by
  rcases hds : Nat.toDigits 10 m with _ | ⟨c, cs⟩
  · exact absurd hds Nat.toDigits_ne_nil
  refine ⟨c, cs, rfl, ?_⟩
  rintro rfl
  have hval := Nat.ofDigitChars_ten_toDigits (n := m)
  rw [hds, Nat.ofDigitChars_cons] at hval
  have hcs : ∀ c ∈ cs, c.isDigit = true := fun c hc =>
    isDigit_of_mem_toDigits (m := m) (hds ▸ List.mem_cons_of_mem _ hc)
  have hlt : m < 10 ^ cs.length := by
    rw [← hval]
    exact Text.ofDigitChars_lt hcs
  rcases Nat.eq_zero_or_pos cs.length with h0 | h0
  · rw [h0] at hlt
    omega
  · have hle := (Nat.length_toDigits_le_iff (by decide) h0).2 hlt
    rw [hds, List.length_cons] at hle
    omega

theorem ofScaled_value (m : Nat) (e : ℤ) : (ofScaled m e).value = m * 10 ^ e := by
  obtain ⟨k, hk⟩ := exists_trailing_zeros (Nat.toDigits 10 m)
  have hval := Nat.ofDigitChars_ten_toDigits (n := m)
  have hlen := congrArg List.length hk
  rw [List.length_append, List.length_replicate] at hlen
  rw [hk, Nat.ofDigitChars_append, Nat.ofDigitChars_replicate_zero] at hval
  simp only [value, ofScaled]
  set s := ((Nat.toDigits 10 m).reverse.dropWhile (· == '0')).reverse
  have hexp : e + (Nat.toDigits 10 m).length - 1 + 1 - s.length = e + (k : ℤ) := by omega
  rw [hexp, zpow_add₀ (by norm_num), zpow_natCast, ← hval]
  push_cast
  ring

theorem ofScaled_proper {m : Nat} (hm : 0 < m) (e : ℤ) : (ofScaled m e).Proper := by
  obtain ⟨k, hk⟩ := exists_trailing_zeros (Nat.toDigits 10 m)
  obtain ⟨c, cs, hcs, hc⟩ := toDigits_head hm
  refine ⟨fun d hd => isDigit_of_mem_toDigits (m := m) ?_, ?_⟩
  · rw [hk]
    exact List.mem_append_left _ hd
  · change ∃ c cs, ((Nat.toDigits 10 m).reverse.dropWhile (· == '0')).reverse = c :: cs ∧ c ≠ '0'
    rcases hs : ((Nat.toDigits 10 m).reverse.dropWhile (· == '0')).reverse with _ | ⟨d, ds⟩
    · rw [hs, List.nil_append, hcs] at hk
      have hmem : c ∈ List.replicate k '0' := hk ▸ List.mem_cons_self
      exact absurd (List.eq_of_mem_replicate hmem) hc
    · rw [hs, hcs, List.cons_append] at hk
      exact ⟨d, ds, rfl, (List.cons.inj hk).1 ▸ hc⟩

theorem infinityCode_units : unitsOfCode infinityCode = 2 ^ 2098 := by
  have h : infinityCode = (2046 + 1) * codesPerExponent + 0 := rfl
  rw [h, unitsOfCode_block codesPerExponent_pos, codesPerExponent_eq, Nat.add_zero, ← Nat.pow_add]

/-- The shortest digits of a positive finite double round to it. -/
theorem shortest_contains {code : Nat} (hcode : 0 < code) (hfin : code < infinityCode) :
    (shortest code).Proper ∧ (Interval.ofCode code).Contains (shortest code).value := by
  have hunits : unitsOfCode code ≠ 0 := (unitsOfCode_strictMono hcode).ne_bot
  have hlog : (unitsOfCode code).log2 ≤ 2098 := by
    refine Nat.le_of_lt ((Nat.log2_lt hunits).2 ?_)
    rw [← infinityCode_units]
    exact unitsOfCode_strictMono hfin
  set lead := leadingExponent (unitsOfCode code) with hlead
  have hgrid : (onGrid? code (lead - 16)).isSome := by
    refine onGrid?_isSome hcode ?_
    rw [sub_add_cancel]
    exact ten_zpow_leadingExponent_le hunits hlog
  simp only [shortest, ← hlead]
  split
  case h_1 d hd =>
    obtain ⟨e, -, he⟩ := List.exists_of_findSome?_eq_some hd
    obtain ⟨m, hm, rfl⟩ := Option.map_eq_some_iff.1 he
    obtain ⟨hpos, hcontains⟩ := onGrid?_contains hm
    rw [ofScaled_value]
    exact ⟨ofScaled_proper hpos e, hcontains⟩
  case h_2 hnone =>
    rw [List.findSome?_eq_none_iff] at hnone
    have hlast := hnone (lead - 16) (List.mem_map.2 ⟨16, by simp, rfl⟩)
    simp [Option.isSome_iff_ne_none.1 hgrid] at hlast

end Decimal

end BoardQuery
