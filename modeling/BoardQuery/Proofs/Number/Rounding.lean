import BoardQuery.Number.Decimal
import Mathlib.Algebra.Order.Field.Rat
import Mathlib.Data.Nat.Cast.Order.Field
import Mathlib.Tactic.FieldSimp
import Mathlib.Tactic.Linarith
import Mathlib.Tactic.NormNum
import Mathlib.Tactic.Positivity
import Mathlib.Tactic.Ring

/-!
# Rounding to doubles

The magnitudes grow with their codes, by steps that double with every exponent
(`unitsOfCode_succ`), so each real lies in the interval of one code only, and that is the code
which a quotient is rounded to (`nearestCode_eq_of_contains`).
-/

namespace BoardQuery

namespace Binary64

/-- How far the magnitude with this code is from the next one, in units. -/
def stepOfCode (code : Nat) : Nat := 2 ^ (code / codesPerExponent - 1)

theorem codesPerExponent_eq : codesPerExponent = 2 ^ 52 := rfl

theorem codesPerExponent_pos : 0 < codesPerExponent := by
  rw [codesPerExponent_eq]
  exact Nat.two_pow_pos 52

theorem stepOfCode_pos (code : Nat) : 0 < stepOfCode code := Nat.two_pow_pos _

theorem unitsOfCode_of_lt {code : Nat} (h : code < codesPerExponent) : unitsOfCode code = code := by
  simp [unitsOfCode, h]

theorem unitsOfCode_block {k r : Nat} (hr : r < codesPerExponent) :
    unitsOfCode ((k + 1) * codesPerExponent + r) = (codesPerExponent + r) * 2 ^ k := by
  have hpos := codesPerExponent_pos
  have hdiv : ((k + 1) * codesPerExponent + r) / codesPerExponent = k + 1 := by
    rw [Nat.add_comm, Nat.add_mul_div_right _ _ hpos, Nat.div_eq_of_lt hr, Nat.zero_add]
  have hmod : ((k + 1) * codesPerExponent + r) % codesPerExponent = r := by
    rw [Nat.add_comm, Nat.add_mul_mod_self_right, Nat.mod_eq_of_lt hr]
  have hge : ¬ (k + 1) * codesPerExponent + r < codesPerExponent := by
    rw [Nat.add_mul]
    omega
  rw [unitsOfCode, if_neg hge, hdiv, hmod]
  rfl

/-- A code past the subnormal ones is an exponent and a place in it. -/
theorem exists_block {code : Nat} (h : codesPerExponent ≤ code) :
    ∃ k r, r < codesPerExponent ∧ code = (k + 1) * codesPerExponent + r := by
  have hpos := codesPerExponent_pos
  refine ⟨code / codesPerExponent - 1, code % codesPerExponent, Nat.mod_lt _ hpos, ?_⟩
  have hdiv : 1 ≤ code / codesPerExponent := (Nat.one_le_div_iff hpos).2 h
  rw [Nat.sub_add_cancel hdiv, Nat.mul_comm]
  exact (Nat.div_add_mod code codesPerExponent).symm

theorem stepOfCode_block {k r : Nat} (hr : r < codesPerExponent) :
    stepOfCode ((k + 1) * codesPerExponent + r) = 2 ^ k := by
  rw [stepOfCode, Nat.add_comm, Nat.add_mul_div_right _ _ codesPerExponent_pos,
    Nat.div_eq_of_lt hr]
  simp

theorem stepOfCode_of_lt {code : Nat} (h : code < codesPerExponent) : stepOfCode code = 1 := by
  simp [stepOfCode, Nat.div_eq_of_lt h]

theorem unitsOfCode_succ (code : Nat) :
    unitsOfCode (code + 1) = unitsOfCode code + stepOfCode code := by
  rcases Nat.lt_or_ge code codesPerExponent with h | h
  · rw [unitsOfCode_of_lt h, stepOfCode_of_lt h]
    rcases Nat.lt_or_ge (code + 1) codesPerExponent with h' | h'
    · exact unitsOfCode_of_lt h'
    · have heq : code + 1 = (0 + 1) * codesPerExponent + 0 := by omega
      rw [heq, unitsOfCode_block codesPerExponent_pos]
      omega
  · obtain ⟨k, r, hr, rfl⟩ := exists_block h
    rw [unitsOfCode_block hr, stepOfCode_block hr]
    rcases Nat.lt_or_ge (r + 1) codesPerExponent with h' | h'
    · rw [Nat.add_assoc, unitsOfCode_block h']
      ring
    · have heq : (k + 1) * codesPerExponent + r + 1 = (k + 1 + 1) * codesPerExponent + 0 := by
        have hr' : r + 1 = codesPerExponent := by omega
        rw [Nat.add_mul (k + 1), Nat.add_assoc, hr']
        ring
      have hr' : codesPerExponent = r + 1 := by omega
      rw [heq, unitsOfCode_block codesPerExponent_pos, hr', pow_succ]
      ring

theorem unitsOfCode_strictMono : StrictMono unitsOfCode :=
  strictMono_nat_of_lt_succ fun code => by
    rw [unitsOfCode_succ]
    exact Nat.lt_add_of_pos_right (stepOfCode_pos code)

/-- A magnitude is less than `2⁵³` steps away from zero. -/
theorem unitsOfCode_succ_le (code : Nat) : unitsOfCode (code + 1) ≤ 2 ^ 53 * stepOfCode code := by
  rw [unitsOfCode_succ]
  have h52 : (2 : Nat) ^ 53 = codesPerExponent + codesPerExponent := rfl
  rcases Nat.lt_or_ge code codesPerExponent with h | h
  · rw [unitsOfCode_of_lt h, stepOfCode_of_lt h, h52]
    omega
  · obtain ⟨k, r, hr, rfl⟩ := exists_block h
    rw [unitsOfCode_block hr, stepOfCode_block hr, h52]
    calc (codesPerExponent + r) * 2 ^ k + 2 ^ k = (codesPerExponent + (r + 1)) * 2 ^ k := by ring
      _ ≤ (codesPerExponent + codesPerExponent) * 2 ^ k := by gcongr; omega

theorem stepOfCode_mono {a b : Nat} (h : a ≤ b) : stepOfCode a ≤ stepOfCode b :=
  Nat.pow_le_pow_right (by decide) (Nat.sub_le_sub_right (Nat.div_le_div_right h) 1)

/-- The magnitude of the code that a whole number with `s` bits dropped starts from. -/
theorem unitsOfCode_scaled {s kept : Nat} (hlt : kept < 2 * codesPerExponent)
    (hge : s = 0 ∨ codesPerExponent ≤ kept) :
    unitsOfCode (kept + s * codesPerExponent) = kept * 2 ^ s
      ∧ stepOfCode (kept + s * codesPerExponent) = 2 ^ s := by
  rcases Nat.lt_or_ge kept codesPerExponent with h | h
  · have hs : s = 0 := by omega
    subst hs
    rw [Nat.zero_mul, Nat.add_zero, unitsOfCode_of_lt h, stepOfCode_of_lt h]
    simp
  · have hcode : kept + s * codesPerExponent
        = (s + 1) * codesPerExponent + (kept - codesPerExponent) := by
      rw [Nat.add_mul]
      omega
    have hr : kept - codesPerExponent < codesPerExponent := by omega
    rw [hcode, unitsOfCode_block hr, stepOfCode_block hr, Nat.add_sub_cancel' h]
    exact ⟨rfl, rfl⟩

end Binary64

namespace Decimal

open Binary64

seal unitsPerOne

/-- Whether a real lies in an interval of half units. -/
def Interval.Contains (i : Interval) (q : ℚ) : Prop :=
  if i.closed then (i.low : ℚ) ≤ 2 * q * unitsPerOne ∧ 2 * q * unitsPerOne ≤ i.high
  else (i.low : ℚ) < 2 * q * unitsPerOne ∧ 2 * q * unitsPerOne < i.high

theorem Interval.contains_div (i : Interval) (num : Nat) {den : Nat} (hden : 0 < den) :
    i.Contains (num / den) ↔
      if i.closed then i.low * den ≤ 2 * num * unitsPerOne ∧ 2 * num * unitsPerOne ≤ i.high * den
      else i.low * den < 2 * num * unitsPerOne ∧ 2 * num * unitsPerOne < i.high * den := by
  have hpos : (0 : ℚ) < den := by exact_mod_cast hden
  have hx : (2 : ℚ) * (num / den) * unitsPerOne = (2 * num * unitsPerOne) / den := by ring
  rw [Interval.Contains, hx]
  simp only [le_div_iff₀ hpos, div_le_iff₀ hpos, lt_div_iff₀ hpos, div_lt_iff₀ hpos]
  norm_cast

theorem Interval.contains_bounds {i : Interval} {q : ℚ} (h : i.Contains q) :
    (i.low : ℚ) ≤ 2 * q * unitsPerOne ∧ 2 * q * unitsPerOne ≤ i.high := by
  unfold Interval.Contains at h
  split_ifs at h
  · exact h
  · exact ⟨h.1.le, h.2.le⟩

/-- The intervals of two codes meet at most in an end, which only the even code has. -/
theorem Interval.not_contains_of_lt {a b : Nat} {q : ℚ} (hab : a < b)
    (ha : (Interval.ofCode a).Contains q) : ¬ (Interval.ofCode b).Contains q := by
  intro hb
  have hends : (Interval.ofCode a).high ≤ (Interval.ofCode b).low := by
    have h1 := unitsOfCode_strictMono.monotone (show a ≤ b - 1 by omega)
    have h2 := unitsOfCode_strictMono.monotone (show a + 1 ≤ b by omega)
    simp only [Interval.ofCode]
    omega
  have hcast : ((Interval.ofCode a).high : ℚ) ≤ (Interval.ofCode b).low := by exact_mod_cast hends
  have hle := (Interval.contains_bounds ha).2
  have hge := (Interval.contains_bounds hb).1
  have hboth : (Interval.ofCode a).closed = true ∧ (Interval.ofCode b).closed = true := by
    unfold Interval.Contains at ha hb
    split_ifs at ha hb with h1 h2
    · exact ⟨h1, h2⟩
    · exact absurd hb.1 (by linarith)
    · exact absurd ha.2 (by linarith)
    · exact absurd ha.2 (by linarith)
  have hnext : b = a + 1 := by
    by_contra hne
    have h1 := unitsOfCode_strictMono (show a < b - 1 by omega)
    have h2 := unitsOfCode_strictMono.monotone (show a + 1 ≤ b by omega)
    have hlt : (Interval.ofCode a).high < (Interval.ofCode b).low := by
      simp only [Interval.ofCode]
      omega
    have : ((Interval.ofCode a).high : ℚ) < (Interval.ofCode b).low := by exact_mod_cast hlt
    linarith
  simp only [Interval.ofCode, beq_iff_eq] at hboth
  omega

theorem Interval.contains_unique {a b : Nat} {q : ℚ} (ha : (Interval.ofCode a).Contains q)
    (hb : (Interval.ofCode b).Contains q) : a = b := by
  rcases Nat.lt_trichotomy a b with h | h | h
  · exact absurd hb (Interval.not_contains_of_lt h ha)
  · exact h
  · exact absurd ha (Interval.not_contains_of_lt h hb)

/-! ## The code next to a quotient -/

/-- What is left of the units of a quotient below the code that rounding starts from. -/
theorem nearestCode_eq (den : Nat) {num n : Nat} (hn : unitsPerOne * num = n) : ∃ s kept tail,
    kept < 2 * codesPerExponent ∧ (s = 0 ∨ codesPerExponent ≤ kept)
      ∧ (0 < den → n = kept * 2 ^ s * den + tail ∧ tail < 2 ^ s * den)
      ∧ nearestCode num den = kept + s * codesPerExponent
          + if 2 * tail > 2 ^ s * den || (2 * tail == 2 ^ s * den && kept % 2 == 1) then 1
            else 0 := by
  simp only [nearestCode, hn, Nat.pow_eq]
  set whole := n / den
  set s := whole.log2 - 52
  refine ⟨s, whole / 2 ^ s, whole % 2 ^ s * den + n % den, ?_, ?_, ?_, ?_⟩
  · rw [Nat.div_lt_iff_lt_mul (Nat.two_pow_pos s)]
    have h52 : 2 * codesPerExponent = 2 ^ 53 := rfl
    rw [h52, ← Nat.pow_add]
    exact Nat.lt_of_lt_of_le Nat.lt_log2_self (Nat.pow_le_pow_right (by decide) (by omega))
  · rcases Nat.eq_zero_or_pos s with hs | hs
    · exact .inl hs
    · refine .inr ((Nat.le_div_iff_mul_le (Nat.two_pow_pos s)).2 ?_)
      have hw : whole ≠ 0 := by
        intro h
        simp [s, h] at hs
      rw [codesPerExponent_eq, ← Nat.pow_add]
      exact le_trans (Nat.pow_le_pow_right (by decide) (by omega)) (Nat.log2_self_le hw)
  · intro hden
    have hwhole := Nat.div_add_mod (n) den
    have hkept := Nat.div_add_mod whole (2 ^ s)
    have hrest := Nat.mod_lt (n) hden
    have hlow := Nat.mod_lt whole (Nat.two_pow_pos s)
    constructor
    · calc n = den * whole + n % den := hwhole.symm
        _ = den * (2 ^ s * (whole / 2 ^ s) + whole % 2 ^ s) + n % den := by
          rw [hkept]
        _ = _ := by ring
    · calc whole % 2 ^ s * den + n % den
          < whole % 2 ^ s * den + den := by omega
        _ = (whole % 2 ^ s + 1) * den := by ring
        _ ≤ 2 ^ s * den := Nat.mul_le_mul_right den hlow
  · split_ifs
    · rfl
    · exact (Nat.add_zero _).symm

theorem codeStart_parity (kept s : Nat) : (kept + s * codesPerExponent) % 2 = kept % 2 := by
  have h : codesPerExponent = 2 * 2 ^ 51 := rfl
  rw [h, Nat.mul_left_comm, Nat.add_mul_mod_self_left]

/-- Past the middle of a step, the next magnitude is the nearer one. -/
theorem upper_bounds {u step next den tail : Nat} (htail : tail < step * den)
    (hnext : u + step + step ≤ next) (hup : step * den ≤ 2 * tail) :
    (u + (u + step)) * den ≤ 2 * (u * den + tail)
      ∧ 2 * (u * den + tail) < (u + step + next) * den := by
  have hmid : (u + (u + step)) * den = 2 * (u * den) + step * den := by ring
  have hhigh : (u + step + (u + step + step)) * den ≤ (u + step + next) * den := by gcongr
  have hsum : (u + step + (u + step + step)) * den = 2 * (u * den) + 3 * (step * den) := by ring
  have hpos : 0 < step * den := by omega
  omega

/-- Up to the middle of a step, the magnitude below is the nearer one. -/
theorem lower_bounds {u step before den tail : Nat} (hbefore : before ≤ u)
    (hdown : 2 * tail ≤ step * den) :
    (before + u) * den ≤ 2 * (u * den + tail)
      ∧ 2 * (u * den + tail) ≤ (u + (u + step)) * den := by
  have hmid : (u + (u + step)) * den = 2 * (u * den) + step * den := by ring
  have hlow : (before + u) * den ≤ (u + u) * den := by gcongr
  have hsum : (u + u) * den = 2 * (u * den) := by ring
  omega

/-- The code that rounding takes is the one in whose interval the quotient lies. -/
theorem contains_nearestCode (num : Nat) {den : Nat} (hden : 0 < den) :
    (Interval.ofCode (nearestCode num den)).Contains (num / den) := by
  rw [Interval.contains_div _ _ hden, Nat.mul_assoc, Nat.mul_comm num]
  generalize hn : unitsPerOne * num = n
  obtain ⟨s, kept, tail, hlt, hge, hrest, hcode⟩ := nearestCode_eq den hn
  obtain ⟨hsum, htail⟩ := hrest hden
  obtain ⟨hunits, hstep⟩ := unitsOfCode_scaled hlt hge
  have hparity := codeStart_parity kept s
  rw [hcode, hsum, ← hunits]
  rw [← hstep] at htail ⊢
  set code := kept + s * codesPerExponent
  have hnext := unitsOfCode_succ code
  simp only [Interval.ofCode, beq_iff_eq, Bool.or_eq_true, decide_eq_true_eq, Bool.and_eq_true]
  by_cases hup : 2 * tail > stepOfCode code * den
      ∨ 2 * tail = stepOfCode code * den ∧ kept % 2 = 1
  · have hafter : unitsOfCode code + stepOfCode code + stepOfCode code
        ≤ unitsOfCode (code + 1 + 1) := by
      rw [unitsOfCode_succ (code + 1), hnext]
      exact Nat.add_le_add_left (stepOfCode_mono (Nat.le_succ code)) _
    have hbounds := upper_bounds htail hafter (by omega)
    rw [if_pos hup, Nat.add_sub_cancel, hnext]
    split_ifs with hclosed
    · exact ⟨hbounds.1, hbounds.2.le⟩
    · refine ⟨lt_of_le_of_ne hbounds.1 fun heq => ?_, hbounds.2⟩
      have hmid : (unitsOfCode code + (unitsOfCode code + stepOfCode code)) * den
          = 2 * (unitsOfCode code * den) + stepOfCode code * den := by ring
      omega
  · have hbefore := unitsOfCode_strictMono.monotone (Nat.sub_le code 1)
    have hdown : 2 * tail ≤ stepOfCode code * den := by omega
    have hbounds := lower_bounds hbefore hdown
    rw [if_neg hup, Nat.add_zero, hnext]
    split_ifs with hclosed
    · exact hbounds
    · have hpos : 0 < code := by omega
      have hstrict := unitsOfCode_strictMono (Nat.sub_lt hpos Nat.one_pos)
      have hlow : (unitsOfCode (code - 1) + unitsOfCode code) * den
          < (unitsOfCode code + unitsOfCode code) * den := by gcongr
      have hsum : (unitsOfCode code + unitsOfCode code) * den = 2 * (unitsOfCode code * den) := by
        ring
      refine ⟨by omega, lt_of_le_of_ne hbounds.2 fun heq => ?_⟩
      have hmid : (unitsOfCode code + (unitsOfCode code + stepOfCode code)) * den
          = 2 * (unitsOfCode code * den) + stepOfCode code * den := by ring
      omega

theorem nearestCode_eq_of_contains {num den code : Nat} (hden : 0 < den)
    (h : (Interval.ofCode code).Contains (num / den)) : nearestCode num den = code :=
  Interval.contains_unique (contains_nearestCode num hden) h

end Decimal

end BoardQuery
