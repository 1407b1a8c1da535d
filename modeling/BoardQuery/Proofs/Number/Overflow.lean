import BoardQuery.Proofs.Number.Shortest

/-!
# Integers past the doubles

Which integers no finite double is next to (`ofInt?_eq_none_iff`): those at least as far from zero
as the middle between the largest double and the magnitude at which infinity stands. A number in
the middle goes to infinity, since the code of the largest double is odd.
-/

namespace BoardQuery.Binary64

open Decimal

seal unitsPerOne

/-- The least integer that is rounded to infinity. -/
def overflowLimit : Nat := 2 ^ 1024 - 2 ^ 970

/-- The largest double lies one step below infinity. -/
theorem largest_units : unitsOfCode (infinityCode - 1) + 2 ^ 2045 = unitsOfCode infinityCode := by
  have hblock : infinityCode - 1 = (2045 + 1) * codesPerExponent + (codesPerExponent - 1) := rfl
  have hstep : stepOfCode (infinityCode - 1) = 2 ^ 2045 := by
    rw [hblock]
    exact stepOfCode_block (Nat.sub_lt codesPerExponent_pos Nat.one_pos)
  rw [← hstep, ← unitsOfCode_succ]
  exact congrArg unitsOfCode (Nat.sub_add_cancel (by decide))

theorem two_pow_mul {a b c : Nat} (h : a + b = c) : 2 ^ a * 2 ^ b = 2 ^ c :=
  h ▸ (Nat.pow_add 2 a b).symm

/-- Halfway between the largest double and infinity, in half units. -/
theorem largest_middle : unitsOfCode (infinityCode - 1) + unitsOfCode infinityCode
    = 2 * overflowLimit * unitsPerOne := by
  have hlargest := largest_units
  have hhalf : (2 : Nat) ^ 970 * 2 ^ 1074 = 2 ^ 2044 := two_pow_mul rfl
  have hstep : (2 : Nat) ^ 2044 * 2 ^ 1 = 2 ^ 2045 := two_pow_mul rfl
  have htop : (2 : Nat) ^ 1024 * 2 ^ 1074 = 2 ^ 2098 := two_pow_mul rfl
  rw [infinityCode_units] at hlargest ⊢
  rw [overflowLimit, unitsPerOne_eq, Nat.mul_assoc, Nat.sub_mul, hhalf, htop]
  rw [← hstep] at hlargest
  generalize (2 : Nat) ^ 2044 = half at *
  generalize (2 : Nat) ^ 2098 = top at *
  omega

theorem infinityCode_le_nearestCode {n : Nat} :
    infinityCode ≤ nearestCode n 1 ↔ overflowLimit ≤ n := by
  have hcontains := contains_nearestCode n Nat.one_pos
  rw [Interval.contains_div _ _ Nat.one_pos] at hcontains
  simp only [Nat.mul_one, Interval.ofCode] at hcontains
  have hmiddle := largest_middle
  have hpos := unitsPerOne_pos
  generalize nearestCode n 1 = code at *
  generalize overflowLimit = limit at *
  constructor
  · intro hcode
    have hlow : 2 * limit * unitsPerOne ≤ 2 * n * unitsPerOne := by
      rw [← hmiddle]
      refine le_trans (Nat.add_le_add
        (unitsOfCode_strictMono.monotone (Nat.sub_le_sub_right hcode 1))
        (unitsOfCode_strictMono.monotone hcode)) ?_
      split_ifs at hcontains
      · exact hcontains.1
      · exact hcontains.1.le
    have := Nat.le_of_mul_le_mul_right hlow hpos
    omega
  · intro hn
    by_contra hcode
    have hhigh : 2 * n * unitsPerOne < 2 * limit * unitsPerOne := by
      rw [← hmiddle]
      rcases Nat.lt_or_ge (code + 1) infinityCode with hlt | hge
      · have hcode' : unitsOfCode code < unitsOfCode (infinityCode - 1) :=
          unitsOfCode_strictMono (by omega)
        have hnext : unitsOfCode (code + 1) < unitsOfCode infinityCode := unitsOfCode_strictMono hlt
        split_ifs at hcontains <;> omega
      · -- The code of the largest double is odd, so its interval is open.
        have hlast : code = infinityCode - 1 := by omega
        subst hlast
        rw [if_neg (by decide), Nat.sub_add_cancel (by decide)] at hcontains
        exact hcontains.2
    have := Nat.lt_of_mul_lt_mul_right hhigh
    omega

/-- The integers past the largest double are those that are not rounded down to it. -/
theorem ofInt?_eq_none_iff {n : Int} : ofInt? n = none ↔ overflowLimit ≤ n.natAbs := by
  rw [← infinityCode_le_nearestCode]
  simp only [ofInt?, ofRatio, ofCode, isFinite, ite_eq_right_iff, reduceCtorEq, imp_false,
    bne_iff_ne, ne_eq, not_not]
  omega

end BoardQuery.Binary64
