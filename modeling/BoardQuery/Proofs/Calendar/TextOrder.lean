import BoardQuery.Proofs.Calendar.DayNumbers
import Mathlib.Data.String.Basic

/-!
# The order of written moments

Since moments are written in groups of digits of fixed width, their texts stand in the order of the
moments: days in that of the calendar (`Date.text_lt_iff`), moments to the microsecond in that of
their instants (`Moment.microText_lt_iff`), and moments to the second likewise, apart from the
fractions that are not written (`Moment.secondText_lt_iff`).
-/

namespace BoardQuery

/-! ## Groups of digits -/

theorem append_lt_append_iff {α : Type} [LinearOrder α] {xs ys : List α} (r r' : List α)
    (h : xs.length = ys.length) : xs ++ r < ys ++ r' ↔ xs < ys ∨ xs = ys ∧ r < r' := by
  induction xs generalizing ys with
  | nil =>
    obtain rfl := List.length_eq_zero_iff.1 h.symm
    simp
  | cons x xs ih =>
    obtain ⟨y, ys, rfl⟩ := List.exists_cons_of_length_eq_add_one h.symm
    rw [List.cons_append, List.cons_append, List.cons_lt_cons_iff, List.cons_lt_cons_iff,
      ih (Nat.succ.inj h), List.cons.injEq]
    tauto

/-- In a place value, the higher digit decides, and then the rest. -/
theorem place_lt_iff {p d e a b : Nat} (ha : a < p) (hb : b < p) :
    p * d + a < p * e + b ↔ d < e ∨ d = e ∧ a < b := by
  rcases Nat.lt_trichotomy d e with hlt | rfl | hgt
  · have hplace : p * (d + 1) ≤ p * e := Nat.mul_le_mul_left p hlt
    rw [Nat.mul_succ] at hplace
    omega
  · omega
  · have hplace : p * (e + 1) ≤ p * d := Nat.mul_le_mul_left p hgt
    rw [Nat.mul_succ] at hplace
    omega

/-- As many digits on both sides are ordered as the numbers they stand for. -/
theorem digits_lt_iff {ds es : List Char} (hds : ∀ c ∈ ds, c.isDigit = true)
    (hes : ∀ c ∈ es, c.isDigit = true) (hlength : ds.length = es.length) :
    ds < es ↔ Nat.ofDigitChars 10 ds 0 < Nat.ofDigitChars 10 es 0 := by
  induction ds generalizing es with
  | nil =>
    obtain rfl := List.length_eq_zero_iff.1 hlength.symm
    simp
  | cons d ds ih =>
    obtain ⟨e, es, rfl⟩ := List.exists_cons_of_length_eq_add_one hlength.symm
    rw [List.forall_mem_cons] at hds hes
    have hlength' : ds.length = es.length := Nat.succ.inj hlength
    have hdigit : (d < e ↔ d.toNat - 48 < e.toNat - 48)
        ∧ (d = e ↔ d.toNat - 48 = e.toNat - 48) := by
      have hd := Text.isDigit_iff.1 hds.1
      have he := Text.isDigit_iff.1 hes.1
      rw [show d < e ↔ d.toNat < e.toNat from UInt32.lt_iff_toNat_lt, ← Char.toNat_inj]
      omega
    have hcons (c : Char) (cs : List Char) : Nat.ofDigitChars 10 (c :: cs) 0
        = 10 ^ cs.length * (c.toNat - 48) + Nat.ofDigitChars 10 cs 0 := by
      rw [Nat.ofDigitChars_cons, Nat.ofDigitChars_eq_ofDigitChars_zero, Nat.mul_zero, Nat.zero_add]
      rfl
    rw [List.cons_lt_cons_iff, ih hds.2 hes.2 hlength', hdigit.1, hdigit.2, hcons, hcons, hlength']
    exact (place_lt_iff (hlength' ▸ Text.ofDigitChars_lt hds.2) (Text.ofDigitChars_lt hes.2)).symm

namespace Date

theorem padded_append_lt_iff {width a b : Nat} (ha : a < 10 ^ width) (hb : b < 10 ^ width)
    (hwidth : 0 < width) (r r' : List Char) :
    padded width a ++ r < padded width b ++ r' ↔ a < b ∨ a = b ∧ r < r' := by
  have hlength : (padded width a).length = (padded width b).length := by
    rw [length_padded ha hwidth, length_padded hb hwidth]
  have hlt := digits_lt_iff (fun _ => isDigit_of_mem_padded width a)
    (fun _ => isDigit_of_mem_padded width b) hlength
  have heq : padded width a = padded width b ↔ a = b := by
    refine ⟨fun h => ?_, fun h => h ▸ rfl⟩
    rw [← ofDigitChars_padded width a, h, ofDigitChars_padded]
  rw [append_lt_append_iff r r' hlength, hlt, heq, ofDigitChars_padded, ofDigitChars_padded]

/-- Days are written in the order of the calendar, whatever follows them. -/
theorem chars_append_lt_iff {d e : Date} (r r' : List Char) :
    d.chars ++ r < e.chars ++ r' ↔ d.Before e ∨ d = e ∧ r < r' := by
  have heq : d = e ↔ d.year = e.year ∧ d.month = e.month ∧ d.day = e.day :=
    ⟨fun h => h ▸ ⟨rfl, rfl, rfl⟩, fun h => ext_parts h.1 h.2.1 h.2.2⟩
  simp only [chars, List.append_assoc, List.cons_append, List.cons_lt_cons_iff, lt_irrefl, false_or,
    true_and, padded_append_lt_iff d.year_lt e.year_lt (by decide : 0 < 4),
    padded_append_lt_iff d.month_lt e.month_lt (by decide : 0 < 2),
    padded_append_lt_iff d.day_lt e.day_lt (by decide : 0 < 2), Before, heq]
  tauto

theorem text_lt_iff {d e : Date} : d.text < e.text ↔ d.Before e := by
  have h := chars_append_lt_iff (d := d) (e := e) [] []
  rw [List.append_nil, List.append_nil] at h
  rw [String.lt_iff, text, text, String.toList_ofList, String.toList_ofList, h]
  simp

end Date

namespace Moment

variable {m n : Moment}

/-- Times of the day are written in their order to the second, whatever follows them. -/
theorem clockChars_append_lt_iff (r r' : List Char) :
    m.clockChars ++ r < n.clockChars ++ r'
      ↔ m.seconds < n.seconds ∨ m.seconds = n.seconds ∧ r < r' := by
  have hm := m.hour_lt
  have hn := n.hour_lt
  have hlt {a : Nat} (h : a < 100) : a < 10 ^ 2 := h
  simp only [clockChars, List.append_assoc, List.cons_append, List.cons_lt_cons_iff, lt_irrefl,
    false_or, true_and,
    Date.padded_append_lt_iff (hlt (by omega : m.seconds / 3600 < 100))
      (hlt (by omega : n.seconds / 3600 < 100)) (by decide : 0 < 2),
    Date.padded_append_lt_iff (hlt (by omega : m.seconds / 60 % 60 < 100))
      (hlt (by omega : n.seconds / 60 % 60 < 100)) (by decide : 0 < 2),
    Date.padded_append_lt_iff (hlt (by omega : m.seconds % 60 < 100))
      (hlt (by omega : n.seconds % 60 < 100)) (by decide : 0 < 2)]
  by_cases hrest : r < r' <;> simp only [hrest, and_true, and_false, or_false] <;> omega

theorem secondText_lt_iff : m.secondText < n.secondText
    ↔ m.date.Before n.date ∨ m.date = n.date ∧ m.seconds < n.seconds := by
  have h := clockChars_append_lt_iff (m := m) (n := n) [] []
  rw [List.append_nil, List.append_nil] at h
  rw [String.lt_iff, secondText, secondText, String.toList_ofList, String.toList_ofList,
    Date.chars_append_lt_iff, List.cons_lt_cons_iff, h]
  simp

/-- Days are written in the order of their moments, counted in whole days. -/
theorem text_lt_iff (m n : Moment) : m.date.text < n.date.text
    ↔ m.instant / microsPerDay < n.instant / microsPerDay := by
  have hnumber (m : Moment) : m.instant / microsPerDay = m.date.number := by
    have := m.micros_lt
    simp only [instant, microsPerDay, microsPerSecond] at this ⊢
    omega
  rw [Date.text_lt_iff, ← Date.number_lt_iff, hnumber, hnumber]

/-- Seconds are written in the order of their moments, counted in whole seconds. -/
theorem secondText_lt_iff' (m n : Moment) : m.secondText < n.secondText
    ↔ m.instant / microsPerSecond < n.instant / microsPerSecond := by
  have hm := m.micros_lt
  have hn := n.micros_lt
  rw [secondText_lt_iff, ← Date.number_lt_iff, ← Date.number_injective.eq_iff]
  simp only [instant, seconds, microsPerDay, microsPerSecond] at hm hn ⊢
  omega

theorem microText_lt_iff : m.microText < n.microText ↔ m.instant < n.instant := by
  have hm : m.micros % microsPerSecond < 10 ^ 6 := Nat.mod_lt _ (by decide)
  have hn : n.micros % microsPerSecond < 10 ^ 6 := Nat.mod_lt _ (by decide)
  have hfraction := Date.padded_append_lt_iff hm hn (by decide) [] []
  rw [List.append_nil, List.append_nil] at hfraction
  have hmicros : m.seconds < n.seconds ∨ m.seconds = n.seconds
      ∧ m.micros % microsPerSecond < n.micros % microsPerSecond ↔ m.micros < n.micros := by
    simp only [seconds, microsPerSecond]
    omega
  rw [String.lt_iff, microText, microText, String.toList_ofList, String.toList_ofList,
    List.append_assoc, List.append_assoc, Date.chars_append_lt_iff, List.cons_append,
    List.cons_append, List.cons_lt_cons_iff, clockChars_append_lt_iff, fractionChars, fractionChars,
    List.cons_lt_cons_iff, hfraction, instant_lt_iff, ← hmicros]
  simp

end Moment

end BoardQuery
