import BoardQuery.Proofs.Calendar.Written

/-!
# The numbers of days

Days are numbered in the order of the calendar (`number_lt_iff`), and every number up to the last
day is that of a day, which is found from it (`exists_ofNumber?`). So a moment can be moved by any
span that keeps it in the calendar (`exists_shift?`).
-/

namespace BoardQuery

namespace Date

/-! ## Years and months -/

theorem daysBeforeMonth_one (year : Nat) : daysBeforeMonth year 1 = 0 := rfl

theorem daysBeforeMonth_last (year : Nat) :
    daysBeforeMonth year 13 = if isLeapYear year then 366 else 365 := by
  simp only [daysBeforeMonth, daysInMonth]
  split_ifs <;> rfl

/-- The days of a year are those before its thirteenth month. -/
theorem daysBeforeYear_succ {year : Nat} (h : 1 ≤ year) :
    daysBeforeYear (year + 1) = daysBeforeYear year + daysBeforeMonth year 13 := by
  obtain ⟨y, rfl⟩ := Nat.exists_eq_add_of_le' h
  have hleap : isLeapYear (y + 1) = true ↔ 4 ∣ y + 1 ∧ (¬ 100 ∣ y + 1 ∨ 400 ∣ y + 1) := by
    simp [isLeapYear, Nat.dvd_iff_mod_eq_zero]
  rw [daysBeforeMonth_last, if_congr hleap rfl rfl]
  simp only [daysBeforeYear, Nat.add_sub_cancel, Nat.succ_div]
  have hcenturies : y / 100 ≤ y := Nat.div_le_self ..
  -- a year that ends four centuries ends one, and a year that ends a century is a fourth one
  by_cases hfour : 4 ∣ y + 1
  · by_cases hhundred : 100 ∣ y + 1
    · by_cases hcycle : 400 ∣ y + 1
      · simp only [hfour, hhundred, hcycle, if_true, not_true, false_or, and_true]
        omega
      · simp only [hfour, hhundred, hcycle, if_true, if_false, not_true, or_false, and_false]
        omega
    · have hcycle : ¬ 400 ∣ y + 1 := fun h => hhundred (Nat.dvd_trans (by decide) h)
      simp only [hfour, hhundred, hcycle, if_true, if_false, not_false_iff, true_or, and_true]
      omega
  · have hhundred : ¬ 100 ∣ y + 1 := fun h => hfour (Nat.dvd_trans (by decide) h)
    have hcycle : ¬ 400 ∣ y + 1 := fun h => hhundred (Nat.dvd_trans (by decide) h)
    simp only [hfour, hhundred, hcycle, if_false, false_and]
    omega

theorem daysBeforeYear_mono : Monotone daysBeforeYear := by
  refine monotone_nat_of_le_succ fun year => ?_
  rcases Nat.eq_zero_or_pos year with rfl | hpos
  · rfl
  · rw [daysBeforeYear_succ hpos]
    exact Nat.le_add_right ..

theorem daysBeforeMonth_mono (year : Nat) : Monotone (daysBeforeMonth year) :=
  monotone_nat_of_le_succ fun _ => Nat.le_add_right ..

theorem month_mem (d : Date) : 1 ≤ d.month ∧ d.month ≤ 12 := by
  have hday := Nat.le_trans d.day_pos d.day_le
  by_contra hmonth
  have hzero : daysInMonth d.year d.month = 0 := by
    unfold daysInMonth
    split <;> first | rfl | omega
  omega

/-! ## The order of numbers -/

theorem number_lt_nextMonth (d : Date) :
    d.number < daysBeforeYear d.year + daysBeforeMonth d.year (d.month + 1) := by
  have hpos := d.day_pos
  have hday := d.day_le
  simp only [number, daysBeforeMonth]
  omega

theorem number_lt_nextYear (d : Date) : d.number < daysBeforeYear (d.year + 1) := by
  have hmonth : daysBeforeMonth d.year (d.month + 1) ≤ daysBeforeMonth d.year 13 :=
    daysBeforeMonth_mono d.year (Nat.add_le_add_right d.month_mem.2 1)
  have hnext := d.number_lt_nextMonth
  rw [daysBeforeYear_succ d.year_pos]
  omega

/-- Whether one day comes before another in the calendar. -/
def Before (d e : Date) : Prop :=
  d.year < e.year ∨ d.year = e.year ∧ (d.month < e.month ∨ d.month = e.month ∧ d.day < e.day)

theorem number_lt_of_before {d e : Date} (h : d.Before e) : d.number < e.number := by
  rcases h with hyear | ⟨hyear, hmonth | ⟨hmonth, hday⟩⟩
  · have hmono := daysBeforeYear_mono (show d.year + 1 ≤ e.year from hyear)
    have hlast := d.number_lt_nextYear
    simp only [number] at hlast ⊢
    omega
  · have hmono := daysBeforeMonth_mono e.year (show d.month + 1 ≤ e.month from hmonth)
    have hlast := d.number_lt_nextMonth
    simp only [number, hyear] at hlast ⊢
    omega
  · have hpos := d.day_pos
    simp only [number, hyear, hmonth]
    omega

theorem ext_parts {d e : Date} (hyear : d.year = e.year) (hmonth : d.month = e.month)
    (hday : d.day = e.day) : d = e := by
  cases d
  cases e
  subst hyear hmonth hday
  rfl

theorem before_trichotomy (d e : Date) : d.Before e ∨ d = e ∨ e.Before d := by
  have heq := ext_parts (d := d) (e := e)
  simp only [Before]
  by_cases hyear : d.year = e.year
  · by_cases hmonth : d.month = e.month
    · by_cases hday : d.day = e.day
      · exact .inr (.inl (heq hyear hmonth hday))
      · omega
    · omega
  · omega

/-- Numbers order days as the calendar does. -/
theorem number_lt_iff {d e : Date} : d.number < e.number ↔ d.Before e := by
  refine ⟨fun h => ?_, number_lt_of_before⟩
  rcases before_trichotomy d e with hlt | rfl | hgt
  · exact hlt
  · exact absurd h (Nat.lt_irrefl _)
  · exact absurd (number_lt_of_before hgt) (Nat.lt_asymm h)

theorem number_injective : Function.Injective number := fun d e h => by
  rcases before_trichotomy d e with hlt | heq | hgt
  · exact absurd h (Nat.ne_of_lt (number_lt_of_before hlt))
  · exact heq
  · exact absurd h.symm (Nat.ne_of_lt (number_lt_of_before hgt))

/-! ## Days from numbers -/

/-- Four centuries have 146097 days, and no count of years is far from its share of them. -/
theorem daysBeforeYear_bounds (y : Nat) : 146097 * y ≤ 400 * daysBeforeYear (y + 1) + 699
    ∧ 400 * daysBeforeYear (y + 1) ≤ 146097 * y + 396 := by
  simp only [daysBeforeYear, Nat.add_sub_cancel]
  omega

theorem yearOf_spec (n : Nat) : 1 ≤ yearOf n ∧ daysBeforeYear (yearOf n) ≤ n
    ∧ n < daysBeforeYear (yearOf n + 1) := by
  have hshare : 146097 * (n * 400 / 146097) ≤ 400 * n
      ∧ 400 * n < 146097 * (n * 400 / 146097 + 1) := by omega
  obtain ⟨q, hq⟩ : ∃ q, n * 400 / 146097 = q := ⟨_, rfl⟩
  simp only [yearOf, hq] at hshare ⊢
  split_ifs with hlate hin
  · have := (daysBeforeYear_bounds (q + 1 + 1)).1
    exact ⟨by omega, hlate, by omega⟩
  · exact ⟨by omega, hin, by omega⟩
  · cases q with
    | zero => exact absurd (Nat.zero_le n) hin
    | succ q =>
      have := (daysBeforeYear_bounds q).2
      simp only [Nat.add_sub_cancel]
      exact ⟨by omega, by omega, by omega⟩

/-- What is found from a month on: the month, and the day in it, that come so many days later. -/
theorem monthAndDay_spec {year : Nat} : {left month n : Nat} →
    n < daysBeforeMonth year (month + left + 1) - daysBeforeMonth year month →
    ∀ {month' day : Nat}, monthAndDay year left month n = (month', day) →
      1 ≤ day ∧ day ≤ daysInMonth year month'
        ∧ daysBeforeMonth year month' + (day - 1) = daysBeforeMonth year month + n
  | 0, month, n, hn, month', day, h => by
    obtain ⟨rfl, rfl⟩ := Prod.mk.inj h
    simp only [daysBeforeMonth] at hn ⊢
    omega
  | left + 1, month, n, hn, month', day, h => by
    rw [monthAndDay] at h
    split_ifs at h with hin
    · obtain ⟨rfl, rfl⟩ := Prod.mk.inj h
      omega
    · rw [show month + (left + 1) + 1 = month + 1 + left + 1 by omega] at hn
      have hsub : n - daysInMonth year month
          < daysBeforeMonth year (month + 1 + left + 1) - daysBeforeMonth year (month + 1) := by
        simp only [daysBeforeMonth] at hn ⊢
        omega
      have ih := monthAndDay_spec hsub h
      simp only [daysBeforeMonth] at ih ⊢
      omega

/-- Every number up to the last day of the calendar is that of a day. -/
theorem exists_ofNumber? {n : Nat} (h : n < daysBeforeYear (maxYear + 1)) :
    ∃ d, ofNumber? n = some d ∧ d.number = n := by
  obtain ⟨hpos, hle, hlt⟩ := yearOf_spec n
  have hyear : yearOf n ≤ maxYear := by
    by_contra hlate
    have := daysBeforeYear_mono (show maxYear + 1 ≤ yearOf n by omega)
    omega
  obtain ⟨month, day, hfound⟩ : ∃ month day,
    monthAndDay (yearOf n) 11 1 (n - daysBeforeYear (yearOf n)) = (month, day) := ⟨_, _, rfl⟩
  have hrest : n - daysBeforeYear (yearOf n)
      < daysBeforeMonth (yearOf n) 13 - daysBeforeMonth (yearOf n) 1 := by
    rw [daysBeforeYear_succ hpos] at hlt
    rw [daysBeforeMonth_one]
    omega
  obtain ⟨hday, hdays, hsum⟩ := monthAndDay_spec hrest hfound
  refine ⟨⟨yearOf n, month, day, hpos, hyear, hday, hdays⟩, ?_, ?_⟩
  · simp [ofNumber?, hfound, of?, hpos, hyear, hday, hdays]
  · simp only [number]
    rw [daysBeforeMonth_one] at hsum
    omega

/-- A day that is found from a number has the number. -/
theorem number_of_ofNumber? {n : Nat} {d : Date} (h : ofNumber? n = some d) : d.number = n := by
  have hyear : yearOf n ≤ maxYear := by
    simp only [ofNumber?, of?] at h
    split_ifs at h with hparts
    simpa using hparts.2.1
  have hlt : n < daysBeforeYear (maxYear + 1) :=
    (yearOf_spec n).2.2.trans_le (daysBeforeYear_mono (Nat.add_le_add_right hyear 1))
  obtain ⟨e, he, hnumber⟩ := exists_ofNumber? hlt
  obtain rfl := Option.some.inj (h.symm.trans he)
  exact hnumber

theorem number_lt_end (d : Date) : d.number < daysBeforeYear (maxYear + 1) :=
  d.number_lt_nextYear.trans_le (daysBeforeYear_mono (Nat.add_le_add_right d.year_le 1))

/-- The numbers past the last day of the calendar are those of no day. -/
theorem ofNumber?_eq_none_iff {n : Nat} :
    ofNumber? n = none ↔ daysBeforeYear (maxYear + 1) ≤ n := by
  constructor
  · intro h
    by_contra hlt
    obtain ⟨d, hd, -⟩ := exists_ofNumber? (Nat.lt_of_not_le hlt)
    exact absurd (h.symm.trans hd) (by simp)
  · intro h
    rcases hd : ofNumber? n with _ | d
    · rfl
    · have hlt := d.number_lt_end
      rw [number_of_ofNumber? hd] at hlt
      omega

end Date

/-! ## Moments -/

namespace Moment

theorem instant_lt_iff {m n : Moment} : m.instant < n.instant
    ↔ m.date.Before n.date ∨ m.date = n.date ∧ m.micros < n.micros := by
  have hm := m.micros_lt
  have hn := n.micros_lt
  rw [← Date.number_lt_iff, ← Date.number_injective.eq_iff, instant, instant]
  simp only [microsPerDay, microsPerSecond] at hm hn ⊢
  omega

theorem instant_of_ofInstant? {m : Moment} {n : Int} (h : ofInstant? n = some m) :
    (m.instant : Int) = n := by
  rw [ofInstant?] at h
  split_ifs at h with hneg
  obtain ⟨d, hd, rfl⟩ := Option.map_eq_some_iff.1 h
  have hinstant : d.number * microsPerDay + n.toNat % microsPerDay = n.toNat := by
    rw [Date.number_of_ofNumber? hd]
    exact Nat.div_add_mod' ..
  rw [instant, hinstant]
  omega

/-- The first instant that lies past the calendar. -/
def endInstant : Nat := Date.daysBeforeYear (maxYear + 1) * microsPerDay

theorem ofInstant?_eq_none_iff {n : Int} :
    ofInstant? n = none ↔ n < 0 ∨ (endInstant : Int) ≤ n := by
  rw [ofInstant?]
  split_ifs with hneg
  · simp [hneg]
  · rw [Option.map_eq_none_iff, Date.ofNumber?_eq_none_iff, Nat.le_div_iff_mul_le (by decide)]
    rw [← endInstant]
    omega

theorem instant_of_shift? {m n : Moment} {micros : Nat} (h : m.shift? micros = some n) :
    n.instant = m.instant + micros := by
  have hinstant := instant_of_ofInstant? h
  omega

/-- A moment can be moved by any span that keeps it in the calendar. -/
theorem exists_shift? {m : Moment} {micros : Nat}
    (h : m.instant + micros < Date.daysBeforeYear (maxYear + 1) * microsPerDay) :
    ∃ n, m.shift? micros = some n := by
  have hsum : ((m.instant : Int) + (micros : Int)).toNat = m.instant + micros := by omega
  obtain ⟨d, hd, -⟩ := Date.exists_ofNumber?
    (Nat.div_lt_of_lt_mul (by rwa [Nat.mul_comm] : m.instant + micros
      < microsPerDay * Date.daysBeforeYear (maxYear + 1)))
  rw [← hsum] at hd
  rw [shift?, ofInstant?, if_neg (by omega), hd]
  exact ⟨_, rfl⟩

end Moment

end BoardQuery
