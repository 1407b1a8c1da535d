import BoardQuery.Calendar.Iso
import BoardQuery.Proofs.Number.Shortest
import BoardQuery.Store.Cell
import Mathlib.Data.List.TakeWhile

/-!
# Written moments

Days and moments are written in groups of digits of fixed width. The strict reader takes a written
moment back to the microsecond (`Iso.readStrict?_isoText`), and no written moment passes for a
number (`readLiteral?_microText`).
-/

namespace BoardQuery

open Text

namespace Date

section Padded

variable {width n : Nat} (h : n < 10 ^ width) (hwidth : 0 < width)
include h hwidth

theorem length_toDigits_le : (Nat.toDigits 10 n).length ≤ width :=
  (Nat.length_toDigits_le_iff (by decide) hwidth).2 h

theorem length_padded : (padded width n).length = width := by
  have := length_toDigits_le h hwidth
  simp only [padded, List.length_append, List.length_replicate]
  omega

end Padded

theorem isDigit_of_mem_padded (width n : Nat) {c : Char} (h : c ∈ padded width n) :
    c.isDigit = true := by
  rcases List.mem_append.1 h with h | h
  · rw [List.eq_of_mem_replicate h]
    rfl
  · exact Decimal.isDigit_of_mem_toDigits h

theorem ofDigitChars_padded (width n : Nat) : Nat.ofDigitChars 10 (padded width n) 0 = n := by
  rw [padded, Nat.ofDigitChars_append, Nat.ofDigitChars_replicate_zero, Nat.mul_zero,
    Nat.ofDigitChars_ten_toDigits]

theorem padded_ne_nil (width n : Nat) : padded width n ≠ [] := by
  simp [padded, Nat.toDigits_ne_nil]

theorem natOfDigits?_padded (width n : Nat) : natOfDigits? (padded width n) = some n := by
  rw [natOfDigits?_of_isDigit (fun _ hc => isDigit_of_mem_padded _ _ hc) (padded_ne_nil width n),
    ofDigitChars_padded]

theorem year_lt (d : Date) : d.year < 10 ^ 4 := Nat.lt_of_le_of_lt d.year_le (by decide)

theorem daysInMonth_le (year month : Nat) : daysInMonth year month ≤ 31 := by
  unfold daysInMonth
  split <;> first | decide | (split_ifs <;> decide)

theorem month_lt (d : Date) : d.month < 10 ^ 2 := by
  have hday := Nat.le_trans d.day_pos d.day_le
  by_contra hlt
  have hzero : daysInMonth d.year d.month = 0 := by
    unfold daysInMonth
    split <;> first | rfl | omega
  omega

theorem day_lt (d : Date) : d.day < 10 ^ 2 := by
  have := d.day_le.trans (daysInMonth_le d.year d.month)
  omega

theorem of?_self (d : Date) : Date.of? d.year d.month d.day = some d := by
  simp [Date.of?, d.year_pos, d.year_le, d.day_pos, d.day_le]

end Date

namespace Moment

variable (m : Moment)

theorem seconds_lt : m.seconds < 86400 := by
  have := m.micros_lt
  simp only [microsPerDay, microsPerSecond] at this
  simp only [seconds, microsPerSecond]
  omega

theorem hour_lt : m.seconds / 3600 < 24 := by
  have := m.seconds_lt
  omega

/-- A moment is made up of its written parts again. -/
theorem of?_self : Moment.of? m.date.year m.date.month m.date.day (m.seconds / 3600 : Nat)
    (m.seconds / 60 % 60 : Nat) (m.seconds % 60 : Nat) (m.micros % microsPerSecond : Nat)
    = some m := by
  have hhour := m.hour_lt
  have hmicro : m.micros % microsPerSecond < microsPerSecond := Nat.mod_lt _ (by decide)
  have hsum : (((m.seconds / 3600 : Nat) * 60 + (m.seconds / 60 % 60 : Nat) : Int) * 60
      + (m.seconds % 60 : Nat)) * microsPerSecond + (m.micros % microsPerSecond : Nat)
      = m.micros := by
    simp only [seconds, microsPerSecond]
    omega
  rw [Moment.of?, Date.of?_self, Option.bind_eq_bind, Option.bind_some]
  simp only [hsum, Int.toNat_natCast]
  rw [if_pos (by omega), dif_pos m.micros_lt]

end Moment

namespace Iso

theorem takeDigits?_padded {width n : Nat} (h : n < 10 ^ width) (hwidth : 0 < width)
    (rest : List Char) : takeDigits? width (Date.padded width n ++ rest) = some (n, rest) := by
  have hlen := Date.length_padded h hwidth
  have htake : (Date.padded width n ++ rest).take width = Date.padded width n :=
    List.take_left' hlen
  have hdrop : (Date.padded width n ++ rest).drop width = rest := List.drop_left' hlen
  have hdigits : (Date.padded width n).all isAsciiDigit = true :=
    List.all_eq_true.2 fun c hc => Date.isDigit_of_mem_padded _ _ hc
  simp only [takeDigits?, htake, hdrop, hlen, hdigits, Date.natOfDigits?_padded]
  simp

/-- Two digits. -/
theorem exists_padded_two {n : Nat} (h : n < 100) :
    ∃ a b, Date.padded 2 n = [a, b] ∧ a.isDigit = true ∧ b.isDigit = true := by
  have hlength : (Date.padded 2 n).length = 2 := Date.length_padded h (by decide)
  obtain ⟨a, b, hab⟩ := List.length_eq_two.1 hlength
  refine ⟨a, b, hab, ?_, ?_⟩ <;>
  exact Date.isDigit_of_mem_padded 2 n (by simp [hab])

theorem strictDate?_chars (d : Date) : strictDate? d.chars = some d := by
  obtain ⟨a, b, hmonth, ha, -⟩ := exists_padded_two d.month_lt
  have hne : a ≠ 'W' := by
    rintro rfl
    exact absurd ha (by decide)
  have hday := takeDigits?_padded d.day_lt (by decide) []
  rw [List.append_nil] at hday
  have hmonths := takeDigits?_padded d.month_lt (by decide) ('-' :: Date.padded 2 d.day)
  have htext : d.chars = Date.padded 4 d.year
      ++ '-' :: (Date.padded 2 d.month ++ '-' :: Date.padded 2 d.day) := by
    simp [Date.chars]
  rw [htext, strictDate?, takeDigits?_padded d.year_lt (by decide)]
  rw [hmonth] at hmonths ⊢
  simp only [List.cons_append, List.nil_append] at hmonths ⊢
  simp [hne, hmonths, hday, Date.of?_self]

theorem length_chars (d : Date) : d.chars.length = 10 := by
  simp [Date.chars, Date.length_padded d.year_lt, Date.length_padded d.month_lt,
    Date.length_padded d.day_lt]

/-- The date of a written moment ends where it should. -/
theorem dateLength?_chars (d : Date) (c e : Char) (rest : List Char) :
    dateLength? (d.chars ++ c :: e :: rest) = some 10 := by
  have hyear := Date.length_padded d.year_lt (by decide)
  obtain ⟨a, b, hmonth, ha, -⟩ := exists_padded_two d.month_lt
  have hne : a ≠ 'W' := by
    rintro rfl
    exact absurd ha (by decide)
  have hlen : (d.chars ++ c :: e :: rest).length = rest.length + 12 := by
    rw [List.length_append, length_chars]
    simp only [List.length_cons]
    omega
  have hdash : (d.chars ++ c :: e :: rest)[4]? = some '-' := by
    simp [Date.chars, hyear]
  have hweek : (d.chars ++ c :: e :: rest)[5]? = some a := by
    simp [Date.chars, List.getElem?_append, hyear, hmonth]
  simp only [dateLength?, hlen, hdash, hweek]
  rw [if_neg (by omega), if_neg (by simp), if_pos (by simp), if_neg (by simpa using hne)]

theorem clockRest?_colon (zoned : Bool) (c : Char) (rest : List Char) :
    clockRest? zoned true (':' :: c :: rest) = some (.group (c :: rest)) := by
  simp [clockRest?]

theorem clockRest?_point (zoned : Bool) (c : Char) (rest : List Char) :
    clockRest? zoned true ('.' :: c :: rest) = some (.fraction (c :: rest)) := by
  simp [clockRest?]

theorem strictFraction?_padded {n : Nat} (h : n < 10 ^ 6) (zoned : Bool) :
    strictFraction? zoned (Date.padded 6 n) = some n := by
  have hlen := Date.length_padded h (by decide)
  have htake : (Date.padded 6 n).take 6 = Date.padded 6 n := List.take_of_length_le hlen.le
  have hdrop : (Date.padded 6 n).drop 6 = [] := List.drop_eq_nil_of_le hlen.le
  have hdigits : (Date.padded 6 n).all isAsciiDigit = true :=
    List.all_eq_true.2 fun c hc => Date.isDigit_of_mem_padded _ _ hc
  have hvalue : fractionMicros (Date.padded 6 n) = n := by
    rw [fractionMicros, htake, mapM_digitValue? fun c hc => Date.isDigit_of_mem_padded _ _ hc]
    simp [digitsValue_map, Date.ofDigitChars_padded, hlen]
  simp [strictFraction?, htake, hdrop, hdigits, hvalue]

/-- The time of a moment without a zone. -/
theorem strictClock?_clockChars (m : Moment) :
    strictClock? false (m.clockChars
      ++ if m.micros % microsPerSecond == 0 then [] else m.fractionChars)
      = some (m.seconds / 3600, m.seconds / 60 % 60, m.seconds % 60,
        m.micros % microsPerSecond) := by
  have hhour : m.seconds / 3600 < 10 ^ 2 := by have := m.hour_lt; omega
  have hminute : m.seconds / 60 % 60 < 10 ^ 2 := by omega
  have hsecond : m.seconds % 60 < 10 ^ 2 := by omega
  have hmicro : m.micros % microsPerSecond < 10 ^ 6 := Nat.mod_lt _ (by decide)
  obtain ⟨a, b, hab, -⟩ := exists_padded_two hminute
  obtain ⟨c, d, hcd, -⟩ := exists_padded_two hsecond
  set rest := if m.micros % microsPerSecond == 0 then [] else m.fractionChars with hrest
  have htext : m.clockChars ++ rest = Date.padded 2 (m.seconds / 3600)
      ++ ':' :: (Date.padded 2 (m.seconds / 60 % 60)
        ++ ':' :: (Date.padded 2 (m.seconds % 60) ++ rest)) := by
    simp [Moment.clockChars]
  have hminutes := takeDigits?_padded hminute (by decide)
    (':' :: (Date.padded 2 (m.seconds % 60) ++ rest))
  have hseconds := takeDigits?_padded hsecond (by decide) rest
  rw [htext, strictClock?, takeDigits?_padded hhour (by decide)]
  rw [hab] at hminutes ⊢
  rw [hcd] at hminutes hseconds ⊢
  simp only [List.cons_append, List.nil_append] at hminutes hseconds ⊢
  simp only [Option.bind_eq_bind, Option.bind_some, List.head?_cons, BEq.rfl, clockRest?_colon,
    hminutes, hseconds]
  rw [hrest]
  split_ifs with hzero
  · simp [clockRest?, beq_iff_eq.1 hzero]
  · obtain ⟨e, es, hes⟩ := List.exists_cons_of_ne_nil
      (Date.padded_ne_nil 6 (m.micros % microsPerSecond))
    have hfraction := strictFraction?_padded hmicro false
    rw [Moment.fractionChars, hes, clockRest?_point]
    rw [hes] at hfraction
    simp [hfraction]

/-- The characters of a time of day. -/
theorem clock_chars (m : Moment) : ∀ c ∈ m.clockChars
    ++ (if m.micros % microsPerSecond == 0 then [] else m.fractionChars),
    c.isDigit = true ∨ c = ':' ∨ c = '.' := by
  intro c hc
  have hpadded {width n : Nat} (h : c ∈ Date.padded width n) :
      c.isDigit = true ∨ c = ':' ∨ c = '.' := .inl (Date.isDigit_of_mem_padded _ _ h)
  rcases List.mem_append.1 hc with hc | hc
  · simp only [Moment.clockChars, List.mem_append, List.mem_cons] at hc
    rcases hc with (hc | rfl | hc) | rfl | hc
    · exact hpadded hc
    · exact .inr (.inl rfl)
    · exact hpadded hc
    · exact .inr (.inl rfl)
    · exact hpadded hc
  · split_ifs at hc
    · exact absurd hc List.not_mem_nil
    · rcases List.mem_cons.1 hc with rfl | hc
      · exact .inr (.inr rfl)
      · exact hpadded hc

/-- The strict reader takes a written moment back. -/
theorem readStrict?_isoText (m : Moment) :
    readStrict? (ZonedMoment.isoText ⟨m, none⟩) = some ⟨m, none⟩ := by
  set clock := m.clockChars
    ++ (if m.micros % microsPerSecond == 0 then [] else m.fractionChars) with hclock
  have htext : (ZonedMoment.isoText ⟨m, none⟩).toList = m.date.chars ++ 'T' :: clock := by
    simp [ZonedMoment.isoText, Moment.isoChars, hclock]
  have hne : clock ≠ [] := by simp [hclock, Moment.clockChars]
  obtain ⟨c, rest, hcons⟩ := List.exists_cons_of_ne_nil hne
  have hlength : dateLength? (m.date.chars ++ 'T' :: clock) = some 10 := by
    rw [hcons]
    exact dateLength?_chars m.date 'T' c rest
  have htake : (m.date.chars ++ 'T' :: clock).take 10 = m.date.chars :=
    List.take_left' (length_chars m.date)
  have hdrop : (m.date.chars ++ 'T' :: clock).drop 11 = clock := by
    rw [← List.singleton_append, ← List.append_assoc]
    exact List.drop_left' (by simp [length_chars])
  have hlong : ¬ (m.date.chars ++ 'T' :: clock).length ≤ 10 := by
    simp [length_chars]
  have hsign : ∀ c ∈ clock, (!(c == '+' || c == '-' || c == 'Z')) = true := by
    intro c hc
    rcases clock_chars m c hc with h | rfl | rfl
    · have hne := isDigit_iff.1 h
      have hcode (d : Char) (hd : ¬ (48 ≤ d.toNat ∧ d.toNat ≤ 57)) : c ≠ d := by
        rintro rfl
        exact hd hne
      simp [hcode '+' (by decide), hcode '-' (by decide), hcode 'Z' (by decide)]
    · rfl
    · rfl
  have hall := List.takeWhile_eq_self_iff.2 hsign
  have hnone := List.dropWhile_eq_nil_iff.2 hsign
  have hread := strictClock?_clockChars m
  rw [← hclock] at hread
  rw [readStrict?, htext]
  simp only [Option.bind_eq_bind, hlength, Option.bind_some, htake, strictDate?_chars,
    if_neg hlong, hdrop, hall, hnone, List.isEmpty_nil, Bool.not_true, hread, Moment.of?_self]
  rfl

end Iso

theorem trimmed_eq {p : Char → Bool} {c d : Char} {cs ds : List Char} (hc : p c = false)
    (hd : p d = false) (h : c :: cs = ds ++ [d]) :
    (((c :: cs).dropWhile p).reverse.dropWhile p).reverse = c :: cs := by
  rw [List.dropWhile_cons_of_neg (by simp [hc]), h, List.reverse_append, List.reverse_singleton,
    List.singleton_append, List.dropWhile_cons_of_neg (by simp [hd])]
  simp

/-- Digits followed by a dash are no number. -/
theorem readDecimal?_dash {ds : List Char} (h : ∀ c ∈ ds, c.isDigit = true) (rest : List Char) :
    readDecimal? false (ds ++ '-' :: rest) = none := by
  have hdigits : ∀ c ∈ ds, isDecimalDigit c = true := fun c hc => isDecimalDigit_of_isDigit (h c hc)
  have hdash : isDecimalDigit '-' = false := by decide
  have htake : (ds ++ '-' :: rest).takeWhile isDecimalDigit = ds := by
    rw [List.takeWhile_append_of_pos hdigits, List.takeWhile_cons_of_neg (by simp [hdash]),
      List.append_nil]
  have hdrop : (ds ++ '-' :: rest).dropWhile isDecimalDigit = '-' :: rest := by
    rw [List.dropWhile_append_of_pos hdigits, List.dropWhile_cons_of_neg (by simp [hdash])]
  have hexp : readExponent? ('-' :: rest) = none := rfl
  simp [readDecimal?, htake, hdrop, hexp]

theorem natOfDigits?_dash (ds rest : List Char) : natOfDigits? (ds ++ '-' :: rest) = none := by
  have hdash : digitValue? '-' = none := by decide
  have hall : (ds ++ '-' :: rest).mapM digitValue? = none := by
    rw [List.mapM_append, List.mapM_cons, hdash]
    cases ds.mapM digitValue? <;> rfl
  simp [natOfDigits?, hall]

/-- No written moment passes for a number. -/
theorem readLiteral?_microText (m : Moment) : readLiteral? m.microText = none := by
  obtain ⟨c, cs, hyear⟩ := List.exists_cons_of_ne_nil (Date.padded_ne_nil 4 m.date.year)
  have hc : c.isDigit = true :=
    Date.isDigit_of_mem_padded 4 m.date.year (hyear ▸ List.mem_cons_self)
  set tail := Date.padded 2 m.date.month ++ '-' :: Date.padded 2 m.date.day
    ++ ' ' :: m.clockChars ++ m.fractionChars with htail
  have htext : m.microText.toList = c :: (cs ++ '-' :: tail) := by
    simp [Moment.microText, Date.chars, hyear, htail]
  obtain ⟨ms, d, hmicros⟩ := (List.eq_nil_or_concat' _).resolve_left
    (Date.padded_ne_nil 6 (m.micros % microsPerSecond))
  have hd : d.isDigit = true := Date.isDigit_of_mem_padded 6
    (m.micros % microsPerSecond) (by simp [hmicros])
  have hlast : c :: (cs ++ '-' :: tail) = (c :: (cs ++ '-' :: (Date.padded 2 m.date.month
      ++ '-' :: Date.padded 2 m.date.day ++ ' ' :: m.clockChars ++ '.' :: ms))) ++ [d] := by
    simp [htail, Moment.fractionChars, hmicros]
  have hspace {e : Char} (he : e.isDigit = true) :
      (e == ' ' || (decide ('\t' ≤ e) && decide (e ≤ '\r'))) = false := by
    have hbounds := isDigit_iff.1 he
    have hgt : ¬ e ≤ '\r' := by
      rw [Char.le_def, UInt32.le_iff_toNat_le]
      exact fun hle => absurd (hbounds.1.trans hle) (by decide)
    have hblank : e ≠ ' ' := by
      rintro rfl
      exact absurd hbounds.1 (by decide)
    simp [hblank, hgt]
  have htrim := trimmed_eq (p := fun e => e == ' ' || (decide ('\t' ≤ e) && decide (e ≤ '\r')))
    (hspace hc) (hspace hd) hlast
  have hsign : splitSign (c :: (cs ++ '-' :: tail)) = (false, c :: (cs ++ '-' :: tail)) := by
    unfold splitSign
    split
    case h_1 heq => exact absurd (List.cons.inj heq).1 (by rintro rfl; exact absurd hc (by decide))
    case h_2 heq => exact absurd (List.cons.inj heq).1 (by rintro rfl; exact absurd hc (by decide))
    case h_3 => rfl
  have hwhole := natOfDigits?_dash (c :: cs) tail
  have hdigits : ∀ e ∈ c :: cs, e.isDigit = true :=
    fun e he => Date.isDigit_of_mem_padded 4 m.date.year (hyear ▸ he)
  have hdecimal := readDecimal?_dash hdigits tail
  rw [List.cons_append] at hwhole hdecimal
  simp only [readLiteral?, htext, htrim, hsign, hwhole, hdecimal]
  split_ifs <;> rfl

end BoardQuery
