import BoardQuery.Proofs.Calendar.Written
import BoardQuery.Proofs.Outcome
import BoardQuery.Proofs.Text.Trimmed

/-!
# Days and seconds read back

The lenient reader takes the written form of a day and of a second back
(`Json.toMoment?_dateText`, `Json.toMoment?_secondText`), on whatever day it reads.
-/

namespace BoardQuery

open Text

namespace Moment

theorem date_wholeSecond (m : Moment) : m.wholeSecond.date = m.date := rfl

theorem seconds_wholeSecond (m : Moment) : m.wholeSecond.seconds = m.seconds := by
  simp only [wholeSecond, seconds, microsPerSecond]
  omega

theorem micros_wholeSecond (m : Moment) : m.wholeSecond.micros % microsPerSecond = 0 := by
  simp only [wholeSecond, microsPerSecond]
  omega

theorem date_midnight (d : Date) : (midnight d).date = d := rfl

theorem wholeSecond_wholeSecond (m : Moment) : m.wholeSecond.wholeSecond = m.wholeSecond := by
  have hmicros := m.micros_wholeSecond
  simp only [wholeSecond] at hmicros ⊢
  simp [hmicros]

theorem secondText_wholeSecond (m : Moment) : m.wholeSecond.secondText = m.secondText := by
  simp only [secondText, clockChars, seconds_wholeSecond, date_wholeSecond]

end Moment

namespace Iso

section Groups

variable {width n : Nat} (h : n < 10 ^ width) (hwidth : 0 < width)
include h hwidth

theorem leadingInt?_padded (hshort : width ≤ maxIntegerDigits) (rest : List Char) :
    leadingInt? width (Date.padded width n ++ rest) = some (n : Int) := by
  have htake : (Date.padded width n ++ rest).take width = Date.padded width n :=
    List.take_left' (Date.length_padded h hwidth)
  have hdigits : ∀ c ∈ Date.padded width n, c.isDigit = true :=
    fun c hc => Date.isDigit_of_mem_padded _ _ hc
  have hlength : (Date.padded width n).length ≤ maxIntegerDigits := by
    rw [Date.length_padded h hwidth]
    exact hshort
  rw [leadingInt?, htake, readInteger_of_isDigit hdigits
    (Date.padded_ne_nil width n) hlength, Date.ofDigitChars_padded]
  rfl

end Groups

theorem leadingInt?_two {n : Nat} (h : n < 100) {a b : Char} (hab : Date.padded 2 n = [a, b])
    (rest : List Char) : leadingInt? 2 (a :: b :: rest) = some (n : Int) := by
  have hread : leadingInt? 2 (Date.padded 2 n ++ rest) = some (n : Int) :=
    leadingInt?_padded h (by decide) (by decide) rest
  rwa [hab] at hread

theorem readByMonth?_chars (d : Date) (rest : List Char) :
    readByMonth? (d.chars ++ rest)
      = some (((d.year : Int), (d.month : Int), (d.day : Int)), rest) := by
  have hyear := Date.length_padded d.year_lt (by decide)
  obtain ⟨a, b, hab, -⟩ := exists_padded_two d.month_lt
  obtain ⟨e, f, hef, -⟩ := exists_padded_two d.day_lt
  have htext : d.chars ++ rest
      = Date.padded 4 d.year ++ '-' :: a :: b :: '-' :: e :: f :: rest := by
    simp [Date.chars, hab, hef]
  have hlong : ¬ (Date.padded 4 d.year ++ '-' :: a :: b :: '-' :: e :: f :: rest).length < 4 := by
    simp [hyear]
  have hdrop : (Date.padded 4 d.year ++ '-' :: a :: b :: '-' :: e :: f :: rest).drop 4
      = '-' :: a :: b :: '-' :: e :: f :: rest := List.drop_left' hyear
  have hfour := leadingInt?_padded d.year_lt (by decide) (by decide)
    ('-' :: a :: b :: '-' :: e :: f :: rest)
  have hmonths : ¬ (rest.length + 1 + 1 + 1 + 1 + 1 < 2) := by omega
  have hdays : ¬ (rest.length + 1 + 1 < 2) := by omega
  rw [htext, readByMonth?, if_neg hlong]
  simp [hfour, hdrop, leadingInt?_two d.month_lt hab, leadingInt?_two d.day_lt hef, hmonths, hdays]

theorem isSign_of_isDigit {c : Char} (h : c.isDigit = true) :
    (c == '-' || c == '+' || c == 'Z' || c == 'z') = false := by
  have hbounds := isDigit_iff.1 h
  have hcode (d : Char) (hd : ¬ (48 ≤ d.toNat ∧ d.toNat ≤ 57)) : c ≠ d := by
    rintro rfl
    exact hd hbounds
  simp [hcode '-' (by decide), hcode '+' (by decide), hcode 'Z' (by decide),
    hcode 'z' (by decide)]

theorem readTimeFrom_groups {a b e f g i : Char} {hour minute second : Int}
    (ha : a.isDigit = true) (hhour : leadingInt? 2 [a, b, ':', e, f, ':', g, i] = some hour)
    (hminute : leadingInt? 2 [e, f, ':', g, i] = some minute)
    (hsecond : leadingInt? 2 [g, i] = some second) :
    readTimeFrom 0 false ⟨0, 0, 0, 0, none⟩ [a, b, ':', e, f, ':', g, i]
      = some ⟨hour, minute, second, 0, none⟩ := by
  have hseconds : readTimeFrom 2 true ⟨hour, minute, 0, 0, none⟩ [':', g, i]
      = some ⟨hour, minute, second, 0, none⟩ := by
    rw [readTimeFrom]
    simp [hsecond, readTimeFrom]
  have hminutes : readTimeFrom 1 false ⟨hour, 0, 0, 0, none⟩ [':', e, f, ':', g, i]
      = some ⟨hour, minute, second, 0, none⟩ := by
    rw [readTimeFrom]
    simp [hminute, hseconds]
  rw [readTimeFrom, if_neg (by simp [isSign_of_isDigit ha])]
  simp [hhour, hminutes]

/-- The parts of a written time of day. -/
theorem readTime?_clockChars (m : Moment) :
    readTime? m.clockChars = some ⟨(m.seconds / 3600 : Nat), (m.seconds / 60 % 60 : Nat),
      (m.seconds % 60 : Nat), 0, none⟩ := by
  have hhour := m.hour_lt
  have hminute : m.seconds / 60 % 60 < 100 := by omega
  have hsecond : m.seconds % 60 < 100 := by omega
  obtain ⟨a, b, hab, ha, -⟩ := exists_padded_two (n := m.seconds / 3600) (by omega)
  obtain ⟨e, f, hef, -⟩ := exists_padded_two hminute
  obtain ⟨g, i, hgi, -⟩ := exists_padded_two hsecond
  have htext : m.clockChars = [a, b, ':', e, f, ':', g, i] := by
    simp [Moment.clockChars, hab, hef, hgi]
  have hread := readTimeFrom_groups ha
    (leadingInt?_two (by omega) hab [':', e, f, ':', g, i])
    (leadingInt?_two hminute hef [':', g, i]) (leadingInt?_two hsecond hgi [])
  have hday : ¬ (m.seconds : Int) / 3600 = 24 := by omega
  rw [readTime?, htext, hread]
  simp [hday]

theorem readDate_chars (d : Date) (rest : List Char) :
    readDate (d.chars ++ rest) = .ok (((d.year : Int), (d.month : Int), (d.day : Int)), rest) := by
  rw [readDate, readByMonth?_chars]

/-- The characters of a written day. -/
theorem mem_chars {d : Date} {c : Char} (h : c ∈ d.chars) : c.isDigit = true ∨ c = '-' := by
  simp only [Date.chars, List.mem_append, List.mem_cons] at h
  rcases h with (h | rfl | h) | rfl | h
  · exact .inl (Date.isDigit_of_mem_padded _ _ h)
  · exact .inr rfl
  · exact .inl (Date.isDigit_of_mem_padded _ _ h)
  · exact .inr rfl
  · exact .inl (Date.isDigit_of_mem_padded _ _ h)

theorem mem_clockChars {m : Moment} {c : Char} (h : c ∈ m.clockChars) :
    c.isDigit = true ∨ c = ':' := by
  simp only [Moment.clockChars, List.mem_append, List.mem_cons] at h
  rcases h with (h | rfl | h) | rfl | h
  · exact .inl (Date.isDigit_of_mem_padded _ _ h)
  · exact .inr rfl
  · exact .inl (Date.isDigit_of_mem_padded _ _ h)
  · exact .inr rfl
  · exact .inl (Date.isDigit_of_mem_padded _ _ h)

theorem toNat_le_of_isDigit {c : Char} (h : c.isDigit = true) : c.toNat ≤ 127 :=
  (isDigit_iff.1 h).2.trans (by decide)

theorem ascii_chars {d : Date} {c : Char} (h : c ∈ d.chars) : c.toNat ≤ 127 := by
  rcases mem_chars h with h | rfl
  · exact toNat_le_of_isDigit h
  · decide

/-- What is read, put together from what is read of its parts. -/
theorem read_of_parts {cs rest : List Char} {year month day : Int} {t : TimeParts} {m : Moment}
    (hascii : ∀ c ∈ cs, c.toNat ≤ 127) (hdate : readDate cs = .ok ((year, month, day), rest))
    (htime : (if rest.isEmpty then some ⟨0, 0, 0, 0, none⟩ else readTime? (rest.drop 1)) = some t)
    (hhour : t.hour ≠ 24)
    (hmoment : Moment.of? year month day t.hour t.minute t.second t.micro = some m) :
    read cs = .ok ⟨m, t.offset⟩ := by
  have hplain : ¬ (cs.any (127 < ·.toNat)) = true := by simpa using hascii
  have hday : ¬ (t.hour == 24) = true := by simpa using hhour
  rw [read, if_neg hplain]
  simp only [hdate, ok_bind, htime, if_neg hday, hmoment]
  rfl

theorem read_dateChars (d : Date) : read d.chars = .ok ⟨.midnight d, none⟩ := by
  have hdate := readDate_chars d []
  rw [List.append_nil] at hdate
  have hmoment : Moment.of? d.year d.month d.day 0 0 0 0 = some (.midnight d) := by
    simpa [Moment.midnight, Moment.seconds] using Moment.of?_self (.midnight d)
  exact read_of_parts (fun _ => ascii_chars) hdate rfl (by decide) hmoment

theorem read_secondChars (m : Moment) :
    read (m.date.chars ++ ' ' :: m.clockChars) = .ok ⟨m.wholeSecond, none⟩ := by
  have hascii : ∀ c ∈ m.date.chars ++ ' ' :: m.clockChars, c.toNat ≤ 127 := by
    intro c hc
    simp only [List.mem_append, List.mem_cons] at hc
    rcases hc with hc | rfl | hc
    · exact ascii_chars hc
    · decide
    · rcases mem_clockChars hc with hc | rfl
      · exact toNat_le_of_isDigit hc
      · decide
  have hhour : ((m.seconds / 3600 : Nat) : Int) ≠ 24 := by
    have := m.hour_lt
    omega
  have hmoment := Moment.of?_self m.wholeSecond
  rw [Moment.date_wholeSecond, Moment.seconds_wholeSecond, Moment.micros_wholeSecond] at hmoment
  exact read_of_parts hascii (readDate_chars m.date _) (readTime?_clockChars m) hhour hmoment

end Iso

/-! ## Values -/

theorem isBlank_false_of_chars {c : Char} (h : c.isDigit = true ∨ c = '-') :
    isBlank c = false := by
  rcases h with h | rfl
  · exact isBlank_of_isDigit h
  · decide

theorem trimChars_dateChars (d : Date) : trimChars d.chars = d.chars :=
  trimChars_eq_self fun _ hc => isBlank_false_of_chars (Iso.mem_chars hc)

/-- A written second begins and ends with a digit. -/
theorem trimChars_secondChars (m : Moment) :
    trimChars (m.date.chars ++ ' ' :: m.clockChars) = m.date.chars ++ ' ' :: m.clockChars := by
  obtain ⟨c, cs, hyear⟩ := List.exists_cons_of_ne_nil (Date.padded_ne_nil 4 m.date.year)
  obtain ⟨ss, e, hsecond⟩ := (List.eq_nil_or_concat' _).resolve_left
    (Date.padded_ne_nil 2 (m.seconds % 60))
  have hc : c.isDigit = true :=
    Date.isDigit_of_mem_padded 4 m.date.year (hyear ▸ List.mem_cons_self)
  have he : e.isDigit = true :=
    Date.isDigit_of_mem_padded 2 (m.seconds % 60) (by simp [hsecond])
  have htext : m.date.chars ++ ' ' :: m.clockChars = c :: (cs ++ '-' :: (Date.padded 2 m.date.month
      ++ '-' :: (Date.padded 2 m.date.day ++ ' ' :: m.clockChars))) := by
    simp [Date.chars, hyear]
  have hlast : m.date.chars ++ ' ' :: m.clockChars = (m.date.chars ++ ' ' ::
      (Date.padded 2 (m.seconds / 3600) ++ ':' :: (Date.padded 2 (m.seconds / 60 % 60)
        ++ ':' :: ss))) ++ [e] := by
    simp [Moment.clockChars, hsecond]
  rw [htext] at hlast ⊢
  exact trimmed_eq (isBlank_of_isDigit hc) (isBlank_of_isDigit he) hlast

namespace Json

/-- A written day is read as the midnight at its start. -/
theorem toMoment?_dateText (now : Moment) (d : Date) :
    (Json.str d.text).toMoment? now = .ok (some (.midnight d)) := by
  have hne : d.chars.isEmpty = false := by simp [Date.chars]
  rw [toMoment?, Date.text, String.toList_ofList, trimChars_dateChars]
  simp only [hne, Bool.false_eq_true, if_false, readMoment?, Iso.read_dateChars]
  rfl

/-- A written second is read as the moment without its fraction. -/
theorem toMoment?_secondText (now m : Moment) :
    (Json.str m.secondText).toMoment? now = .ok (some m.wholeSecond) := by
  have hne : (m.date.chars ++ ' ' :: m.clockChars).isEmpty = false := by simp [Date.chars]
  rw [toMoment?, Moment.secondText, String.toList_ofList, trimChars_secondChars]
  simp only [hne, Bool.false_eq_true, if_false, readMoment?, Iso.read_secondChars]
  rfl

end Json

end BoardQuery
