import BoardQuery.Proofs.Calendar.ReadBack
import BoardQuery.Proofs.Calendar.TextOrder
import BoardQuery.Proofs.Text.AsciiBytes

/-!
# Written moments as a code

Days and seconds are kept and compared as texts. The text of a second is a code of the moment
without its fraction, and the text of a day is one of the midnight at its start: each is read back
as what it stands for, and the texts stand in the order of their bytes as the moments do in time
(`written_moments_faithful`).
-/

namespace BoardQuery

open Encoding

theorem Date.ascii_chars (d : Date) : Ascii d.chars := by
  intro c hc
  rcases Iso.mem_chars hc with h | rfl
  · have hcode := Text.isDigit_iff.1 h
    omega
  · decide

namespace Moment

variable (m n : Moment)

theorem ascii_secondChars : Ascii (m.date.chars ++ ' ' :: m.clockChars) := by
  intro c hc
  simp only [List.mem_append, List.mem_cons] at hc
  rcases hc with hc | rfl | hc
  · exact m.date.ascii_chars c hc
  · decide
  · rcases Iso.mem_clockChars hc with h | rfl
    · have hcode := Text.isDigit_iff.1 h
      omega
    · decide

theorem instant_wholeSecond :
    m.wholeSecond.instant = m.instant / microsPerSecond * microsPerSecond := by
  have hlt := m.micros_lt
  simp only [instant, wholeSecond, microsPerDay, microsPerSecond] at hlt ⊢
  omega

theorem instant_startOfDay : m.startOfDay.instant = m.instant / microsPerDay * microsPerDay := by
  have hlt := m.micros_lt
  simp only [instant, startOfDay, midnight, microsPerDay, microsPerSecond] at hlt ⊢
  omega

/-- Seconds are written in the order of bytes in which they follow each other. -/
theorem bytes_secondText_lt_iff : m.secondText.toUTF8.toList < n.secondText.toUTF8.toList
    ↔ m.wholeSecond.instant < n.wholeSecond.instant := by
  rw [secondText, secondText, bytes_lt_iff_ascii m.ascii_secondChars n.ascii_secondChars,
    ← secondText, ← secondText, secondText_lt_iff', instant_wholeSecond, instant_wholeSecond]
  exact (Nat.mul_lt_mul_right (by decide)).symm

/-- Days are written in the order of bytes in which they follow each other. -/
theorem bytes_dateText_lt_iff : m.date.text.toUTF8.toList < n.date.text.toUTF8.toList
    ↔ m.startOfDay.instant < n.startOfDay.instant := by
  rw [Date.text, Date.text, bytes_lt_iff_ascii m.date.ascii_chars n.date.ascii_chars,
    ← Date.text, ← Date.text, text_lt_iff, instant_startOfDay, instant_startOfDay]
  exact (Nat.mul_lt_mul_right (by decide)).symm

end Moment

/-- A written second is read back as the moment without its fraction, and a written day as the
midnight at its start. Byte by byte, written seconds precede each other as the moments without their
fractions do, and written days as the days do. -/
theorem written_moments_faithful (now m n : Moment) :
    (Json.str m.secondText).toMoment? now = .ok (some m.wholeSecond)
      ∧ (Json.str m.date.text).toMoment? now = .ok (some m.startOfDay)
      ∧ (m.secondText.toUTF8.toList < n.secondText.toUTF8.toList
        ↔ m.wholeSecond.instant < n.wholeSecond.instant)
      ∧ (m.date.text.toUTF8.toList < n.date.text.toUTF8.toList
        ↔ m.startOfDay.instant < n.startOfDay.instant) :=
  ⟨Json.toMoment?_secondText now m, Json.toMoment?_dateText now m.date,
    m.bytes_secondText_lt_iff n, m.bytes_dateText_lt_iff n⟩

end BoardQuery
