import BoardQuery.Number.Reading
import BoardQuery.Proofs.Text.Digits
import Mathlib.Data.List.DropRight

/-!
# Trimmed text

Trimming a trimmed text changes nothing, and digits are read as the integer they were written for
whatever is trimmed or dropped before.
-/

namespace BoardQuery

namespace Text

theorem trimChars_eq (cs : List Char) :
    trimChars cs = (cs.dropWhile isBlank).rdropWhile isBlank := rfl

/-- What is left when the end is trimmed begins as before. -/
theorem dropWhile_rdropWhile {α : Type} {p : α → Bool} {cs : List α} (h : cs.dropWhile p = cs) :
    (cs.rdropWhile p).dropWhile p = cs.rdropWhile p := by
  obtain ⟨dropped, hcs⟩ := List.rdropWhile_prefix p (l := cs)
  rcases hleft : cs.rdropWhile p with _ | ⟨c, left⟩
  · rfl
  · rw [hleft] at hcs
    rw [← hcs, List.cons_append, List.dropWhile_eq_self_iff] at h
    exact List.dropWhile_cons_of_neg (h (by simp))

theorem trimChars_trimChars (cs : List Char) : trimChars (trimChars cs) = trimChars cs := by
  rw [trimChars_eq, trimChars_eq, dropWhile_rdropWhile (List.dropWhile_idempotent _ _),
    List.rdropWhile_idempotent]

theorem trim_toList (s : String) : (trim s).toList = trimChars s.toList := by
  rw [trim, String.toList_ofList]

@[simp]
theorem trim_trim (s : String) : trim (trim s) = trim s := by
  rw [trim, trim_toList, trimChars_trimChars, trim]

theorem trimBy_eq_self {dropped : Char → Bool} {cs : List Char}
    (h : ∀ c ∈ cs, dropped c = false) : trimBy dropped cs = cs := by
  have hfirst {cs : List Char} (h : ∀ c ∈ cs, dropped c = false) : cs.dropWhile dropped = cs := by
    rcases cs with _ | ⟨c, cs⟩
    · rfl
    · rw [List.dropWhile_cons_of_neg (by simp [h c List.mem_cons_self])]
  rw [trimBy, hfirst h, hfirst fun c hc => h c (List.mem_reverse.1 hc), List.reverse_reverse]

theorem trimChars_eq_self {cs : List Char} (h : ∀ c ∈ cs, isBlank c = false) :
    trimChars cs = cs :=
  trimBy_eq_self h

theorem isNumberBlank_of_not_isBlank {c : Char} (h : isBlank c = false) :
    isNumberBlank c = false := by
  rw [isNumberBlank, h, Bool.false_and]

theorem isBlank_of_isDigit {c : Char} (h : c.isDigit = true) : isBlank c = false := by
  have hbounds := isDigit_iff.1 h
  simp only [isBlank, blankRanges, Ranges.contains, List.any_cons, List.any_nil]
  simp
  omega

end Text

open Text

section Digits

variable {cs : List Char} (h : ∀ c ∈ cs, c.isDigit = true)
include h

theorem dropUnderscores_of_isDigit : dropUnderscores cs = cs := by
  induction cs using dropUnderscores.induct with
  | case1 a b rest hab ih =>
    have hdigit := h '_' (by simp)
    exact absurd hdigit (by decide)
  | case2 a b rest hab ih =>
    have hdigit := h '_' (by simp)
    exact absurd hdigit (by decide)
  | case3 a rest hne ih =>
    rw [dropUnderscores]
    · rw [ih fun c hc => h c (List.mem_cons_of_mem a hc)]
    · exact hne
  | case4 => rfl

theorem splitSign_of_isDigit : splitSign cs = (false, cs) := by
  unfold splitSign
  split
  · exact absurd (h '-' List.mem_cons_self) (by decide)
  · exact absurd (h '+' List.mem_cons_self) (by decide)
  · rfl

/-- Digits are read as the integer they were written for. -/
theorem readInteger_of_isDigit (hne : cs ≠ []) (hlength : cs.length ≤ maxIntegerDigits) :
    readInteger (String.ofList cs) = .ok (Nat.ofDigitChars 10 cs 0) := by
  have hblank : ∀ c ∈ cs, isNumberBlank c = false :=
    fun c hc => isNumberBlank_of_not_isBlank (isBlank_of_isDigit (h c hc))
  have hcount : ¬ maxIntegerDigits < (cs.takeWhile isDecimalDigit).length :=
    Nat.not_lt.2 ((List.takeWhile_sublist _).length_le.trans hlength)
  simp only [readInteger, String.toList_ofList, trimBy_eq_self hblank,
    dropUnderscores_of_isDigit h, splitSign_of_isDigit h, if_neg hcount,
    natOfDigits?_of_isDigit h hne, Bool.false_eq_true, if_false]

end Digits

end BoardQuery
