import BoardQuery.Json.Reader
import Mathlib.Tactic.Ring

/-!
# Digits

The digits that the service writes are those of ASCII. Their values, read one by one, make up the
number they were written for, and a number is bounded by the count of its digits.
-/

namespace BoardQuery

namespace Text

theorem isDigit_iff {c : Char} : c.isDigit = true ↔ 48 ≤ c.toNat ∧ c.toNat ≤ 57 := by
  simp only [Char.isDigit, Bool.and_eq_true, decide_eq_true_eq, ge_iff_le, UInt32.le_iff_toNat_le]
  rfl

theorem digitValue?_of_isDigit {c : Char} (h : c.isDigit = true) :
    digitValue? c = some (c.toNat - 48) := by
  have hbounds := isDigit_iff.1 h
  simp [digitValue?, zeroCodes, hbounds]

theorem isDecimalDigit_of_isDigit {c : Char} (h : c.isDigit = true) : isDecimalDigit c = true := by
  simp [isDecimalDigit, digitValue?_of_isDigit h]

theorem isAsciiDigit_eq : Json.isAsciiDigit = Char.isDigit := rfl

section Values

variable {cs : List Char} (h : ∀ c ∈ cs, c.isDigit = true)
include h

theorem filterMap_digitValue? : cs.filterMap digitValue? = cs.map (·.toNat - 48) := by
  induction cs with
  | nil => rfl
  | cons c cs ih =>
    rw [List.filterMap_cons, digitValue?_of_isDigit (h c List.mem_cons_self),
      ih fun d hd => h d (List.mem_cons_of_mem c hd)]
    rfl

theorem mapM_digitValue? : cs.mapM digitValue? = some (cs.map (·.toNat - 48)) := by
  induction cs with
  | nil => rfl
  | cons c cs ih =>
    rw [List.mapM_cons, digitValue?_of_isDigit (h c List.mem_cons_self),
      ih fun d hd => h d (List.mem_cons_of_mem c hd)]
    rfl

theorem natOfDigits?_of_isDigit (hne : cs ≠ []) :
    natOfDigits? cs = some (Nat.ofDigitChars 10 cs 0) := by
  rw [natOfDigits?, if_neg (by simpa using hne), mapM_digitValue? h]
  simp [digitsValue, Nat.ofDigitChars_eq_foldl, List.foldl_map]

end Values

theorem digitsValue_map (cs : List Char) :
    digitsValue (cs.map (·.toNat - 48)) = Nat.ofDigitChars 10 cs 0 := by
  simp [digitsValue, Nat.ofDigitChars_eq_foldl, List.foldl_map]

theorem foldl_digits (ds : List Nat) (n : Nat) :
    ds.foldl (fun n d => 10 * n + d) n = n * 10 ^ ds.length + digitsValue ds := by
  induction ds generalizing n with
  | nil => simp [digitsValue]
  | cons d ds ih =>
    rw [digitsValue, List.foldl_cons, List.foldl_cons, ih, ih, List.length_cons]
    ring

theorem digitsValue_cons (d : Nat) (ds : List Nat) :
    digitsValue (d :: ds) = d * 10 ^ ds.length + digitsValue ds := by
  rw [digitsValue, List.foldl_cons, foldl_digits, Nat.mul_zero, Nat.zero_add]

theorem digitsValue_lt {ds : List Nat} (h : ∀ d ∈ ds, d < 10) :
    digitsValue ds < 10 ^ ds.length := by
  induction ds with
  | nil => decide
  | cons d ds ih =>
    have hd := h d List.mem_cons_self
    have hds := ih fun e he => h e (List.mem_cons_of_mem d he)
    rw [digitsValue_cons, List.length_cons, Nat.pow_succ]
    calc d * 10 ^ ds.length + digitsValue ds < d * 10 ^ ds.length + 10 ^ ds.length := by omega
      _ = (d + 1) * 10 ^ ds.length := by ring
      _ ≤ 10 * 10 ^ ds.length := Nat.mul_le_mul_right _ hd
      _ = 10 ^ ds.length * 10 := Nat.mul_comm _ _

theorem ofDigitChars_lt {cs : List Char} (h : ∀ c ∈ cs, c.isDigit = true) :
    Nat.ofDigitChars 10 cs 0 < 10 ^ cs.length := by
  rw [← digitsValue_map, ← List.length_map (f := fun c : Char => c.toNat - 48)]
  refine digitsValue_lt fun d hd => ?_
  obtain ⟨c, hc, rfl⟩ := List.mem_map.1 hd
  have := isDigit_iff.1 (h c hc)
  omega

end Text

end BoardQuery
