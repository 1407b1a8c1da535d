import BoardQuery.Json.Writer
import BoardQuery.Proofs.Number.ReadBack
import Mathlib.Data.List.TakeWhile

/-!
# Numbers in documents

The text of a number inside a document is read as the number it was written for
(`readNumberTail_magnitude`, `readNumberTail_toDigits`). What follows a number is the end, a comma
or a closing bracket, none of which can belong to it.
-/

namespace BoardQuery

namespace Json

open Text Decimal

/-- What can stand after a value. -/
def Ends (rest : List Char) : Prop :=
  ∀ c ∈ rest.head?, c = ',' ∨ c = ']' ∨ c = '\x7d'

section Digits

variable {ds rest : List Char} (hds : ∀ c ∈ ds, c.isDigit = true)
  (hrest : ∀ c ∈ rest.head?, c.isDigit = false)
include hds hrest

theorem takeWhile_digits : (ds ++ rest).takeWhile isAsciiDigit = ds := by
  rw [isAsciiDigit_eq, List.takeWhile_append_of_pos hds]
  rcases rest with _ | ⟨c, cs⟩
  · simp
  · rw [List.takeWhile_cons_of_neg (by simp [hrest c rfl]), List.append_nil]

theorem dropWhile_digits : (ds ++ rest).dropWhile isAsciiDigit = rest := by
  rw [isAsciiDigit_eq, List.dropWhile_append_of_pos hds]
  rcases rest with _ | ⟨c, cs⟩
  · rfl
  · rw [List.dropWhile_cons_of_neg (by simp [hrest c rfl])]

end Digits

theorem Ends.not_isDigit {rest : List Char} (h : Ends rest) :
    ∀ c ∈ rest.head?, c.isDigit = false := by
  intro c hc
  rcases h c hc with rfl | rfl | rfl <;> rfl

theorem Ends.spanExponent {rest : List Char} (h : Ends rest) : spanExponent rest = none := by
  rcases rest with _ | ⟨c, cs⟩
  · rfl
  · rcases h c rfl with rfl | rfl | rfl <;> rfl

theorem Ends.spanFraction {rest : List Char} (h : Ends rest) : spanFraction rest = none := by
  rcases rest with _ | ⟨c, cs⟩
  · rfl
  · rcases h c rfl with rfl | rfl | rfl <;> rfl

/-- The digits of a number before the point: one zero, or digits that start with another one. -/
def IsWhole (whole : List Char) : Prop :=
  (∀ c ∈ whole, c.isDigit = true) ∧ (whole = ['0'] ∨ ∃ c cs, whole = c :: cs ∧ c ≠ '0')

theorem IsWhole.ne_nil {whole : List Char} (h : IsWhole whole) : whole ≠ [] := by
  rcases h.2 with rfl | ⟨c, cs, rfl, -⟩ <;> simp

/-- What the reader makes of a number whose digits before the point have been split off. -/
def numberAfter (negative : Bool) (whole rest : List Char) : Except ReadError (Json × List Char) :=
  let fraction := spanFraction rest
  let rest := (fraction.map (·.2)).getD rest
  let exponent := spanExponent rest
  let rest := (exponent.map (·.2)).getD rest
  if fraction.isNone && exponent.isNone then
    if maxIntegerDigits < whole.length then .error (.integerTooLong whole.length)
    else
      let n := (natOfDigits? whole).getD 0
      .ok (.int (if negative then -(n : Int) else n), rest)
  else
    let fractionDigits := (fraction.map (·.1)).getD []
    let digits := (whole ++ fractionDigits).filterMap digitValue?
    .ok (.num (.ofDigits negative digits ((exponent.map (·.1)).getD 0 - fractionDigits.length)),
      rest)

theorem readNumberTail_append {whole rest : List Char} (hw : IsWhole whole)
    (hrest : ∀ c ∈ rest.head?, c.isDigit = false) (negative : Bool) :
    readNumberTail negative (whole ++ rest) = numberAfter negative whole rest := by
  have hempty : whole.isEmpty = false := by simpa using hw.ne_nil
  rcases hw with ⟨hdigits, rfl | ⟨c, cs, rfl, hc⟩⟩
  · rfl
  · have htake := takeWhile_digits hdigits hrest
    have hdrop := dropWhile_digits hdigits hrest
    rw [List.cons_append] at htake hdrop ⊢
    unfold readNumberTail numberAfter
    simp only [htake, hdrop]
    split
    case h_1 heq => exact absurd (List.cons.inj heq).1 hc
    case h_2 => simp only [hempty]; rfl

theorem filterMap_digits {whole fraction : List Char} (hw : ∀ c ∈ whole, c.isDigit = true)
    (hf : ∀ c ∈ fraction, c.isDigit = true) :
    (whole ++ fraction).filterMap digitValue? = (whole ++ fraction).map (·.toNat - 48) :=
  filterMap_digitValue? fun c hc => (List.mem_append.1 hc).elim (hw c) (hf c)

theorem numberAfter_integer {whole rest : List Char} (hw : IsWhole whole)
    (hlen : whole.length ≤ maxIntegerDigits) (hrest : Ends rest) (negative : Bool) :
    numberAfter negative whole rest = .ok (.int (if negative then
      -(Nat.ofDigitChars 10 whole 0 : Int) else Nat.ofDigitChars 10 whole 0), rest) := by
  simp [numberAfter, hrest.spanFraction, hrest.spanExponent, Nat.not_lt.2 hlen,
    natOfDigits?_of_isDigit hw.1 hw.ne_nil]

theorem spanFraction_point {fraction rest : List Char} (hf : ∀ c ∈ fraction, c.isDigit = true)
    (hne : fraction ≠ []) (hrest : ∀ c ∈ rest.head?, c.isDigit = false) :
    spanFraction ('.' :: (fraction ++ rest)) = some (fraction, rest) := by
  simp [spanFraction, takeWhile_digits hf hrest, dropWhile_digits hf hrest, hne]

theorem numberAfter_point {whole fraction rest : List Char} (hw : IsWhole whole)
    (hf : ∀ c ∈ fraction, c.isDigit = true) (hne : fraction ≠ []) (hrest : Ends rest)
    (negative : Bool) :
    numberAfter negative whole ('.' :: (fraction ++ rest))
      = .ok (.num (.ofDigits negative ((whole ++ fraction).map (·.toNat - 48))
        (-fraction.length)), rest) := by
  simp only [numberAfter, spanFraction_point hf hne hrest.not_isDigit, Option.map_some,
    Option.getD_some, hrest.spanExponent, Option.isNone_some, Bool.false_and,
    filterMap_digits hw.1 hf]
  simp

/-- The sign of a written exponent. -/
def exponentSign (e : Int) : Char :=
  if e < 0 then '-' else '+'

theorem spanExponent_written {places rest : List Char} {e : Int}
    (hp : ∀ c ∈ places, c.isDigit = true) (hne : places ≠ [])
    (hval : Nat.ofDigitChars 10 places 0 = e.natAbs) (hrest : Ends rest) :
    spanExponent ('e' :: exponentSign e :: (places ++ rest)) = some (e, rest) := by
  have hread := natOfDigits?_of_isDigit hp hne
  rw [hval] at hread
  rcases lt_or_ge e 0 with he | he
  · simp [spanExponent, exponentSign, he, splitSign, takeWhile_digits hp hrest.not_isDigit,
      dropWhile_digits hp hrest.not_isDigit, hread, abs_of_neg he]
  · simp [spanExponent, exponentSign, not_lt.2 he, splitSign,
      takeWhile_digits hp hrest.not_isDigit, dropWhile_digits hp hrest.not_isDigit, hread,
      abs_of_nonneg he]

/-- A number with an exponent, and a fraction if there is one. -/
theorem numberAfter_scientific {whole fraction places rest : List Char} {e : Int}
    (hw : IsWhole whole) (hf : ∀ c ∈ fraction, c.isDigit = true)
    (hp : ∀ c ∈ places, c.isDigit = true) (hne : places ≠ [])
    (hval : Nat.ofDigitChars 10 places 0 = e.natAbs) (hrest : Ends rest) (negative : Bool) :
    numberAfter negative whole ((if fraction.isEmpty then [] else '.' :: fraction)
        ++ 'e' :: exponentSign e :: (places ++ rest))
      = .ok (.num (.ofDigits negative ((whole ++ fraction).map (·.toNat - 48))
        (e - fraction.length)), rest) := by
  have hexp := spanExponent_written hp hne hval hrest
  rcases fraction with _ | ⟨c, cs⟩
  · have hfraction : spanFraction ('e' :: exponentSign e :: (places ++ rest)) = none := rfl
    simp [numberAfter, hfraction, hexp, filterMap_digitValue? hw.1]
  · have hfraction : spanFraction ('.' :: (c :: cs ++ 'e' :: exponentSign e :: (places ++ rest)))
        = some (c :: cs, 'e' :: exponentSign e :: (places ++ rest)) :=
      spanFraction_point hf (by simp) (by simp)
    simp only [List.isEmpty_cons, Bool.false_eq_true, if_false, List.cons_append] at hfraction ⊢
    simp only [numberAfter, hfraction, hexp, Option.map_some, Option.getD_some,
      Option.isNone_some, Bool.false_and, Bool.false_eq_true, if_false]
    rw [filterMap_digits hw.1 hf]

/-! ## Doubles -/

theorem ofDigits_of_value {d : Decimal} {code : Nat} (hcode : 0 < code) (hfin : code < infinityCode)
    (h : (Interval.ofCode code).Contains d.value) {cs : List Char}
    (hcs : ∀ c ∈ cs, c.isDigit = true) {e : Int}
    (hval : (Nat.ofDigitChars 10 cs 0 : ℚ) * 10 ^ e = d.value) (negative : Bool) :
    Binary64.ofDigits negative (cs.map (·.toNat - 48)) e = .ofCode negative code := by
  refine ofDigits_of_contains (fun n hn => ?_) hcode hfin ?_ negative
  · obtain ⟨c, hc, rfl⟩ := List.mem_map.1 hn
    have := isDigit_iff.1 (hcs c hc)
    omega
  · rwa [digitsValue_map, hval]

/-- The digits before and after the point have the value of the decimal, with zeros up to the point
or behind it. -/
theorem value_of_point {d : Decimal} {n : Nat} (hn : (n : Int) = d.exponent + 1)
    {fraction : List Char}
    (hfraction : fraction = if (d.digits.drop n).isEmpty then ['0'] else d.digits.drop n) :
    (Nat.ofDigitChars 10
        (d.digits.take n ++ List.replicate (n - d.digits.length) '0' ++ fraction) 0 : ℚ)
      * 10 ^ (-(fraction.length : Int)) = d.value := by
  rcases Nat.lt_or_ge n d.digits.length with hlen | hlen
  · have hdrop : (d.digits.drop n).isEmpty = false := by simp [hlen]
    have hall : d.digits.take n ++ List.replicate (n - d.digits.length) '0' ++ fraction
        = d.digits := by
      rw [hfraction, hdrop, Nat.sub_eq_zero_of_le hlen.le]
      simp
    have hexp : -(fraction.length : Int) = d.exponent + 1 - d.digits.length := by
      rw [hfraction, hdrop]
      simp only [Bool.false_eq_true, if_false, List.length_drop]
      omega
    rw [hall, hexp]
    rfl
  · have hdrop : (d.digits.drop n).isEmpty = true := by simp [hlen]
    have hall : d.digits.take n ++ List.replicate (n - d.digits.length) '0' ++ fraction
        = d.digits ++ List.replicate (n - d.digits.length + 1) '0' := by
      rw [hfraction, hdrop, List.take_of_length_le hlen, List.replicate_succ']
      simp
    have hexp : d.exponent + 1 - d.digits.length
        = ((n - d.digits.length + 1 : Nat) : Int) + -(fraction.length : Int) := by
      rw [hfraction, hdrop]
      simp only [if_true, List.length_singleton]
      omega
    rw [hall, value, hexp, Nat.ofDigitChars_append, Nat.ofDigitChars_replicate_zero,
      zpow_add₀ (by norm_num), zpow_natCast]
    push_cast
    ring

section Texts

variable {d : Decimal} (hd : d.Proper) {code : Nat} (hcode : 0 < code) (hfin : code < infinityCode)
  (h : (Interval.ofCode code).Contains d.value) {rest : List Char} (hrest : Ends rest)
  (negative : Bool)
include hd hcode hfin h hrest

theorem readNumberTail_positional_of_neg (he : d.exponent < 0) :
    readNumberTail negative (NumberStyle.positional d ++ rest)
      = .ok (.num (.ofCode negative code), rest) := by
  obtain ⟨c, cs, hcs, hc⟩ := hd.head
  set zeros := List.replicate (-d.exponent - 1).toNat '0' with hzeros
  have hw : IsWhole ['0'] := ⟨by simp, .inl rfl⟩
  have hf : ∀ c ∈ zeros ++ d.digits, c.isDigit = true := by
    intro c hc
    rcases List.mem_append.1 hc with hc | hc
    · rw [List.eq_of_mem_replicate hc]
      rfl
    · exact hd.isDigit c hc
  have hne : zeros ++ d.digits ≠ [] := by simp [hcs]
  have htext : NumberStyle.positional d ++ rest = ['0'] ++ '.' :: (zeros ++ d.digits ++ rest) := by
    simp [NumberStyle.positional, he, hzeros]
  rw [htext, readNumberTail_append hw (by simp), numberAfter_point hw hf hne hrest]
  rw [ofDigits_of_value hcode hfin h (fun c hc => (List.mem_append.1 hc).elim (hw.1 c) (hf c))]
  rw [Nat.ofDigitChars_append, Nat.ofDigitChars_append, hzeros, Nat.ofDigitChars_replicate_zero]
  have hexp : -((zeros ++ d.digits).length : Int) = d.exponent + 1 - d.digits.length := by
    simp only [hzeros, List.length_append, List.length_replicate]
    omega
  rw [← hzeros, hexp]
  rfl

theorem readNumberTail_positional_of_nonneg (he : ¬ d.exponent < 0) :
    readNumberTail negative (NumberStyle.positional d ++ rest)
      = .ok (.num (.ofCode negative code), rest) := by
  obtain ⟨c, cs, hcs, hc⟩ := hd.head
  set n := d.exponent.toNat + 1 with hn
  set zeros := List.replicate (n - d.digits.length) '0' with hzeros
  set fraction := if (d.digits.drop n).isEmpty then ['0'] else d.digits.drop n with hfraction
  have hw : IsWhole (d.digits.take n ++ zeros) := by
    refine ⟨fun x hx => ?_, .inr ⟨c, cs.take (n - 1) ++ zeros, ?_, hc⟩⟩
    · rcases List.mem_append.1 hx with hx | hx
      · exact hd.isDigit x (List.mem_of_mem_take hx)
      · rw [List.eq_of_mem_replicate hx]
        rfl
    · rw [hcs, hn]
      rfl
  have hf : ∀ c ∈ fraction, c.isDigit = true := by
    intro x hx
    rw [hfraction] at hx
    split_ifs at hx
    · rw [List.mem_singleton.1 hx]
      rfl
    · exact hd.isDigit x (List.mem_of_mem_drop hx)
  have hne : fraction ≠ [] := by
    rw [hfraction]
    split_ifs with hempty
    · simp
    · simpa using hempty
  have htext : NumberStyle.positional d ++ rest
      = d.digits.take n ++ zeros ++ '.' :: (fraction ++ rest) := by
    simp [NumberStyle.positional, he, hzeros, hfraction, hn]
  rw [htext, readNumberTail_append hw (by simp), numberAfter_point hw hf hne hrest]
  rw [ofDigits_of_value hcode hfin h (fun c hc => (List.mem_append.1 hc).elim (hw.1 c) (hf c))]
  exact value_of_point (by omega) hfraction

theorem readNumberTail_scientific :
    readNumberTail negative (NumberStyle.document.scientific d ++ rest)
      = .ok (.num (.ofCode negative code), rest) := by
  obtain ⟨c, cs, hcs, hc⟩ := hd.head
  set places := List.replicate (2 - (Nat.toDigits 10 d.exponent.natAbs).length) '0'
    ++ Nat.toDigits 10 d.exponent.natAbs with hplaces
  have hw : IsWhole [c] := by
    refine ⟨fun x hx => hd.isDigit x ?_, .inr ⟨c, [], rfl, hc⟩⟩
    rw [hcs, List.mem_singleton.1 hx]
    exact List.mem_cons_self
  have hf : ∀ c ∈ cs, c.isDigit = true := fun x hx =>
    hd.isDigit x (hcs ▸ List.mem_cons_of_mem c hx)
  have hp : ∀ c ∈ places, c.isDigit = true := by
    intro x hx
    rcases List.mem_append.1 hx with hx | hx
    · rw [List.eq_of_mem_replicate hx]
      rfl
    · exact isDigit_of_mem_toDigits hx
  have hne : places ≠ [] := by simp [hplaces, Nat.toDigits_ne_nil]
  have hval : Nat.ofDigitChars 10 places 0 = d.exponent.natAbs := by
    rw [hplaces, Nat.ofDigitChars_append, Nat.ofDigitChars_replicate_zero, Nat.mul_zero,
      Nat.ofDigitChars_ten_toDigits]
  have htext : NumberStyle.document.scientific d ++ rest
      = [c] ++ ((if cs.isEmpty then [] else '.' :: cs)
        ++ 'e' :: exponentSign d.exponent :: (places ++ rest)) := by
    simp [NumberStyle.scientific, NumberStyle.document, hcs, hplaces, exponentSign]
  rw [htext, readNumberTail_append hw (by rcases cs with _ | ⟨x, xs⟩ <;> simp),
    numberAfter_scientific hw hf hp hne hval hrest]
  rw [ofDigits_of_value hcode hfin h (fun c hc => (List.mem_append.1 hc).elim (hw.1 c) (hf c))]
  have hexp : d.exponent - (cs.length : Int) = d.exponent + 1 - d.digits.length := by
    rw [hcs, List.length_cons]
    omega
  rw [hexp, List.singleton_append, ← hcs]
  rfl

end Texts

/-- The text of a finite double without its sign is read as that double. -/
theorem readNumberTail_magnitude {code : Nat} (hfin : code < infinityCode) {rest : List Char}
    (hrest : Ends rest) (negative : Bool) :
    readNumberTail negative (NumberStyle.document.magnitude code ++ rest)
      = .ok (.num (.ofCode negative code), rest) := by
  rcases Nat.eq_zero_or_pos code with rfl | hcode
  · have hw : IsWhole ['0'] := ⟨by simp, .inl rfl⟩
    exact (readNumberTail_append hw (by simp) negative).trans
      (numberAfter_point hw hw.1 hw.ne_nil hrest negative)
  · obtain ⟨hproper, hcontains⟩ := shortest_contains hcode hfin
    have hdigits : NumberStyle.document.digits code = shortest code := rfl
    rw [NumberStyle.magnitude, if_neg (by simpa using hcode.ne'), if_neg (by simpa using hfin.ne)]
    simp only [hdigits]
    split_ifs
    · by_cases he : (shortest code).exponent < 0
      · exact readNumberTail_positional_of_neg hproper hcode hfin hcontains hrest negative he
      · exact readNumberTail_positional_of_nonneg hproper hcode hfin hcontains hrest negative he
    · exact readNumberTail_scientific hproper hcode hfin hcontains hrest negative

end Json

end BoardQuery
