import BoardQuery.Proofs.Calendar.TextOrder
import BoardQuery.Proofs.Query.LeafTests

/-!
# Where a cell stands to an operand

A number, a day or a second as an operand divides all cells that can be compared into those before
it, those it stands for and those after it, and every comparison asks for one side or two of them
(`exists_position`). For days and seconds, which stand for a stretch of texts, this is so because
later moments are written as later texts (`Resolved.written_mono`).
-/

namespace BoardQuery

/-! ## Texts -/

namespace Cell

/-- Whether a cell stands before a text. -/
def isBelow (c : Cell) (s : String) : Bool :=
  c.compare? (.text s) == some .lt

variable {c : Cell} {s s' : String}

theorem isBelow_text {x : String} : (Cell.text x).isBelow s = true ↔ x < s := by
  simp [isBelow, compare?, compare_lt_iff_lt]

theorem isBelow_mono (h : s ≤ s') (hbelow : c.isBelow s = true) : c.isBelow s' = true := by
  cases c with
  | null => exact hbelow
  | int n => rfl
  | real x => rfl
  | text x =>
    rw [isBelow_text] at hbelow ⊢
    exact hbelow.trans_le h

theorem test_less_text (hc : c ≠ .null) :
    (Comparison.less.test c (.text s)).isYes = c.isBelow s
      ∧ (Comparison.greaterEqual.test c (.text s)).isYes = !c.isBelow s := by
  have hsome : ∃ o, c.compare? (.text s) = some o := by
    cases c <;> first | exact ⟨_, rfl⟩ | exact absurd rfl hc
  obtain ⟨o, ho⟩ := hsome
  simp only [Comparison.test, isBelow, ho, Truth.isYes_ofBool]
  cases o <;> exact ⟨rfl, rfl⟩

/-- The side of a stretch of texts on which a cell stands. -/
theorem stretchTest_position (hc : c ≠ .null) (h : s ≤ s') (o : Comparison) :
    ((stretchTest o (.text s) (.text s')).eval c).isYes
      = o.holds (if c.isBelow s then .lt else if c.isBelow s' then .eq else .gt) := by
  obtain ⟨hstart, hstart'⟩ := test_less_text (s := s) hc
  obtain ⟨hstop, hstop'⟩ := test_less_text (s := s') hc
  have hmono := isBelow_mono (c := c) h
  cases o <;>
    simp only [stretchTest, CellTest.eval, Truth.isYes_and, Truth.isYes_or, hstart, hstart', hstop,
      hstop'] <;>
    cases hbelow : c.isBelow s <;> cases hbelow' : c.isBelow s' <;>
    first | rfl | exact absurd (hmono hbelow) (by simp [hbelow'])

end Cell

/-! ## Moments -/

namespace Moment

variable {m n : Moment}

theorem instant_le_later (m : Moment) (micros : Nat) : m.instant ≤ (m.later micros).instant := by
  unfold later
  cases h : m.shift? micros with
  | none => exact le_rfl
  | some n =>
    rw [Option.getD_some, instant_of_shift? h]
    exact Nat.le_add_right ..

theorem instant_later {micros : Nat}
    (h : m.instant + micros < Date.daysBeforeYear (maxYear + 1) * microsPerDay) :
    (m.later micros).instant = m.instant + micros := by
  obtain ⟨n, hn⟩ := exists_shift? h
  rw [later, hn, Option.getD_some, instant_of_shift? hn]

theorem text_mono (h : m.instant ≤ n.instant) : m.date.text ≤ n.date.text := by
  rw [← not_lt, Date.text_lt_iff]
  exact fun hbefore => absurd (instant_lt_iff.2 (.inl hbefore)) (Nat.not_lt.2 h)

theorem secondText_mono (h : m.instant ≤ n.instant) : m.secondText ≤ n.secondText := by
  rw [← not_lt, secondText_lt_iff]
  intro hbefore
  refine absurd (instant_lt_iff.2 (hbefore.imp_right fun hsame => ⟨hsame.1, ?_⟩)) (Nat.not_lt.2 h)
  have hseconds := hsame.2
  simp only [seconds, microsPerSecond] at hseconds
  omega

theorem microText_mono (h : m.instant ≤ n.instant) : m.microText ≤ n.microText := by
  rw [← not_lt, microText_lt_iff]
  exact Nat.not_lt.2 h

end Moment

/-- Later moments are written as later texts. -/
theorem Resolved.written_mono (r : Resolved) {m n : Moment} (h : m.instant ≤ n.instant) :
    r.storage.written m ≤ r.storage.written n := by
  cases r with
  | native a => exact Moment.microText_mono h
  | column c t =>
    simp only [storage, Storage.ofColumn]
    split_ifs
    · exact Moment.text_mono h
    · exact Moment.secondText_mono h

/-- Every comparison with a number, a day or a second asks where the cell stands to it. -/
theorem exists_position {r : Resolved} {t : ColumnType} {op : Operator} {v : Operand} {c : Cell}
    (hfamily : t.family = .numeric ∨ t.family = .date) (hop : op.testsEmptiness = false)
    (hv : v.Formed t op) (hc : c.Comparable) :
    ∃ o, ∀ cmp, ((comparisonTest r.storage cmp v).eval c).isYes = cmp.holds o := by
  cases hv with
  | absent h => exact absurd (h.symm.trans hop) (by decide)
  | whole ht | part ht | choice ht | choices ht | user ht | users ht | labels ht | checked ht =>
    exact absurd hfamily (by simp [ht])
  | @number x _ _ hx =>
    obtain ⟨o, ho⟩ := Cell.exists_compare? hc (comparable_real hx)
    exact ⟨o, fun cmp => by
      rw [comparisonTest, CellTest.eval, Comparison.test, ho, Truth.isYes_ofBool]⟩
  | day => exact ⟨_, Cell.stretchTest_position hc.1 (r.written_mono (Moment.instant_le_later ..))⟩
  | second =>
    exact ⟨_, Cell.stretchTest_position hc.1 (r.written_mono (Moment.instant_le_later ..))⟩

end BoardQuery
