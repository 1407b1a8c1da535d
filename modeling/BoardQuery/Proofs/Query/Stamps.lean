import BoardQuery.Proofs.Query.Chronology

/-!
# Stamps of the clock

The store writes the stamps of its own clock without a fraction of a second, and bound ones with
it, but compares them as texts. At one moment the text of the clock is the beginning of the other,
so it comes first (`Stamp.compare_text`), and a condition, which asks for the start of a second with
its fraction, takes a stamp of the clock for one of the second before (`compared_stamps`).
-/

namespace BoardQuery

open FilterBuilder

namespace Moment

variable {m n : Moment}

/-- Moments to the second are written in their order, whatever follows them. -/
theorem secondChars_append_lt_iff (r r' : List Char) :
    m.date.chars ++ ' ' :: m.clockChars ++ r < n.date.chars ++ ' ' :: n.clockChars ++ r'
      ↔ m.instant / microsPerSecond < n.instant / microsPerSecond
        ∨ m.instant / microsPerSecond = n.instant / microsPerSecond ∧ r < r' := by
  have hm := m.micros_lt
  have hn := n.micros_lt
  rw [List.append_assoc, List.append_assoc, Date.chars_append_lt_iff, List.cons_append,
    List.cons_append, List.cons_lt_cons_iff, clockChars_append_lt_iff, ← Date.number_lt_iff,
    ← Date.number_injective.eq_iff]
  simp only [instant, seconds, microsPerDay, microsPerSecond, lt_irrefl, false_or, true_and]
    at hm hn ⊢
  by_cases hr : r < r'
  · simp only [hr, and_true]
    omega
  · simp only [hr, and_false, or_false]
    omega

theorem secondText_lt_microText_iff : m.secondText < n.microText
    ↔ m.instant / microsPerSecond ≤ n.instant / microsPerSecond := by
  have h := secondChars_append_lt_iff (m := m) (n := n) [] n.fractionChars
  have hfraction : [] < n.fractionChars := List.nil_lt_cons ..
  rw [List.append_nil] at h
  rw [String.lt_iff, secondText, microText, String.toList_ofList, String.toList_ofList, h,
    and_iff_left hfraction, ← Nat.le_iff_lt_or_eq]

theorem microText_lt_secondText_iff : m.microText < n.secondText
    ↔ m.instant / microsPerSecond < n.instant / microsPerSecond := by
  have h := secondChars_append_lt_iff (m := m) (n := n) m.fractionChars []
  rw [List.append_nil] at h
  rw [String.lt_iff, secondText, microText, String.toList_ofList, String.toList_ofList, h]
  simp

theorem instant_injective : Function.Injective instant := fun m n h => by
  have hm := m.micros_lt
  have hn := n.micros_lt
  have hdate : m.date = n.date := by
    refine Date.number_injective ?_
    simp only [instant, microsPerDay, microsPerSecond] at h hm hn
    omega
  obtain ⟨date, micros, hmicros⟩ := m
  obtain ⟨date', micros', hmicros'⟩ := n
  obtain rfl : date = date' := hdate
  obtain rfl : micros = micros' := Nat.add_left_cancel h
  rfl

end Moment

/-! ## Stamps -/

/-- The times that every task carries. -/
inductive StampKind where
  | creation
  | change

def StampKind.attribute : StampKind → Attribute
  | .creation => .createdAt
  | .change => .updatedAt

def Task.stamp (t : Task) : StampKind → Stamp
  | .creation => t.createdAt
  | .change => t.updatedAt

namespace Stamp

/-- The whole second for which a condition takes a stamp: one of the clock counts as one of the
second before. -/
def second (s : Stamp) : Int :=
  s.moment.instant / microsPerSecond - if s.byClock then 1 else 0

/-- Whether a stamp holds no fraction that its text would lack. -/
def Whole (s : Stamp) : Prop :=
  s.byClock = true → s.moment.wholeSecond = s.moment

theorem whole_ofClock (now : Moment) : (ofClock now).Whole :=
  fun _ => Moment.wholeSecond_wholeSecond now

theorem Whole.instant {s : Stamp} (h : s.Whole) (hclock : s.byClock = true) :
    s.moment.instant = s.moment.instant / microsPerSecond * microsPerSecond := by
  have hfloor := s.moment.instant_floor .datetime
  rwa [show s.moment.floor .datetime = s.moment from h hclock] at hfloor

section Order

variable {s s' : Stamp} (h : s.Whole) (h' : s'.Whole)

include h h'

theorem text_lt_iff : s.text < s'.text ↔ s.moment.instant < s'.moment.instant
    ∨ s.moment.instant = s'.moment.instant ∧ s.byClock = true ∧ s'.byClock = false := by
  unfold text
  split_ifs with hclock hclock' hclock'
  · have hm := h.instant hclock
    have hn := h'.instant hclock'
    rw [Moment.secondText_lt_iff']
    simp only [hclock', Bool.true_eq_false, and_false, or_false, microsPerSecond] at hm hn ⊢
    omega
  · have hm := h.instant hclock
    rw [Moment.secondText_lt_microText_iff]
    simp only [hclock, hclock', and_true, microsPerSecond] at hm ⊢
    omega
  · have hn := h'.instant hclock'
    rw [Moment.microText_lt_secondText_iff]
    simp only [hclock, Bool.false_eq_true, false_and, and_false, or_false, microsPerSecond] at hn ⊢
    omega
  · simp only [Moment.microText_lt_iff, hclock, Bool.false_eq_true, false_and, and_false, or_false]

theorem text_eq_iff : s.text = s'.text
    ↔ s.moment.instant = s'.moment.instant ∧ s.byClock = s'.byClock := by
  have hlt := text_lt_iff h h'
  have hgt := text_lt_iff h' h
  constructor
  · intro htext
    have hnlt := hlt.not.1 (htext ▸ lt_irrefl _)
    have hngt := hgt.not.1 (htext ▸ lt_irrefl _)
    have hsame : s.moment.instant = s'.moment.instant := by omega
    cases hclock : s.byClock <;> cases hclock' : s'.byClock <;> simp_all
  · rintro ⟨hsame, hclock⟩
    rw [text, text, hclock, Moment.instant_injective hsame]

/-- Stamps stand as their moments do, and at one moment those of the clock come first. -/
theorem compare_text : compare s.text s'.text
    = (compare s.moment.instant s'.moment.instant).then (compare s'.byClock s.byClock) := by
  have hlt := text_lt_iff h h'
  have hgt := text_lt_iff h' h
  rcases lt_trichotomy s.moment.instant s'.moment.instant with hbefore | hsame | hafter
  · rw [compare_lt_iff_lt.2 hbefore, compare_lt_iff_lt.2 (hlt.2 (.inl hbefore))]
    rfl
  · rw [compare_eq_iff_eq.2 hsame]
    cases hclock : s.byClock <;> cases hclock' : s'.byClock
    case false.false | true.true =>
      exact compare_eq_iff_eq.2 ((text_eq_iff h h').2 ⟨hsame, hclock.trans hclock'.symm⟩)
    case false.true => exact compare_gt_iff_gt.2 (hgt.2 (.inr ⟨hsame.symm, hclock', hclock⟩))
    case true.false => exact compare_lt_iff_lt.2 (hlt.2 (.inr ⟨hsame, hclock, hclock'⟩))
  · rw [compare_gt_iff_gt.2 hafter, compare_gt_iff_gt.2 (hgt.2 (.inl hafter))]
    rfl

end Order

/-- A stamp is below the start of a second if it is taken for one of an earlier second. -/
theorem text_lt_start {s : Stamp} {start : Moment} {n : Nat}
    (hstart : start.instant = n * microsPerSecond) :
    s.text < start.microText ↔ s.second < n := by
  have hpos : 0 < microsPerSecond := by decide
  unfold text second
  split_ifs
  · rw [Moment.secondText_lt_microText_iff, hstart, Nat.mul_div_cancel _ hpos, ← Int.natCast_ediv]
    omega
  · rw [Moment.microText_lt_iff, hstart, ← Nat.div_lt_iff_lt_mul hpos, ← Int.natCast_ediv]
    omega

/-- The side of a second on which a stamp stands. -/
theorem stretch_position {a : Attribute} (s : Stamp) {m : Moment} (hm : dateWithinBounds m = true)
    (cmp : Comparison) :
    ((comparisonTest (.ofAttribute a) cmp (.second m.wholeSecond)).eval (.text s.text)).isYes
      = cmp.holds (compare s.second (m.instant / microsPerSecond)) := by
  have hstart := s.text_lt_start (m.instant_floor .datetime)
  have hstop := s.text_lt_start (Moment.instant_later_floor (t := .datetime) hm)
  have htest : comparisonTest (.ofAttribute a) cmp (.second m.wholeSecond)
      = stretchTest cmp (.text (m.floor .datetime).microText)
        (.text ((m.floor .datetime).later microsPerSecond).microText) :=
    comparisonTest_floor (.ofAttribute a) cmp .datetime
  rw [htest, Cell.stretchTest_position Cell.noConfusion
    (Moment.microText_mono (Moment.instant_le_later _ _))]
  have hgrain : ColumnType.datetime.grain = microsPerSecond := rfl
  rw [hgrain] at hstart hstop
  simp only [Cell.isBelow_text, hstart, hstop, ← Int.natCast_ediv]
  rcases lt_trichotomy s.second (m.instant / microsPerSecond : Nat) with h | h | h
  · rw [if_pos h, compare_lt_iff_lt.2 h]
  · rw [if_neg (by omega), if_pos (by omega), compare_eq_iff_eq.2 h]
  · rw [if_neg (by omega), if_neg (by omega), compare_gt_iff_gt.2 h]

end Stamp

/-! ## Conditions on stamps -/

theorem Task.cell_stamp (t : Task) (k : StampKind) :
    t.cell k.attribute = .text (t.stamp k).text := by
  cases k <;> rfl

section Conditions

variable {env : Surroundings} {schema : BoardSchema} {stale : Bool} {path : String}
  {fields : Fields} {l : Leaf String Operand} {cmp : Comparison} {k : StampKind}

theorem resolve_stamp (k : StampKind) :
    resolve (some schema) k.attribute.name = some (.native k.attribute) := by
  cases k <;> rfl

/-- A comparison of stamps is one of whole seconds, but takes those of the clock for one second
earlier. -/
theorem compared_stamps
    (hbuilt : buildLeaf ⟨env, resolve (some schema), stale⟩ path fields = .ok l)
    (hwritten : Fields.get fields "column_type" = .str "date"
      ∨ Fields.get fields "column_type" = .str "datetime")
    (hcolumn : l.column = k.attribute.name) (hop : l.operator.comparison? = some cmp) :
    ∃ z, (Fields.get fields "value").stated? env.now = some z ∧ ∀ s archived t,
      t ∈ selectTasks s schema archived (Selection.ofLeaf schema l).condition
        ↔ t ∈ s.tasks ∧ inScope schema archived t = true
          ∧ cmp.holds (compare (t.stamp k).second (z.instant / microsPerSecond)) = true := by
  have hresolve : resolve (some schema) l.column = some (.native k.attribute) :=
    hcolumn ▸ resolve_stamp k
  have hattribute : k.attribute.columnType = .datetime := by
    cases k <;> rfl
  obtain ⟨htype, m, hread, hm, hoperand⟩ := buildLeaf_dates hbuilt hwritten hresolve
    (congrArg ColumnType.family hattribute) hop
  obtain ⟨z, hz, hinstant⟩ := stated_of_toMoment? hread
  rw [Resolved.columnType, hattribute, if_neg (by decide)] at hoperand
  refine ⟨z, hz, fun s archived t => ?_⟩
  have hselects : (leafCondition (.native k.attribute) l.operator l.operand).selects s t
      = cmp.holds (compare (t.stamp k).second (z.instant / microsPerSecond)) := by
    rw [← hinstant, ← (t.stamp k).stretch_position hm, ← t.cell_stamp k, ← hoperand,
      ← operatorTest_comparison hop]
    rfl
  rw [selectTasks, List.mem_filter, Bool.and_eq_true, Selection.ofLeaf, hresolve, htype]
  simp only [Resolved.columnType, beq_self_eq_true, if_true, Option.all_some, hselects]

end Conditions

end BoardQuery
