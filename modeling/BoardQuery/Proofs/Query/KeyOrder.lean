import BoardQuery.Query.Page
import Mathlib.Order.Basic

/-!
# The order of rows

Cells other than NaN are in a total order, by kind, number and text, and so are the rows of a
listing (`TaskOrder.keyOrder`). Sorting puts rows in this order, and the three-way test by which a
page continues after a cursor says the same as the order does (`TaskOrder.isAfter_iff`).
-/

namespace BoardQuery

open Std

namespace Cell

/-- Whether a cell is one that the store can order: an integer that it can hold, and not NaN. -/
def Sound : Cell → Prop
  | .int n => fitsInteger n = true
  | .real x => x ≠ .nan
  | _ => True

/-- The value of a number in units, and zero for every other cell. -/
def magnitude (c : Cell) : Int :=
  c.units?.getD 0

def words : Cell → String
  | .text s => s
  | _ => ""

/-- The total order of cells. -/
def order : Cell → Cell → Ordering :=
  compareLex (compareOn rank) (compareLex (compareOn magnitude) (compareOn words))

instance : TransCmp order := by
  unfold order
  infer_instance

theorem order_swap (a b : Cell) : a.order b = (b.order a).swap :=
  OrientedCmp.eq_swap

theorem sorted_eq_order {a b : Cell} (ha : a.Sound) (hb : b.Sound) : a.sorted b = a.order b := by
  rcases a with _ | m | (_ | ⟨sm, cm, lm⟩) | s <;> rcases b with _ | n | (_ | ⟨sn, cn, ln⟩) | t <;>
    first | exact absurd rfl ha | exact absurd rfl hb | skip
  all_goals
    simp [sorted, compare?, order, compareLex, compareOn, rank, magnitude, units?,
      Binary64.units?, words, compare_self]
  all_goals rfl

theorem isNull_iff {c : Cell} : c.isNull = true ↔ c = .null := by
  cases c <;> simp [isNull]

/-- Two cells of which neither is nothing are compared in their order. -/
theorem compare?_eq_order {a b : Cell} (ha : a.Sound) (hb : b.Sound) (hna : a.isNull = false)
    (hnb : b.isNull = false) : a.compare? b = some (a.order b) := by
  rw [← sorted_eq_order ha hb]
  rcases a with _ | m | (_ | ⟨sm, cm, lm⟩) | s <;> rcases b with _ | n | (_ | ⟨sn, cn, ln⟩) | t <;>
    first
    | rfl
    | exact absurd rfl ha
    | exact absurd rfl hb
    | exact Bool.noConfusion hna
    | exact Bool.noConfusion hnb

end Cell

namespace TaskOrder

variable (o : TaskOrder)

/-- Whether a row is one that the order can place: its flag says whether it has a value, and its
value can be ordered. -/
def Places (k : RowKey) : Prop :=
  k.flag = o.flag k.value ∧ k.value.Sound

theorem rowKey_places {s : Store} {t : Task} (h : (o.cell s t).Sound) : o.Places (o.rowKey s t) :=
  ⟨rfl, h⟩

/-- The order of rows by their values alone. -/
def valueOrder (a b : RowKey) : Ordering :=
  if o.descending then b.value.order a.value else a.value.order b.value

instance : TransCmp o.valueOrder where
  eq_swap {a b} := by
    unfold valueOrder
    split_ifs
    · exact OrientedCmp.eq_swap
    · exact OrientedCmp.eq_swap
  isLE_trans {a b c} hab hbc := by
    unfold valueOrder at *
    split_ifs at *
    · exact TransCmp.isLE_trans hbc hab
    · exact TransCmp.isLE_trans hab hbc

/-- The total order of rows. -/
def keyOrder : RowKey → RowKey → Ordering :=
  compareLex (compareOn RowKey.flag) (compareLex o.valueOrder (compareOn RowKey.id))

instance : TransCmp o.keyOrder := by
  unfold keyOrder
  infer_instance

theorem keyOrder_self (a : RowKey) : o.keyOrder a a = .eq :=
  ReflCmp.compare_self

theorem keyOrder_swap (a b : RowKey) : o.keyOrder a b = (o.keyOrder b a).swap :=
  OrientedCmp.eq_swap

theorem compareRows_eq {a b : RowKey} (ha : a.value.Sound) (hb : b.value.Sound) :
    o.compareRows a b = o.keyOrder a b := by
  unfold compareRows compareCells keyOrder valueOrder
  simp only [compareLex, compareOn, Cell.sorted_eq_order ha hb, Cell.sorted_eq_order hb ha]

/-- Rows that stand at one place are rows of one task. -/
theorem id_eq_of_keyOrder_eq {a b : RowKey} (h : o.keyOrder a b = .eq) : a.id = b.id := by
  simp only [keyOrder, compareLex, Ordering.then_eq_eq, compareOn] at h
  exact Std.LawfulEqCmp.compare_eq_iff_eq.1 h.2.2

/-! ## Sorting -/

variable {o}

theorem sortRows_perm (s : Store) (tasks : List Task) :
    (o.sortRows s tasks).Perm (tasks.map fun t => (t, o.rowKey s t)) :=
  List.mergeSort_perm _ _

/-- The rows of some tasks in order. -/
theorem sortRows_pairwise {s : Store} {tasks : List Task} (hids : (tasks.map (·.id)).Nodup)
    (hsound : ∀ t ∈ tasks, (o.cell s t).Sound) :
    (o.sortRows s tasks).Pairwise fun a b => o.keyOrder a.2 b.2 = .lt := by
  have hcongr : o.sortRows s tasks = (tasks.map fun t => (t, o.rowKey s t)).mergeSort
      fun a b => (o.keyOrder a.2 b.2).isLE := by
    have hmap := List.map_mergeSort (f := id) (l := tasks.map fun t => (t, o.rowKey s t))
      (r := fun a b => o.compareRows a.2 b.2 != .gt) (s := fun a b => (o.keyOrder a.2 b.2).isLE)
      fun a ha b hb => by
        obtain ⟨t, ht, rfl⟩ := List.mem_map.1 ha
        obtain ⟨u, hu, rfl⟩ := List.mem_map.1 hb
        rw [compareRows_eq o (hsound t ht) (hsound u hu)]
        simp only [id]
        cases o.keyOrder (o.rowKey s t) (o.rowKey s u) <;> rfl
    simpa [sortRows] using hmap
  have hsorted := @List.pairwise_mergeSort _ (fun a b : Task × RowKey =>
    (o.keyOrder a.2 b.2).isLE) (fun _ _ _ => TransCmp.isLE_trans) (fun a b => by
      rw [o.keyOrder_swap b.2]
      cases o.keyOrder a.2 b.2 <;> rfl) (tasks.map fun t => (t, o.rowKey s t))
  rw [← hcongr] at hsorted
  have hnodup : ((o.sortRows s tasks).map (·.2.id)).Nodup := by
    rw [((sortRows_perm s tasks).map _).nodup_iff]
    simpa [rowKey, Function.comp_def] using hids
  rw [List.Nodup, List.pairwise_map] at hnodup
  refine (hsorted.and hnodup).imp fun {a b} h => ?_
  rcases hcmp : o.keyOrder a.2 b.2 with _ | _ | _
  · rfl
  · exact absurd (o.id_eq_of_keyOrder_eq hcmp) h.2
  · rw [hcmp] at h
    exact Bool.noConfusion h.1

theorem mem_sortRows {s : Store} {tasks : List Task} {r : Task × RowKey} :
    r ∈ o.sortRows s tasks ↔ ∃ t ∈ tasks, (t, o.rowKey s t) = r := by
  rw [(sortRows_perm s tasks).mem_iff, List.mem_map]

/-! ## Continuing after a row -/

/-- The place of a row, as the store is asked for what comes after it. -/
def boundOf (k : RowKey) : Bound :=
  ⟨k.flag, if k.value.isNull then none else some k.value, k.id⟩

theorem isNull_of_flag_eq {a b : RowKey} (ha : o.Places a) (hb : o.Places b)
    (h : a.flag = b.flag) : a.value.isNull = b.value.isNull := by
  rw [ha.1, hb.1] at h
  unfold flag missingMarker at h
  cases hna : a.value.isNull <;> cases hnb : b.value.isNull <;> cases hm : o.missing <;>
    simp [hna, hnb, hm] at h ⊢

theorem keyOrder_lt_iff {k r : RowKey} : o.keyOrder k r = .lt ↔ k.flag < r.flag
    ∨ k.flag = r.flag ∧ (o.valueOrder k r = .lt ∨ o.valueOrder k r = .eq ∧ k.id < r.id) := by
  have hids : compare k.id r.id = .lt ↔ k.id < r.id :=
    compareOfLessAndEq_eq_lt
  simp only [keyOrder, compareLex, compareOn, Ordering.then_eq_lt, Std.compare_eq_iff_eq,
    Int.compare_eq_lt, hids]

/-- Whether a value comes later than another, as the store tells it. -/
theorem later_test {k r : RowKey} (hk : k.value.Sound) (hr : r.value.Sound)
    (hnk : k.value.isNull = false) (hnr : r.value.isNull = false) :
    ((if o.descending then Comparison.less else Comparison.greater).test r.value k.value).isYes
      = (o.valueOrder k r == .lt) := by
  have hcompare := Cell.compare?_eq_order hr hk hnr hnk
  unfold valueOrder
  split_ifs
  · simp [Comparison.test, hcompare, Comparison.holds]
  · rw [Cell.order_swap]
    cases h : r.value.order k.value <;> simp [Comparison.test, hcompare, Comparison.holds, h]

theorem equal_test {k r : RowKey} (hk : k.value.Sound) (hr : r.value.Sound)
    (hnk : k.value.isNull = false) (hnr : r.value.isNull = false) :
    (Comparison.equal.test r.value k.value).isYes = (o.valueOrder k r == .eq) := by
  have hcompare := Cell.compare?_eq_order hr hk hnr hnk
  unfold valueOrder
  split_ifs
  · simp [Comparison.test, hcompare, Comparison.holds]
  · rw [Cell.order_swap]
    cases h : r.value.order k.value <;> simp [Comparison.test, hcompare, Comparison.holds, h]

/-- The rows after a bound are those that come later in the order. -/
theorem isAfter_iff {k r : RowKey} (hk : o.Places k) (hr : o.Places r) :
    o.isAfter (boundOf k) r = true ↔ o.keyOrder k r = .lt := by
  rw [keyOrder_lt_iff]
  by_cases hflag : k.flag = r.flag
  · have hnull := isNull_of_flag_eq hk hr hflag
    rcases hnk : k.value.isNull with _ | _
    · rw [hnk] at hnull
      have hlater := later_test (o := o) hk.2 hr.2 hnk hnull.symm
      have hequal := equal_test (o := o) hk.2 hr.2 hnk hnull.symm
      simp [isAfter, boundOf, hnk, hflag, hlater, hequal]
    · rw [hnk] at hnull
      have hvalue : o.valueOrder k r = .eq := by
        rw [valueOrder, Cell.isNull_iff.1 hnk, Cell.isNull_iff.1 hnull.symm]
        split_ifs <;> rfl
      simp [isAfter, boundOf, hnk, hflag, hvalue]
  · have hne : ¬ r.flag = k.flag := fun h => hflag h.symm
    simp [isAfter, boundOf, hflag, hne]

end TaskOrder

end BoardQuery
