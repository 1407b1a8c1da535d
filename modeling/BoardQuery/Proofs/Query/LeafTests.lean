import BoardQuery.Proofs.Filter.Operands
import BoardQuery.Query.Selection

/-!
# What a condition asks of a task

A condition selects a task by one test on one cell: what an attribute of the task holds, or the
value that the task has in a column, which is nothing where it has no row (`leafCondition_selects`).
Except for emptiness, a test has no outcome on nothing (`operatorTest_null`) and an outcome on every
cell that can be compared (`operatorTest_decided`).
-/

namespace BoardQuery

/-! ## Rows -/

/-- Whether a task has one row at most for a column. -/
def Store.UniqueRows (s : Store) : Prop :=
  (s.values.map fun v => (v.taskId, v.columnId)).Nodup

instance (s : Store) : Decidable s.UniqueRows :=
  inferInstanceAs (Decidable (List.Nodup _))

/-- The rows of a task for a column. -/
def Store.rowsAt (s : Store) (taskId columnId : String) : List FieldValue :=
  s.values.filter fun row => row.taskId == taskId && row.columnId == columnId

theorem Store.mem_rowsAt {s : Store} {taskId columnId : String} {row : FieldValue} :
    row ∈ s.rowsAt taskId columnId
      ↔ row ∈ s.values ∧ row.taskId = taskId ∧ row.columnId = columnId := by
  rw [rowsAt, List.mem_filter, Bool.and_eq_true, beq_iff_eq, beq_iff_eq]

theorem Store.value?_eq_rowsAt (s : Store) (taskId columnId : String) :
    s.value? taskId columnId = (s.rowsAt taskId columnId).head?.map (·.value) := by
  rw [value?, rowsAt, List.head?_filter]

/-- Unless a task has a value in a column, it has no row there, and otherwise it has one. -/
theorem Store.rowsAt_of_unique {s : Store} (h : s.UniqueRows) (taskId columnId : String) :
    s.rowsAt taskId columnId
      = ((s.value? taskId columnId).map fun v => ⟨taskId, columnId, v⟩).toList := by
  have hkey (row : FieldValue) (hrow : row ∈ s.rowsAt taskId columnId) :
      (row.taskId, row.columnId) = (taskId, columnId) :=
    Prod.ext_iff.2 (mem_rowsAt.1 hrow).2
  have hone : ((s.rowsAt taskId columnId).map fun v => (v.taskId, v.columnId)).Nodup :=
    h.sublist (List.filter_sublist.map _)
  rw [value?_eq_rowsAt]
  rcases hrows : s.rowsAt taskId columnId with _ | ⟨row, _ | ⟨row', rest⟩⟩
  · rfl
  · obtain ⟨rfl, rfl⟩ := Prod.mk.inj (hkey row (by simp [hrows]))
    rfl
  · -- Both rows would have the same key.
    rw [hrows, List.map_cons, List.map_cons, hkey row (by simp [hrows]),
      hkey row' (by simp [hrows])] at hone
    exact absurd hone (by simp)

theorem Store.any_rows {s : Store} (h : s.UniqueRows) (taskId columnId : String)
    (p : Json → Bool) :
    (s.values.any fun v => v.taskId == taskId && v.columnId == columnId && p v.value)
      = (s.value? taskId columnId).any p := by
  rw [value?, Bool.eq_iff_iff]
  cases hfind : s.values.find? fun v => v.taskId == taskId && v.columnId == columnId with
  | none =>
    have hnone := List.find?_eq_none.1 hfind
    simp only [Option.map_none, Option.any_none, Bool.false_eq_true, iff_false, List.any_eq_true,
      not_exists, not_and, Bool.and_eq_true, Bool.not_eq_true]
    exact fun v hv hkey => absurd (by simpa using hkey) (hnone v hv)
  | some v =>
    have hv := List.mem_of_find?_eq_some hfind
    have hkey := List.find?_some hfind
    simp only [Bool.and_eq_true, beq_iff_eq] at hkey
    simp only [Option.map_some, Option.any_some, List.any_eq_true, Bool.and_eq_true, beq_iff_eq]
    constructor
    · rintro ⟨w, hw, ⟨htask, hcolumn⟩, hp⟩
      have hrow : w = v := List.inj_on_of_nodup_map h hw hv (by
        rw [htask, hcolumn, hkey.1, hkey.2])
      exact hrow ▸ hp
    · exact fun hp => ⟨v, hv, hkey, hp⟩

theorem Store.exists_row {s : Store} {taskId columnId : String} {v : Json}
    (h : s.value? taskId columnId = some v) :
    ∃ row ∈ s.values, row.taskId = taskId ∧ row.columnId = columnId ∧ row.value = v := by
  obtain ⟨row, hrow, rfl⟩ := Option.map_eq_some_iff.1 h
  have hkey := List.find?_some hrow
  rw [Bool.and_eq_true, beq_iff_eq, beq_iff_eq] at hkey
  exact ⟨row, List.mem_of_find?_eq_some hrow, hkey.1, hkey.2, rfl⟩

/-! ## Outcomes -/

namespace Truth

theorem isYes_not_of_decided {a : Truth} (h : a ≠ .unknown) : a.not.isYes = !a.isYes := by
  cases a <;> first | rfl | exact absurd rfl h

theorem not_or (a b : Truth) : (a.or b).not = a.not.and b.not := by
  cases a <;> cases b <;> rfl

theorem not_and (a b : Truth) : (a.and b).not = a.not.or b.not := by
  cases a <;> cases b <;> rfl

end Truth

namespace CellTest

variable {c : Cell} {ts : List CellTest}

theorem eval_anyOf_cons (t : CellTest) :
    (anyOf (t :: ts)).eval c = (t.eval c).or ((anyOf ts).eval c) :=
  rfl

theorem eval_allOf_cons (t : CellTest) :
    (allOf (t :: ts)).eval c = (t.eval c).and ((allOf ts).eval c) := rfl

theorem isYes_anyOf : ((anyOf ts).eval c).isYes = ts.any fun t => (t.eval c).isYes := by
  induction ts with
  | nil => rfl
  | cons t ts ih => rw [eval_anyOf_cons, Truth.isYes_or, ih, List.any_cons]

theorem isYes_allOf : ((allOf ts).eval c).isYes = ts.all fun t => (t.eval c).isYes := by
  induction ts with
  | nil => rfl
  | cons t ts ih => rw [eval_allOf_cons, Truth.isYes_and, ih, List.all_cons]

theorem not_anyOf : ((anyOf ts).eval c).not = (allOf (ts.map .not)).eval c := by
  induction ts with
  | nil => rfl
  | cons t ts ih => rw [eval_anyOf_cons, Truth.not_or, ih, List.map_cons, eval_allOf_cons, eval]

theorem anyOf_unknown (hne : ts ≠ []) (h : ∀ t ∈ ts, t.eval c = .unknown) :
    (anyOf ts).eval c = .unknown := by
  induction ts with
  | nil => exact absurd rfl hne
  | cons t ts ih =>
    rw [eval_anyOf_cons, h t List.mem_cons_self]
    cases ts with
    | nil => rfl
    | cons t' ts =>
      rw [ih (List.cons_ne_nil _ _) fun u hu => h u (List.mem_cons_of_mem t hu)]
      rfl

theorem anyOf_decided (h : ∀ t ∈ ts, t.eval c ≠ .unknown) : (anyOf ts).eval c ≠ .unknown := by
  induction ts with
  | nil => exact Truth.noConfusion
  | cons t ts ih =>
    have ht := h t List.mem_cons_self
    have hts := ih fun u hu => h u (List.mem_cons_of_mem t hu)
    rw [eval_anyOf_cons]
    cases h₁ : t.eval c <;> cases h₂ : (anyOf ts).eval c <;> simp_all [Truth.or]

/-- Being among some cells is being equal to one of them. -/
theorem eval_among (vs : List Cell) :
    (among vs).eval c = (anyOf (vs.map (.compare .equal))).eval c := by
  rw [eval]
  induction vs with
  | nil => rfl
  | cons v vs ih =>
    rw [List.map_cons, eval_anyOf_cons, ← ih]
    rfl

end CellTest

/-! ## Cells that can be compared -/

namespace Cell

/-- Whether a cell holds something other than NaN. -/
def Comparable (c : Cell) : Prop :=
  c ≠ .null ∧ c ≠ .real .nan

theorem compare?_null (v : Cell) : Cell.null.compare? v = none := by
  cases v <;> rfl

theorem exists_compare? {c v : Cell} (hc : c.Comparable) (hv : v.Comparable) :
    ∃ o, c.compare? v = some o := by
  obtain ⟨hnull, hnan⟩ := hc
  obtain ⟨hnull', hnan'⟩ := hv
  rcases c with _ | m | (_ | ⟨sm, cm, lm⟩) | s <;> rcases v with _ | n | (_ | ⟨sn, cn, ln⟩) | t <;>
    first
    | exact ⟨_, rfl⟩
    | contradiction

theorem exists_likeChars? {c : Cell} (hc : c ≠ .null) : ∃ cs, c.likeChars? = some cs := by
  cases c <;> first | exact ⟨_, rfl⟩ | contradiction

theorem ofStored_eq_null {v : Json} : ofStored v = .null ↔ v = .null := by
  cases v with
  | int n =>
    simp only [ofStored]
    split_ifs <;> simp
  | _ => simp [ofStored]

end Cell

/-! ## Operands that go with an operator -/

/-- Whether an operand is one that an operator can be asked with. -/
inductive Operand.GoesWith (op : Operator) : Operand → Prop
  | absent (hop : op.testsEmptiness = true) : GoesWith op .absent
  | whole {s : String} (hop : op = .equals ∨ op = .notEquals) : GoesWith op (.text s)
  | part {s : String} (hop : op = .contains ∨ op = .notContains ∨ op = .startsWith
      ∨ op = .endsWith) : GoesWith op (.text s)
  | number {x : Binary64} {c : Comparison} (hop : op.comparison? = some c)
    (hx : x.isFinite = true) : GoesWith op (.number x)
  | day {d : Date} {c : Comparison} (hop : op.comparison? = some c) : GoesWith op (.day d)
  | second {m : Moment} {c : Comparison} (hop : op.comparison? = some c) : GoesWith op (.second m)
  | checked {b : Bool} (hop : op = .equals ∨ op = .notEquals) : GoesWith op (.checked b)
  | holding {items : List String} (hop : op = .contains ∨ op = .notContains) (hne : items ≠ []) :
    GoesWith op (.several items)
  | oneOf {items : List String} (hop : op = .isIn ∨ op = .notIn) (hne : items ≠ []) :
    GoesWith op (.several items)

section Formed

variable {t : ColumnType} {op : Operator} {v : Operand}

theorem comparison?_of_mem (hmem : op ∈ Family.numeric.operators)
    (hop : op.testsEmptiness = false) :
    ∃ c, op.comparison? = some c := by
  cases op <;> first | exact ⟨_, rfl⟩ | exact absurd hmem (by decide) | exact absurd hop (by decide)

/-- The operands that building accepts go with their operators. -/
theorem Operand.Formed.goesWith (hmem : op ∈ t.operators) (hv : v.Formed t op) :
    v.GoesWith op := by
  rw [ColumnType.operators] at hmem
  cases hv with
  | absent hop => exact .absent hop
  | whole ht hop => exact .whole hop
  | part ht hop hpart =>
    rw [ht] at hmem
    cases op <;> simp_all [Family.operators, Operator.testsEmptiness, GoesWith.part]
  | number ht hop hx =>
    rw [ht] at hmem
    obtain ⟨c, hc⟩ := comparison?_of_mem hmem hop
    exact .number hc hx
  | day ht hop =>
    subst ht
    obtain ⟨c, hc⟩ := comparison?_of_mem hmem hop
    exact .day hc
  | second ht hop =>
    subst ht
    obtain ⟨c, hc⟩ := comparison?_of_mem hmem hop
    exact .second hc
  | choice ht hop hlist | user ht hop hlist =>
    rw [ht] at hmem
    refine .whole ?_
    cases op <;> simp_all [Family.operators, Operator.testsEmptiness, Operator.takesList]
  | choices ht hop hlist hne | users ht hop hlist hne =>
    refine .oneOf ?_ hne
    cases op <;> simp_all [Operator.takesList]
  | labels ht hop hne =>
    rw [ht] at hmem
    refine .holding ?_ hne
    cases op <;> simp_all [Family.operators, Operator.testsEmptiness]
  | checked ht hop =>
    rw [ht] at hmem
    refine .checked ?_
    cases op <;> simp_all [Family.operators, Operator.testsEmptiness]

end Formed

/-! ## Outcomes of the tests of operators -/

section Tests

variable {st : Storage} {op op' : Operator} {v : Operand} {c : Cell}

theorem Comparison.test_null (o : Comparison) (v : Cell) : o.test .null v = .unknown := by
  rw [test, Cell.compare?_null]

theorem Comparison.test_decided (o : Comparison) {a b : Cell} (ha : a.Comparable)
    (hb : b.Comparable) : o.test a b ≠ .unknown := by
  obtain ⟨order, horder⟩ := Cell.exists_compare? ha hb
  rw [test, horder]
  cases h : o.holds order <;> simp [h, Truth.ofBool]

theorem Comparison.test_notEqual (a b : Cell) :
    Comparison.notEqual.test a b = (Comparison.equal.test a b).not := by
  unfold test
  rcases a.compare? b with _ | (_ | _ | _) <;> rfl

theorem Comparison.test_less (a b : Cell) :
    Comparison.less.test a b = (Comparison.greaterEqual.test a b).not := by
  unfold test
  rcases a.compare? b with _ | (_ | _ | _) <;> rfl

theorem Comparison.test_greaterEqual (a b : Cell) :
    Comparison.greaterEqual.test a b = (Comparison.less.test a b).not := by
  rw [test_less, Truth.not_not]

theorem like_decided (p : TextPattern) (hc : c ≠ .null) : (CellTest.like p).eval c ≠ .unknown := by
  obtain ⟨cs, hcs⟩ := Cell.exists_likeChars? hc
  rw [CellTest.eval, hcs]
  cases h : p.accepts cs <;> simp [h, Truth.ofBool]

theorem not_decided {t : CellTest} (h : t.eval c ≠ .unknown) : t.not.eval c ≠ .unknown := by
  rw [CellTest.eval]
  cases h' : t.eval c <;> simp_all [Truth.not]

theorem comparable_text (s : String) : (Cell.text s).Comparable :=
  ⟨Cell.noConfusion, Cell.noConfusion⟩

theorem stretchTest_null (o : Comparison) (start stop : Cell) :
    (stretchTest o start stop).eval .null = .unknown := by
  cases o <;> simp only [stretchTest, CellTest.eval, Comparison.test_null] <;> rfl

theorem stretchTest_decided (o : Comparison) (start stop : String) (hc : c.Comparable) :
    (stretchTest o (.text start) (.text stop)).eval c ≠ .unknown := by
  have hstart (o : Comparison) := o.test_decided hc (comparable_text start)
  have hstop (o : Comparison) := o.test_decided hc (comparable_text stop)
  cases o <;> simp only [stretchTest, CellTest.eval] <;>
    first | exact hstart _ | exact hstop _ | skip
  · have h₁ := hstart .greaterEqual
    have h₂ := hstop .less
    cases h₁' : Comparison.greaterEqual.test c (.text start) <;>
      cases h₂' : Comparison.less.test c (.text stop) <;> simp_all [Truth.and]
  · have h₁ := hstart .less
    have h₂ := hstop .greaterEqual
    cases h₁' : Comparison.less.test c (.text start) <;>
      cases h₂' : Comparison.greaterEqual.test c (.text stop) <;> simp_all [Truth.or]

theorem stretchTest_notEqual (start stop : Cell) : (stretchTest .notEqual start stop).eval c
    = ((stretchTest .equal start stop).eval c).not := by
  simp only [stretchTest, CellTest.eval, Truth.not_and, Comparison.test_less c start,
    Comparison.test_greaterEqual c stop]

/-- The operators that compare all do so in one way. -/
theorem operatorTest_comparison {o : Comparison} (hop : op.comparison? = some o) :
    operatorTest st op v = comparisonTest st o v := by
  cases op <;> simp_all [Operator.comparison?, operatorTest]

/-- Being equal to a text; a list of items is equal to each of its items. -/
def Storage.equalTest (st : Storage) (s : String) : CellTest :=
  if st.listed then memberTest s else .compare .equal (.text s)

theorem operatorTest_equals_text (s : String) :
    operatorTest st .equals (.text s) = st.equalTest s := by
  simp [operatorTest, Operator.comparison?, comparisonTest, Storage.equalTest]

/-- A list operand asks whether the cell is equal to one of its items. -/
theorem eval_isIn (items : List String) : (operatorTest st .isIn (.several items)).eval c
    = (CellTest.anyOf (items.map st.equalTest)).eval c := by
  have hlisted (h : st.listed = true) : st.equalTest = memberTest :=
    funext fun s => if_pos h
  have hplain (h : ¬ st.listed = true) : st.equalTest = fun s => .compare .equal (.text s) :=
    funext fun s => if_neg h
  rw [operatorTest]
  split_ifs with h
  · rw [hlisted h]
  · rw [hplain h, CellTest.eval_among, List.map_map]
    rfl

/-- The operator that passes where this one fails. -/
def Operator.complement? : Operator → Option Operator
  | .equals => some .notEquals
  | .contains => some .notContains
  | .isIn => some .notIn
  | .isEmpty => some .isNotEmpty
  | _ => none

theorem comparisonTest_notEqual (v : Operand) (hv : ∀ items, v ≠ .several items)
    (hv' : v ≠ .absent) :
    (comparisonTest st .notEqual v).eval c = ((comparisonTest st .equal v).eval c).not := by
  cases v with
  | text s =>
    simp only [comparisonTest]
    split_ifs
    · rfl
    · exact Comparison.test_notEqual _ _
  | number x => exact Comparison.test_notEqual _ _
  | checked b => exact Comparison.test_notEqual _ _
  | day d => exact stretchTest_notEqual _ _
  | second m => exact stretchTest_notEqual _ _
  | several items => exact absurd rfl (hv items)
  | absent => exact absurd rfl hv'

/-- Two complementary operators have opposite outcomes, and none on the same cells. -/
theorem operatorTest_complement (h : v.GoesWith op) (hop : op.complement? = some op') :
    (operatorTest st op' v).eval c = ((operatorTest st op v).eval c).not := by
  cases op <;> simp only [Operator.complement?, reduceCtorEq, Option.some.injEq] at hop <;>
    subst hop
  case isEmpty => rfl
  case equals =>
    have hequals : operatorTest st .equals v = comparisonTest st .equal v :=
      operatorTest_comparison rfl
    have hnotEquals : operatorTest st .notEquals v = comparisonTest st .notEqual v :=
      operatorTest_comparison rfl
    rw [hequals, hnotEquals]
    refine comparisonTest_notEqual v ?_ ?_
    · rintro items rfl
      cases h <;> simp_all
    · rintro rfl
      cases h
      simp_all [Operator.testsEmptiness]
  case contains =>
    cases h <;> simp_all [Operator.testsEmptiness, Operator.comparison?]
    case part => rfl
    case holding items _ =>
      rw [operatorTest, operatorTest, CellTest.not_anyOf, List.map_map]
      rfl
  case isIn =>
    cases h <;> simp_all [Operator.testsEmptiness, Operator.comparison?]
    case oneOf items _ =>
      rw [operatorTest, operatorTest]
      split_ifs
      · rw [CellTest.not_anyOf, List.map_map]
        rfl
      · rfl

/-- What has no outcome under an operator has none under its complement. -/
theorem operatorTest_complement_unknown (h : v.GoesWith op) (hop : op.complement? = some op')
    (hunknown : (operatorTest st op v).eval c = .unknown) :
    (operatorTest st op' v).eval c = .unknown := by
  rw [operatorTest_complement h hop, hunknown]
  rfl

theorem operatorTest_complement_decided (h : v.GoesWith op) (hop : op.complement? = some op')
    (hdecided : (operatorTest st op v).eval c ≠ .unknown) :
    (operatorTest st op' v).eval c ≠ .unknown := by
  rw [operatorTest_complement h hop]
  exact not_decided hdecided

/-- Nothing passes no test but that of emptiness, and fails none. -/
theorem operatorTest_null (h : v.GoesWith op) (hop : op.testsEmptiness = false) :
    (operatorTest st op v).eval .null = .unknown := by
  have hequal (s : String) : (st.equalTest s).eval .null = .unknown := by
    unfold Storage.equalTest
    split_ifs
    · rfl
    · exact Comparison.test_null _ _
  cases h with
  | absent h => exact absurd (h.symm.trans hop) (by decide)
  | @whole s h =>
    have hequals : (operatorTest st .equals (.text s)).eval .null = .unknown := by
      rw [operatorTest_equals_text]
      exact hequal s
    rcases h with rfl | rfl
    · exact hequals
    · exact operatorTest_complement_unknown (.whole (.inl rfl)) rfl hequals
  | part h => rcases h with rfl | rfl | rfl | rfl <;> rfl
  | number h =>
    rw [operatorTest_comparison h]
    exact Comparison.test_null _ _
  | day h | second h =>
    rw [operatorTest_comparison h]
    exact stretchTest_null _ _ _
  | checked h =>
    rcases h with rfl | rfl
    · exact Comparison.test_null _ _
    · exact Comparison.test_null _ _
  | @holding items h hne =>
    have hcontains : (operatorTest st .contains (.several items)).eval .null = .unknown := by
      refine CellTest.anyOf_unknown (by simpa using hne) fun t ht => ?_
      obtain ⟨s, -, rfl⟩ := List.mem_map.1 ht
      rfl
    rcases h with rfl | rfl
    · exact hcontains
    · exact operatorTest_complement_unknown (.holding (.inl rfl) hne) rfl hcontains
  | @oneOf items h hne =>
    have hisIn : (operatorTest st .isIn (.several items)).eval .null = .unknown := by
      rw [eval_isIn]
      refine CellTest.anyOf_unknown (by simpa using hne) fun t ht => ?_
      obtain ⟨s, -, rfl⟩ := List.mem_map.1 ht
      exact hequal s
    rcases h with rfl | rfl
    · exact hisIn
    · exact operatorTest_complement_unknown (.oneOf (.inl rfl) hne) rfl hisIn

theorem comparable_real {x : Binary64} (hx : x.isFinite = true) : (Cell.real x).Comparable := by
  refine ⟨Cell.noConfusion, fun h => ?_⟩
  rw [Cell.real.inj h] at hx
  exact absurd hx (by decide)

/-- Every cell that can be compared passes or fails each test. -/
theorem operatorTest_decided (h : v.GoesWith op) (hop : op.testsEmptiness = false)
    (hc : c.Comparable) : (operatorTest st op v).eval c ≠ .unknown := by
  have hmember (s : String) : (memberTest s).eval c ≠ .unknown := like_decided _ hc.1
  have hequal (s : String) : (st.equalTest s).eval c ≠ .unknown := by
    unfold Storage.equalTest
    split_ifs
    · exact hmember s
    · exact Comparison.test_decided _ hc (comparable_text s)
  cases h with
  | absent h => exact absurd (h.symm.trans hop) (by decide)
  | @whole s h =>
    have hequals : (operatorTest st .equals (.text s)).eval c ≠ .unknown := by
      rw [operatorTest_equals_text]
      exact hequal s
    rcases h with rfl | rfl
    · exact hequals
    · exact operatorTest_complement_decided (.whole (.inl rfl)) rfl hequals
  | @part s h =>
    have hcontains : (operatorTest st .contains (.text s)).eval c ≠ .unknown :=
      like_decided _ hc.1
    rcases h with rfl | rfl | rfl | rfl
    · exact hcontains
    · exact operatorTest_complement_decided (.part (.inl rfl)) rfl hcontains
    · exact like_decided _ hc.1
    · exact like_decided _ hc.1
  | number h hx =>
    rw [operatorTest_comparison h]
    exact Comparison.test_decided _ hc (comparable_real hx)
  | day h | second h =>
    rw [operatorTest_comparison h]
    exact stretchTest_decided _ _ _ hc
  | @checked b h =>
    have hint (n : Int) : (Cell.int n).Comparable := ⟨Cell.noConfusion, Cell.noConfusion⟩
    rcases h with rfl | rfl
    · exact Comparison.test_decided .equal hc (hint _)
    · exact Comparison.test_decided .notEqual hc (hint _)
  | @holding items h hne =>
    have hcontains : (operatorTest st .contains (.several items)).eval c ≠ .unknown := by
      refine CellTest.anyOf_decided fun t ht => ?_
      obtain ⟨s, -, rfl⟩ := List.mem_map.1 ht
      exact hmember s
    rcases h with rfl | rfl
    · exact hcontains
    · exact operatorTest_complement_decided (.holding (.inl rfl) hne) rfl hcontains
  | @oneOf items h hne =>
    have hisIn : (operatorTest st .isIn (.several items)).eval c ≠ .unknown := by
      rw [eval_isIn]
      refine CellTest.anyOf_decided fun t ht => ?_
      obtain ⟨s, -, rfl⟩ := List.mem_map.1 ht
      exact hequal s
    rcases h with rfl | rfl
    · exact hisIn
    · exact operatorTest_complement_decided (.oneOf (.inl rfl) hne) rfl hisIn

end Tests

/-! ## Conditions on tasks -/

/-- How what a name stands for keeps its values. -/
def Resolved.storage : Resolved → Storage
  | .native a => .ofAttribute a
  | .column c t => .ofColumn t (c.effectiveOptions t)

/-- The cell that a task has for what a name stands for. -/
def Resolved.cell (s : Store) (t : Task) : Resolved → Cell
  | .native a => t.cell a
  | .column c _ => .ofStored ((s.value? t.id c.id).getD .null)

/-- What a column is resolved to is the column, in its own type. -/
theorem columnType?_of_resolve {schema : BoardSchema} {name : String} {c : BoardColumn}
    {type : ColumnType} (h : resolve (some schema) name = some (.column c type)) :
    c.columnType? = some type := by
  unfold resolve at h
  split at h
  · exact absurd h (by simp)
  · simp only [Option.bind_eq_bind, Option.bind_some, Option.bind_eq_some_iff, Option.pure_def,
      Option.some.injEq, Resolved.column.injEq] at h
    obtain ⟨_, -, t, ht, rfl, rfl⟩ := h
    exact ht

section Conditions

variable {s : Store} {t : Task} {r : Resolved} {op : Operator} {v : Operand} {c : Cell}

/-- A cell is equal to a text only as that very text. -/
theorem test_equal_text (hc : c ≠ .null) (text : String) :
    Comparison.equal.test c (.text text) = .ofBool (c == .text text) := by
  have hne (n : Cell) (hn : n.compare? (.text text) = some .lt) (hn' : (n == .text text) = false) :
      Comparison.equal.test n (.text text) = .ofBool (n == .text text) := by
    rw [Comparison.test, hn, hn']
    rfl
  cases c with
  | null => exact absurd rfl hc
  | int n => exact hne _ rfl (by simp)
  | real x => exact hne _ rfl (by simp)
  | text s =>
    have heq : (compare s text == .eq) = (Cell.text s == .text text) := by
      rw [Bool.eq_iff_iff, beq_iff_eq, beq_iff_eq, Std.LawfulEqCmp.compare_eq_iff_eq,
        Cell.text.injEq]
    rw [← heq]
    rfl

/-- A column counts as empty where it holds nothing, the empty text or the text of an empty list. -/
theorem isEmpty_ofColumn (type : ColumnType) (o : Options) :
    (Storage.ofColumn type o).isEmpty.eval c
      = .ofBool (c == .null || (c == .text "" || c == .text "[]")) := by
  cases hc : c == .null with
  | true =>
    obtain rfl := beq_iff_eq.1 hc
    rfl
  | false =>
    have hc := beq_eq_false_iff_ne.1 hc
    have hnull : c.isNull = false := by
      cases c <;> first | rfl | exact absurd rfl hc
    simp only [Storage.ofColumn, CellTest.eval, hnull, test_equal_text hc, Bool.false_or]
    cases c == .text "" <;> cases c == .text "[]" <;> rfl

theorem isYes_not_ofBool (b : Bool) : (Truth.ofBool b).not.isYes = !b := by
  cases b <;> rfl

/-- A condition selects a task by the test of its operator on the cell of the task. -/
theorem leafCondition_selects (hs : s.UniqueRows) (hv : v.GoesWith op) :
    (leafCondition r op v).selects s t
      = ((operatorTest r.storage op v).eval (r.cell s t)).isYes := by
  cases r with
  | native a => rfl
  | column c type =>
    simp only [leafCondition, beq_iff_eq, Resolved.storage, Resolved.cell]
    split_ifs with hop
    · subst hop
      -- the condition asks for no row that is not empty
      have hrows := s.any_rows hs t.id c.id fun w => ((operatorTest (.ofColumn type
        (c.effectiveOptions type)) .isNotEmpty v).eval (.ofStored w)).isYes
      rw [Condition.selects, Condition.eval, Condition.eval, hrows, isYes_not_ofBool]
      simp only [operatorTest, CellTest.eval, isEmpty_ofColumn, isYes_not_ofBool,
        Truth.isYes_ofBool]
      cases s.value? t.id c.id with
      | none => rfl
      | some w => rw [Option.any_some, Bool.not_not, Option.getD_some]
    · have hrows := s.any_rows hs t.id c.id fun w => ((operatorTest (.ofColumn type
        (c.effectiveOptions type)) op v).eval (.ofStored w)).isYes
      rw [Condition.selects, Condition.eval, hrows, Truth.isYes_ofBool]
      cases s.value? t.id c.id with
      | none =>
        rw [Option.any_none, Option.getD_none, Cell.ofStored]
        cases hempty : op.testsEmptiness with
        | true =>
          have hop' : op = .isNotEmpty := by
            cases op <;> simp_all [Operator.testsEmptiness]
          rw [hop', operatorTest, CellTest.eval, isEmpty_ofColumn]
          rfl
        | false =>
          rw [operatorTest_null hv hempty]
          rfl
      | some w => rfl

/-- The tasks that a condition of a filter selects on a board where its column has the family it was
built for. -/
theorem mem_selectTasks_ofLeaf {schema : BoardSchema} {l : Leaf String Operand} (hs : s.UniqueRows)
    (hresolve : resolve (some schema) l.column = some r)
    (hfamily : r.columnType.family = l.columnType.family) (hv : l.operand.GoesWith l.operator)
    (archived : Bool) :
    t ∈ selectTasks s schema archived (Selection.ofLeaf schema l).condition
      ↔ t ∈ s.tasks ∧ inScope schema archived t = true
        ∧ ((operatorTest r.storage l.operator l.operand).eval (r.cell s t)).isYes = true := by
  simp only [Selection.ofLeaf, hresolve, hfamily, beq_self_eq_true, if_true, selectTasks,
    List.mem_filter, Option.all_some, Bool.and_eq_true, leafCondition_selects hs hv]

end Conditions

end BoardQuery
