import BoardQuery.Proofs.Filter.Rebuild
import BoardQuery.Proofs.Query.Positions
import BoardQuery.Proofs.Sample
import Mathlib.Logic.Basic

/-!
# Complementary operators

The operators of a type divide the tasks. Whether a column is empty divides all of them. With one
operand, an operator and its complement divide the tasks that have a value there, comparisons sort
them into those before the operand, those it stands for and those after it, and an operator with a
list asks the same of each item. A task without a value is selected by no operator with an operand
(`operators_partition`).
-/

namespace BoardQuery

open FilterBuilder

/-! ## Tasks with a value -/

/-- Whether a task has a value for what a name stands for. -/
def Resolved.Filled (s : Store) (t : Task) : Resolved → Prop
  | .native a => t.cell a ≠ .null
  | .column c _ => ∃ row ∈ s.values, row.taskId = t.id ∧ row.columnId = c.id ∧ row.value ≠ .null

section Cells

variable {s : Store} {t : Task} {r : Resolved}

theorem filled_iff (hs : s.UniqueRows) : r.Filled s t ↔ r.cell s t ≠ .null := by
  cases r with
  | native a => rfl
  | column c type =>
    have hisNull (v : Json) : v.isNull = false ↔ v ≠ .null := by
      cases v <;> simp [Json.isNull]
    have hrows := s.any_rows hs t.id c.id fun v => !v.isNull
    rw [Resolved.cell, Ne, Cell.ofStored_eq_null, Resolved.Filled]
    have hany : (s.value? t.id c.id).any (fun v => !v.isNull) = true
        ↔ ¬ (s.value? t.id c.id).getD .null = .null := by
      cases s.value? t.id c.id <;> simp [hisNull]
    rw [← hany, ← hrows]
    simp [hisNull, and_assoc]

theorem ofStored_ne_nan {v : Json} (h : v ≠ .num .nan) : Cell.ofStored v ≠ .real .nan := by
  cases v with
  | num x => exact fun hx => h (congrArg Json.num (Cell.real.inj hx))
  | int n =>
    rw [Cell.ofStored]
    split_ifs
    · exact Cell.noConfusion
    · exact fun hn => Binary64.noConfusion (Cell.real.inj hn)
  | _ => exact Cell.noConfusion

theorem isEmpty_decided (r : Resolved) (c : Cell) : r.storage.isEmpty.eval c ≠ .unknown := by
  have hbool (b : Bool) : Truth.ofBool b ≠ .unknown := by
    cases b <;> exact Truth.noConfusion
  cases r with
  | column c' type =>
    rw [Resolved.storage, isEmpty_ofColumn]
    exact hbool _
  | native a =>
    simp only [Resolved.storage, Storage.ofAttribute]
    split_ifs
    · by_cases hc : c = .null
      · subst hc
        exact Truth.noConfusion
      · rw [CellTest.eval, CellTest.eval, CellTest.eval, test_equal_text hc]
        cases c.isNull <;> cases c == .text "" <;> exact Truth.noConfusion
    · exact hbool _

/-- Without NaN among the values, a value can be compared. -/
theorem comparable_of_filled (hs : s.UniqueRows) (hnan : ∀ row ∈ s.values, row.value ≠ .num .nan)
    (h : r.Filled s t) : (r.cell s t).Comparable := by
  refine ⟨(filled_iff hs).1 h, ?_⟩
  cases r with
  | native a => cases a <;> simp only [Resolved.cell, Task.cell, Cell.ofMoment?, Cell.ofText?] <;>
      first | exact Cell.noConfusion | (split <;> exact Cell.noConfusion)
  | column c type =>
    refine ofStored_ne_nan ?_
    cases hvalue : s.value? t.id c.id with
    | none => exact Json.noConfusion
    | some w =>
      obtain ⟨row, hrow, -, -, rfl⟩ := Store.exists_row hvalue
      exact hnan row hrow

end Cells

/-! ## Operands of related operators -/

/-- Whether building reads a raw value as an operand of an operator on what a name stands for. -/
def Resolved.Reads (env : Surroundings) (r : Resolved) (op : Operator) (raw : Json) (v : Operand) :
    Prop :=
  op ∈ r.columnType.operators
    ∧ ∃ path, readOperandAt env path r.columnType op r.options raw = .ok v

section Reading

variable {env : Surroundings} {r : Resolved} {op op' : Operator} {raw : Json} {v : Operand}
  {items : List String}

theorem Resolved.Reads.formed (h : r.Reads env op raw v) :
    v.Formed r.columnType op ∧ v.Allowed env r.columnType r.options :=
  let ⟨_, hread⟩ := h.2
  formed_of_readOperandAt hread

theorem Resolved.Reads.goesWith (h : r.Reads env op raw v) : v.GoesWith op :=
  h.formed.1.goesWith h.1

/-- Operators that take operands of one kind read them alike. -/
theorem Resolved.Reads.alike (h : r.Reads env op raw v) (hmem : op' ∈ r.columnType.operators)
    (hop : op.testsEmptiness = false) (hop' : op'.testsEmptiness = false)
    (hlist : op'.takesList = op.takesList)
    (hwhole : r.columnType.family = .text →
      (op' = .equals ∨ op' = .notEquals ↔ op = .equals ∨ op = .notEquals)) :
    r.Reads env op' raw v := by
  obtain ⟨-, path, hread⟩ := h
  refine ⟨hmem, path, ?_⟩
  rw [readOperandAt_eq_ok] at hread ⊢
  rw [presenceProblem?_eq_none hop] at hread
  rw [presenceProblem?_eq_none hop', hlist]
  refine ⟨hread.1, ?_⟩
  have hread := hread.2
  simp only [readOperand, hop, hop', Bool.false_eq_true, if_false] at hread ⊢
  cases hfamily : r.columnType.family with
  | text =>
    simp only [hfamily, textOperand_eq_ok] at hread ⊢
    simpa only [hwhole hfamily] using hread
  | numeric => simpa only [hfamily] using hread
  | date => simpa only [hfamily] using hread
  | enumerated =>
    simp only [hfamily, choiceOperand_eq_ok, hlist] at hread ⊢
    exact hread
  | assignee =>
    simp only [hfamily, userOperand_eq_ok, hlist] at hread ⊢
    exact hread
  | labels => simpa only [hfamily] using hread
  | checkbox => simpa only [hfamily] using hread

theorem Family.complement_mem {f : Family} (hmem : op ∈ f.operators)
    (h : op.complement? = some op') : op' ∈ f.operators := by
  cases op <;> simp only [Operator.complement?, reduceCtorEq, Option.some.injEq] at h <;>
    subst h <;> cases f <;> first | decide | exact absurd hmem (by decide)

/-- An operator and its complement read the same operands. -/
theorem Resolved.Reads.complement (h : r.Reads env op raw v) (hop : op ≠ .isEmpty)
    (hop' : op.complement? = some op') : r.Reads env op' raw v := by
  refine h.alike (Family.complement_mem h.1 hop') ?_ ?_ ?_ ?_ <;>
    cases op <;> simp only [Operator.complement?, reduceCtorEq, Option.some.injEq] at hop' <;>
    subst hop' <;> first | rfl | exact absurd rfl hop | simp

/-- The items of a list operand can be asked for by themselves. -/
theorem Resolved.Reads.item (h : r.Reads env .isIn raw (.several items)) {x : String}
    (hx : x ∈ items) : r.Reads env .equals (.str x) (.text x) := by
  obtain ⟨hformed, hallowed⟩ := h.formed
  have hmem : Operator.equals ∈ r.columnType.operators := by
    have hmem := h.1
    rw [ColumnType.operators] at hmem ⊢
    cases hf : r.columnType.family <;> rw [hf] at hmem <;>
      first | decide | exact absurd hmem (by decide)
  have hitem : (Operand.text x).Formed r.columnType .equals := by
    cases hformed with
    | choices ht => exact .choice ht rfl rfl
    | users ht _ _ _ _ hitems => exact .user ht rfl rfl (hitems x hx).1 (hitems x hx).2
    | labels ht =>
      have hmem := h.1
      rw [ColumnType.operators, ht] at hmem
      exact absurd hmem (by decide)
  refine ⟨hmem, "", (readOperandAt_toJson hmem hitem).2 ⟨rfl, ?_⟩⟩
  have hone {y : String} (hy : y ∈ (Operand.text x).texts) : y ∈ items :=
    List.mem_singleton.1 hy ▸ hx
  exact ⟨fun ht y hy => hallowed.choices ht y (hone hy),
    fun ht y hy => hallowed.users ht y (hone hy),
    fun z hz => absurd hz (by simp)⟩

/-- Each of several labels can be asked for by itself. -/
theorem Resolved.Reads.label (h : r.Reads env .contains raw (.several items)) {x : String}
    (hx : x ∈ items) : r.Reads env .contains (.ofStrings [x]) (.several [x]) := by
  obtain ⟨hformed, -⟩ := h.formed
  cases hformed with
  | choices _ _ hlist | users _ _ hlist => exact absurd hlist (by decide)
  | labels ht hop _ hitems =>
    obtain ⟨hne, y, -, hy⟩ := mem_trimmedDistinct.1 (hitems ▸ hx)
    have htrim : Text.trim x = x := hy ▸ Text.trim_trim y
    have hone : trimmedDistinct [x] = [x] := by simp [trimmedDistinct, htrim, hne, distinct]
    have hform : (Operand.several [x]).Formed r.columnType .contains :=
      .labels ht hop (List.cons_ne_nil _ _) hone
    have hallowed : (Operand.several [x]).Allowed env r.columnType r.options :=
      Operand.allowed_of_family (by simp [ht]) (by simp [ht]) (by simp)
    exact ⟨h.1, "", (readOperandAt_toJson h.1 hform).2 ⟨rfl, hallowed⟩⟩

end Reading

/-! ## How operators divide the tasks -/

/-- How the operators divide the tasks: of one task, which of them select it, with which operand. -/
structure Division (env : Surroundings) (r : Resolved) (filled : Prop)
    (selects : Operator → Operand → Prop) : Prop where
  emptiness : selects .isNotEmpty .absent ↔ ¬ selects .isEmpty .absent
  /-- Of an operator and its complement at most one selects the task, and one if it has a value. -/
  complements : ∀ op op', op ≠ .isEmpty → op.complement? = some op' →
    ∀ raw v, r.Reads env op raw v →
      r.Reads env op' raw v ∧ ¬ (selects op v ∧ selects op' v)
        ∧ (selects op v ∨ selects op' v ↔ filled)
  /-- Without a value, no comparison selects the task, nor any other operator with an operand. -/
  unfilled : ¬ filled → ∀ op raw v, op.testsEmptiness = false → r.Reads env op raw v →
    ¬ selects op v
  /-- A number or a date is before the operand, equal to it or after it. -/
  comparisons : r.columnType.family = .numeric ∨ r.columnType.family = .date → filled →
    ∀ raw v, r.Reads env .equals raw v →
      (∀ op ∈ r.columnType.operators, op.testsEmptiness = false → r.Reads env op raw v)
      ∧ (∃! op, op ∈ [Operator.lessThan, .equals, .greaterThan] ∧ selects op v)
      ∧ (selects .greaterEqual v ↔ selects .greaterThan v ∨ selects .equals v)
      ∧ (selects .lessEqual v ↔ selects .lessThan v ∨ selects .equals v)
      ∧ (selects .notEquals v ↔ selects .lessThan v ∨ selects .greaterThan v)
  /-- A list asks whether the task is equal to one of its items, or to none. -/
  lists : ∀ raw items, r.Reads env .isIn raw (.several items) →
    (∀ x ∈ items, r.Reads env .equals (.str x) (.text x))
    ∧ (selects .isIn (.several items) ↔ ∃ x ∈ items, selects .equals (.text x))
    ∧ (selects .notIn (.several items) ↔ ∀ x ∈ items, selects .notEquals (.text x))
  labels : ∀ raw items, r.Reads env .contains raw (.several items) →
    (∀ x ∈ items, r.Reads env .contains (.ofStrings [x]) (.several [x]))
    ∧ (selects .contains (.several items) ↔ ∃ x ∈ items, selects .contains (.several [x]))
    ∧ (selects .notContains (.several items) ↔ ∀ x ∈ items, selects .notContains (.several [x]))

section Tests

variable {r : Resolved} {c : Cell} {items : List String}

theorem isYes_isIn : ((operatorTest r.storage .isIn (.several items)).eval c).isYes
    = items.any fun x => ((operatorTest r.storage .equals (.text x)).eval c).isYes := by
  simp only [eval_isIn, CellTest.isYes_anyOf, List.any_map, operatorTest_equals_text,
    Function.comp_def]

theorem isYes_notIn (hne : items ≠ []) :
    ((operatorTest r.storage .notIn (.several items)).eval c).isYes
      = items.all fun x => ((operatorTest r.storage .notEquals (.text x)).eval c).isYes := by
  have hnotIn : (operatorTest r.storage .notIn (.several items)).eval c
      = ((operatorTest r.storage .isIn (.several items)).eval c).not :=
    operatorTest_complement (.oneOf (.inl rfl) hne) rfl
  have hnotEquals (x : String) : (operatorTest r.storage .notEquals (.text x)).eval c
      = ((operatorTest r.storage .equals (.text x)).eval c).not :=
    operatorTest_complement (.whole (.inl rfl)) rfl
  rw [hnotIn, eval_isIn, CellTest.not_anyOf, CellTest.isYes_allOf, List.map_map, List.all_map]
  simp only [hnotEquals, operatorTest_equals_text, Function.comp_def, CellTest.eval]

theorem isYes_contains : ((operatorTest r.storage .contains (.several items)).eval c).isYes
    = items.any fun x => ((operatorTest r.storage .contains (.several [x])).eval c).isYes := by
  simp only [operatorTest, CellTest.isYes_anyOf, List.any_map, List.map_cons, List.map_nil,
    List.any_cons, List.any_nil, Bool.or_false, Function.comp_def]

theorem isYes_notContains : ((operatorTest r.storage .notContains (.several items)).eval c).isYes
    = items.all fun x => ((operatorTest r.storage .notContains (.several [x])).eval c).isYes := by
  simp only [operatorTest, CellTest.isYes_allOf, List.all_map, List.map_cons, List.map_nil,
    List.all_cons, List.all_nil, Bool.and_true, Function.comp_def]

/-- A place in an order decides all comparisons. -/
theorem comparisons_of_position {selects : Operator → Prop} {o : Ordering}
    (h : ∀ op cmp, op.comparison? = some cmp → (selects op ↔ cmp.holds o = true)) :
    (∃! op, op ∈ [Operator.lessThan, .equals, .greaterThan] ∧ selects op)
      ∧ (selects .greaterEqual ↔ selects .greaterThan ∨ selects .equals)
      ∧ (selects .lessEqual ↔ selects .lessThan ∨ selects .equals)
      ∧ (selects .notEquals ↔ selects .lessThan ∨ selects .greaterThan) := by
  have hless : selects .lessThan ↔ o = .lt := by
    rw [h .lessThan .less rfl]
    cases o <;> decide
  have hequals : selects .equals ↔ o = .eq := by
    rw [h .equals .equal rfl]
    cases o <;> decide
  have hgreater : selects .greaterThan ↔ o = .gt := by
    rw [h .greaterThan .greater rfl]
    cases o <;> decide
  rw [h .greaterEqual .greaterEqual rfl, h .lessEqual .lessEqual rfl, h .notEquals .notEqual rfl,
    hless, hequals, hgreater]
  refine ⟨?_, by cases o <;> decide, by cases o <;> decide, by cases o <;> decide⟩
  cases o with
  | lt => exact ⟨.lessThan, by simp [hless], by simp [hequals, hgreater]⟩
  | eq => exact ⟨.equals, by simp [hequals], by simp [hless, hgreater]⟩
  | gt => exact ⟨.greaterThan, by simp [hgreater], by simp [hless, hequals]⟩

end Tests

section Tasks

variable {env : Surroundings} {s : Store} {schema : BoardSchema} {archived : Bool} {t : Task}
  {r : Resolved} {name : String}

/-- The operators divide the tasks of a board by any attribute and by any column. -/
theorem operators_partition (hs : s.UniqueRows) (hnan : ∀ row ∈ s.values, row.value ≠ .num .nan)
    (hresolve : resolve (some schema) name = some r) (ht : t ∈ s.tasks)
    (hscope : inScope schema archived t = true) :
    Division env r (r.Filled s t) fun op v => t ∈ selectTasks s schema archived
      (Selection.ofLeaf schema ⟨name, r.columnType, op, v, .all⟩).condition := by
  have hselects (op : Operator) (v : Operand) (hv : v.GoesWith op) :
      t ∈ selectTasks s schema archived
          (Selection.ofLeaf schema ⟨name, r.columnType, op, v, .all⟩).condition
        ↔ ((operatorTest r.storage op v).eval (r.cell s t)).isYes = true := by
    rw [mem_selectTasks_ofLeaf hs hresolve rfl hv, and_iff_right ht, and_iff_right hscope]
  have hunfilled (hfilled : ¬ r.Filled s t) {op : Operator} {raw : Json} {v : Operand}
      (hop : op.testsEmptiness = false) (hread : r.Reads env op raw v) :
      (operatorTest r.storage op v).eval (r.cell s t) = .unknown := by
    have hnull : r.cell s t = .null := by
      rwa [filled_iff hs, not_not] at hfilled
    rw [hnull, operatorTest_null hread.goesWith hop]
  constructor
  case emptiness =>
    have hempty : (operatorTest r.storage .isEmpty .absent).eval (r.cell s t) ≠ .unknown :=
      isEmpty_decided r _
    have hnot : (operatorTest r.storage .isNotEmpty .absent).eval (r.cell s t)
        = ((operatorTest r.storage .isEmpty .absent).eval (r.cell s t)).not :=
      operatorTest_complement (.absent rfl) rfl
    rw [hselects _ _ (.absent rfl), hselects _ _ (.absent rfl), hnot,
      Truth.isYes_not_of_decided hempty, Bool.not_eq_true', Bool.not_eq_true]
  case complements =>
    intro op op' hne hcomplement raw v hread
    have hread' := hread.complement hne hcomplement
    have hop : op.testsEmptiness = false := by
      cases op <;> first | rfl | contradiction
    rw [hselects _ _ hread.goesWith, hselects _ _ hread'.goesWith,
      operatorTest_complement hread.goesWith hcomplement]
    refine ⟨hread', ?_⟩
    by_cases hfilled : r.Filled s t
    · have hdecided : (operatorTest r.storage op v).eval (r.cell s t) ≠ .unknown :=
        operatorTest_decided hread.goesWith hop (comparable_of_filled hs hnan hfilled)
      rw [Truth.isYes_not_of_decided hdecided]
      simp [hfilled]
    · rw [hunfilled hfilled hop hread]
      simp [hfilled, Truth.isYes, Truth.not]
  case unfilled =>
    intro hfilled op raw v hop hread
    rw [hselects _ _ hread.goesWith, hunfilled hfilled hop hread]
    exact Bool.false_ne_true
  case comparisons =>
    intro hfamily hfilled raw v hread
    have hreads (op : Operator) (hmem : op ∈ r.columnType.operators)
        (hop : op.testsEmptiness = false) : r.Reads env op raw v := by
      have hlist := takesList_eq_false hmem (by rcases hfamily with h | h <;> simp [h])
        (by rcases hfamily with h | h <;> simp [h])
      exact hread.alike hmem rfl hop hlist fun h => by simp [h] at hfamily
    obtain ⟨o, ho⟩ := exists_position (r := r) hfamily rfl hread.formed.1
      (comparable_of_filled hs hnan hfilled)
    refine ⟨hreads, comparisons_of_position (o := o) fun op cmp hcmp => ?_⟩
    have hop : op ∈ r.columnType.operators ∧ op.testsEmptiness = false := by
      rw [ColumnType.operators]
      rcases hfamily with h | h <;> rw [h] <;> cases op <;>
        first | exact ⟨by decide, rfl⟩ | exact absurd hcmp (by simp [Operator.comparison?])
    rw [hselects _ _ (hreads op hop.1 hop.2).goesWith, operatorTest_comparison hcmp, ho]
  case lists =>
    intro raw items hread
    have hne : items ≠ [] := by
      cases hread.goesWith with
      | holding h => simp at h
      | oneOf _ hne => exact hne
    refine ⟨fun x => hread.item, ?_, ?_⟩
    · rw [hselects _ _ hread.goesWith, isYes_isIn, List.any_eq_true]
      exact exists_congr fun x => and_congr_right fun _ => (hselects _ _ (.whole (.inl rfl))).symm
    · rw [hselects _ _ (.oneOf (.inr rfl) hne), isYes_notIn hne, List.all_eq_true]
      exact forall₂_congr fun x _ => (hselects _ _ (.whole (.inr rfl))).symm
  case labels =>
    intro raw items hread
    have hne : items ≠ [] := by
      cases hread.goesWith with
      | holding _ hne => exact hne
      | oneOf h => simp at h
    have hone (x : String) : [x] ≠ [] := List.cons_ne_nil _ _
    refine ⟨fun x => hread.label, ?_, ?_⟩
    · rw [hselects _ _ hread.goesWith, isYes_contains, List.any_eq_true]
      exact exists_congr fun x => and_congr_right fun _ =>
        (hselects _ _ (.holding (.inl rfl) (hone x))).symm
    · rw [hselects _ _ (.holding (.inr rfl) hne), isYes_notContains, List.all_eq_true]
      exact forall₂_congr fun x _ => (hselects _ _ (.holding (.inr rfl) (hone x))).symm

end Tasks

section Example

def dueColumn : BoardColumn := Sample.column "due" .date []

/-- Two tasks, of which one has a day. -/
def dated : Store :=
  Sample.store dueColumn [Sample.task "t", Sample.task "u"] [("t", .str "2024-03-01")]

def datedSchema : BoardSchema := ⟨Sample.board.id, Sample.board.workspaceId, [dueColumn]⟩

/-- A day comes before the operand, is the operand or comes after it. A task without a day is
neither equal to the operand nor different from it. -/
theorem operators_partition_due :
    (∃! op, op ∈ [Operator.lessThan, .equals, .greaterThan]
      ∧ Sample.task "t" ∈ selectTasks dated datedSchema false
        (Selection.ofLeaf datedSchema ⟨"due", .date, op, .day leapDay, .all⟩).condition)
    ∧ ¬ (Sample.task "u" ∈ selectTasks dated datedSchema false
        (Selection.ofLeaf datedSchema ⟨"due", .date, .equals, .day leapDay, .all⟩).condition
      ∨ Sample.task "u" ∈ selectTasks dated datedSchema false
        (Selection.ofLeaf datedSchema
          ⟨"due", .date, .notEquals, .day leapDay, .all⟩).condition) := by
  have hrows : dated.UniqueRows := by decide
  have hnan : ∀ row ∈ dated.values, row.value ≠ .num .nan := by
    simp [dated, Sample.store]
  have hresolve : resolve (some datedSchema) "due" = some (.column dueColumn .date) := rfl
  have hreads : (Resolved.column dueColumn .date).Reads ⟨Moment.first, none⟩ .equals
      (.str "2024-02-29") (.day leapDay) := ⟨by decide, "", rfl⟩
  have hdivision (t : Task) (ht : t ∈ dated.tasks) (hscope : inScope datedSchema false t = true) :=
    @operators_partition ⟨Moment.first, none⟩ dated datedSchema false t _ "due" hrows hnan hresolve
      ht hscope
  constructor
  · have hfilled : (Resolved.column dueColumn .date).Filled dated (Sample.task "t") :=
      ⟨_, List.mem_singleton_self _, rfl, rfl, Json.noConfusion⟩
    have hdated := hdivision (Sample.task "t") (by decide) (by decide)
    exact (hdated.comparisons (.inr rfl) hfilled _ _ hreads).2.1
  · have hempty : ¬ (Resolved.column dueColumn .date).Filled dated (Sample.task "u") := by
      simp [Resolved.Filled, dated, Sample.store, Sample.task]
    obtain ⟨-, -, hone⟩ := (hdivision (Sample.task "u") (by decide) (by decide)).complements .equals
      .notEquals Operator.noConfusion rfl _ _ hreads
    exact hone.not.2 hempty

end Example

end BoardQuery
