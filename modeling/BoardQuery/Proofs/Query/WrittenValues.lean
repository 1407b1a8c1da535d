import BoardQuery.Proofs.Query.Membership
import BoardQuery.Proofs.Query.Positions
import BoardQuery.Proofs.Value.Forms

/-!
# What is written is found

Values that are written and operands that are compared with are read by different rules, but a raw
value that both accept is read as the same by both (`counterpart_of_read`). Where no stored text
holds a null character, an operand therefore finds the tasks whose value is the one that its raw
value would be written as (`equals_finds_written`). The store compares texts up to their first null
character only.
-/

namespace BoardQuery

open FilterBuilder Json

/-! ## One raw value read in two ways -/

/-- An operand of a type, and the value that is written for it. -/
inductive Operand.Counterpart (t : ColumnType) (o : Options) : Operand → Json → Prop
  | text {s : String} (ht : t.family = .text ∨ t.family = .enumerated
      ∨ t = .assignee ∧ Options.flag o "multiple" = false) : Counterpart t o (.text s) (.str s)
  | member {s : String} (ht : t = .assignee) (hseveral : Options.flag o "multiple" = true) :
    Counterpart t o (.text s) (.ofStrings [s])
  | number {x : Binary64} (ht : t.family = .numeric) (hx : x.isFinite = true) :
    Counterpart t o (.number x) (.num x)
  | day {m : Moment} (ht : t = .date) (hm : dateWithinBounds m = true) :
    Counterpart t o (.day m.date) (.str m.date.text)
  | second {m : Moment} (ht : t = .datetime) (hm : dateWithinBounds m = true) :
    Counterpart t o (.second m.wholeSecond) (.str m.secondText)
  | checked {b : Bool} (ht : t = .checkbox) : Counterpart t o (.checked b) (.bool b)

section Reading

variable {env env' : Surroundings} {t : ColumnType} {o o' : Options} {raw w : Json} {v : Operand}

/-- A raw value is read as an operand and as a value to write alike; a date may stand for another
one at another moment. -/
theorem counterpart_of_read (ht : t ≠ .labels) (hnow : t.family = .date → env'.now = env.now)
    (hread : readOperand env' t .equals o raw = .ok v)
    (hform : canonicalForm env t o' raw = .ok w) : v.Counterpart t o' w := by
  rw [readOperand, if_neg (by decide)] at hread
  cases hfamily : t.family with
  | text =>
    simp only [hfamily] at hread
    obtain ⟨s, rfl, htext⟩ := textOperand_eq_ok.1 hread
    rw [if_pos (.inl rfl)] at htext
    obtain ⟨-, rfl⟩ := htext
    have hw : w = .str (Text.trim s) := by
      cases t <;> first | exact absurd hfamily (by decide) | exact (Except.ok.inj hform).symm
    exact hw ▸ .text (.inl hfamily)
  | numeric =>
    simp only [hfamily, numberOperand_eq_ok] at hread
    obtain ⟨x, hx, rfl, -⟩ := hread
    have hw : w = .num x := by
      cases t <;> first | exact absurd hfamily (by decide) | skip
      all_goals
        simp only [canonicalForm, hx, ok_bind, pure_eq_ok] at hform
        exact hform.symm
    exact hw ▸ .number hfamily (isFinite_of_toNumber? hx)
  | date =>
    simp only [hfamily, dateOperand_eq_ok, hnow hfamily] at hread
    obtain ⟨m, hm, hbounds, rfl⟩ := hread
    cases t <;> first | exact absurd hfamily (by decide) | skip
    all_goals
      simp only [canonicalForm, hm, ok_bind, pure_eq_ok] at hform
      subst hform
    · exact .day rfl hbounds
    · exact .second rfl hbounds
  | enumerated =>
    simp only [hfamily, choiceOperand_eq_ok] at hread
    obtain ⟨choices, -, hread⟩ := hread
    obtain ⟨s, -, rfl, rfl⟩ := hread
    have hw : w = .str s := by
      cases t <;> first | exact absurd hfamily (by decide) | exact (Except.ok.inj hform).symm
    exact hw ▸ .text (.inr (.inl hfamily))
  | assignee =>
    obtain rfl : t = .assignee := ColumnType.eq_of_family hfamily (by decide)
    simp only [hfamily, userOperand_eq_ok] at hread
    obtain ⟨s, hs, -, rfl⟩ := hread
    obtain ⟨hne, u, rfl, htrim⟩ := userId?_eq_some.1 hs
    simp only [canonicalForm, Except.ok.injEq, listed?, Option.getD_some] at hform
    split_ifs at hform with hmultiple
    · have hone : trimmedDistinct [u] = [s] := by simp [trimmedDistinct, htrim, hne, distinct]
      rw [hone] at hform
      exact hform ▸ .member rfl hmultiple
    · rw [htrim] at hform
      exact hform ▸ .text (.inr (.inr ⟨rfl, by simpa using hmultiple⟩))
  | labels => exact absurd (ColumnType.eq_of_family hfamily (by decide)) ht
  | checkbox =>
    obtain rfl : t = .checkbox := ColumnType.eq_of_family hfamily (by decide)
    simp only [hfamily, truthOperand_eq_ok] at hread
    obtain ⟨b, hb, rfl⟩ := hread
    simp only [canonicalForm, hb, Except.ok.injEq] at hform
    exact hform ▸ .checked rfl

end Reading

/-! ## Days and seconds -/

/-- Texts that tell moments apart by this unit: the next unit begins after all texts up to now. -/
theorem written_next {written : Moment → String} {unit : Nat} (hunit : 0 < unit)
    (h : ∀ m n : Moment, written m < written n ↔ m.instant / unit < n.instant / unit) {m : Moment}
    (hlater : (m.later unit).instant = m.instant + unit) (n : Moment) :
    written n < written (m.later unit) ↔ written n ≤ written m := by
  rw [h, hlater, Nat.add_div_right _ hunit, Nat.lt_succ_iff, ← not_lt (b := written n), h, not_lt]

/-- The dates that filters compare with are far from the end of the calendar. -/
theorem instant_later_of_bounds {m : Moment} {micros : Nat} (hm : dateWithinBounds m = true)
    (hmicros : micros ≤ microsPerDay) : (m.later micros).instant = m.instant + micros := by
  have hyear : m.date.year + 1 ≤ 2101 := by
    simp only [dateWithinBounds, Bool.and_eq_true, Bool.or_eq_true, decide_eq_true_eq,
      beq_iff_eq] at hm
    omega
  have hday : m.date.number + 2 ≤ Date.daysBeforeYear (maxYear + 1) := by
    have hlast : Date.daysBeforeYear 2101 + 2 ≤ Date.daysBeforeYear (maxYear + 1) := by decide
    have := m.date.number_lt_nextYear.trans_le (Date.daysBeforeYear_mono hyear)
    omega
  have hmicros' := m.micros_lt
  have hspan := Nat.mul_le_mul_right microsPerDay hday
  rw [Nat.add_mul] at hspan
  refine Moment.instant_later ?_
  simp only [Moment.instant]
  omega

/-! ## What an operand finds -/

/-- Whether a stored value is the one that was written: numbers are the same in value, and a list of
users holds the one that was written. -/
def Json.SameValue (t : ColumnType) (o : Options) (v w : Json) : Prop :=
  if t.family = .numeric then ∃ x y, v = .num x ∧ w = .num y ∧ x.eq y = true
  else if t = .assignee ∧ Options.flag o "multiple" = true then
    ∃ items s, v = .ofStrings items ∧ w = .ofStrings [s] ∧ ∃ e ∈ items, Text.Alike s e
  else v = w

section Found

variable {t : ColumnType} {o : Options} {v : Operand} {u w : Json} {c : BoardColumn}

theorem ofStored_of_null_not_mem {s : String} (h : '\x00' ∉ s.toList) :
    Cell.ofStored (.str s) = .text s := by
  rw [Cell.ofStored, takeWhile_of_null_not_mem h, String.ofList_toList]

theorem equal_stored {s y : String} (h : '\x00' ∉ y.toList) :
    ((CellTest.compare .equal (.text s)).eval (.ofStored (.str y))).isYes = true ↔ y = s := by
  rw [ofStored_of_null_not_mem h, CellTest.eval, test_equal_text Cell.noConfusion,
    Truth.isYes_ofBool, beq_iff_eq, Cell.text.injEq]

theorem stretch_stored {start stop y : String} (h : '\x00' ∉ y.toList)
    (hstop : y < stop ↔ y ≤ start) :
    ((stretchTest .equal (.text start) (.text stop)).eval (.ofStored (.str y))).isYes = true
      ↔ y = start := by
  have hnull : Cell.text y ≠ .null := Cell.noConfusion
  rw [ofStored_of_null_not_mem h, stretchTest, CellTest.eval, CellTest.eval, CellTest.eval,
    Truth.isYes_and, (Cell.test_less_text hnull).1, (Cell.test_less_text hnull).2, Bool.and_eq_true,
    Bool.not_eq_true', ← Bool.not_eq_true, Cell.isBelow_text, Cell.isBelow_text, hstop, not_lt,
    and_comm, le_antisymm_iff]

theorem number_stored {x y : Binary64} (hx : x.isFinite = true) (hy : y.isFinite = true) :
    ((CellTest.compare .equal (.real x)).eval (.ofStored (.num y))).isYes = true
      ↔ y.eq x = true := by
  have hunits {z : Binary64} (hz : z.isFinite = true) : ∃ n, z.units? = some n := by
    cases z with
    | nan => exact absurd hz (by decide)
    | signed => exact ⟨_, rfl⟩
  obtain ⟨m, hm⟩ := hunits hx
  obtain ⟨n, hn⟩ := hunits hy
  have hcompare : (Cell.real y).compare? (.real x) = some (compare n m) := by
    simp only [Cell.compare?, Cell.units?, hm, hn]
  rw [CellTest.eval, Cell.ofStored, Comparison.test, hcompare, Truth.isYes_ofBool]
  simp [Comparison.holds, Binary64.eq, hm, hn]

theorem checked_stored {a b : Bool} :
    ((CellTest.compare .equal (.int (if b then 1 else 0))).eval (.ofStored (.bool a))).isYes = true
      ↔ a = b := by
  cases a <;> cases b <;> decide

section Forms

variable {o' : Options} {s : String}

theorem found_text (ht : t.family = .text ∨ t.family = .enumerated
      ∨ t = .assignee ∧ Options.flag o "multiple" = false) (hu : u.CanonicalOf t o)
    (hsame : Options.flag o' "multiple" = Options.flag o "multiple")
    (hnull : ∀ y, u = .str y → '\x00' ∉ y.toList) :
    ((operatorTest (.ofColumn t o') .equals (.text s)).eval (.ofStored u)).isYes = true
      ↔ u.SameValue t o (.str s) := by
  have hstr : ∃ y, u = .str y := by
    cases hu <;> first | exact ⟨_, rfl⟩ | (exfalso; simp_all [ColumnType.family])
  obtain ⟨y, rfl⟩ := hstr
  have hplain : (Storage.ofColumn t o').listed = false ∧ t.family ≠ .numeric
      ∧ ¬ (t = .assignee ∧ Options.flag o "multiple" = true) := by
    rcases ht with ht | ht | ⟨rfl, hsingle⟩
    · cases t <;> first | exact absurd ht (by decide) | exact ⟨rfl, by decide, by simp⟩
    · cases t <;> first | exact absurd ht (by decide) | exact ⟨rfl, by decide, by simp⟩
    · simp [Storage.ofColumn, hsame, hsingle, ColumnType.family]
  rw [operatorTest_equals_text, Storage.equalTest, if_neg (by simp [hplain.1]),
    equal_stored (hnull y rfl), SameValue, if_neg hplain.2.1, if_neg hplain.2.2, Json.str.injEq]

theorem found_member (hseveral : Options.flag o "multiple" = true) (hu : u.CanonicalOf .assignee o)
    (hsame : Options.flag o' "multiple" = Options.flag o "multiple") (hs : s ≠ ",")
    (hquote : ∀ items, u = .ofStrings items → ∀ e ∈ items, '"' ∉ e.toList) :
    ((operatorTest (.ofColumn .assignee o') .equals (.text s)).eval (.ofStored u)).isYes = true
      ↔ u.SameValue .assignee o (.ofStrings [s]) := by
  have hlist : ∃ items, u = .ofStrings items := by
    cases hu <;> first | exact ⟨_, rfl⟩ | (exfalso; simp_all [ColumnType.family])
  obtain ⟨items, rfl⟩ := hlist
  have hlisted : (Storage.ofColumn .assignee o').listed = true := by
    simp [Storage.ofColumn, hsame, hseveral]
  rw [operatorTest_equals_text, Storage.equalTest, if_pos hlisted, memberTest_isYes_iff,
    foundIn_iff_of_plain hs (hquote items rfl), SameValue, if_neg (by decide),
    if_pos ⟨rfl, hseveral⟩]
  simp [ofStrings_injective.eq_iff]

theorem found_number {x : Binary64} (ht : t.family = .numeric) (hx : x.isFinite = true)
    (hu : u.CanonicalOf t o) :
    ((operatorTest (.ofColumn t o') .equals (.number x)).eval (.ofStored u)).isYes = true
      ↔ u.SameValue t o (.num x) := by
  have hnum : ∃ y, u = .num y ∧ y.isFinite = true := by
    cases hu <;> first | exact ⟨_, rfl, ‹_›⟩ | (exfalso; simp_all [ColumnType.family])
  obtain ⟨y, rfl, hy⟩ := hnum
  have htest : operatorTest (.ofColumn t o') .equals (.number x) = .compare .equal (.real x) :=
    operatorTest_comparison rfl
  rw [htest, number_stored hx hy, SameValue, if_pos ht]
  simp

theorem found_day {m : Moment} (hm : dateWithinBounds m = true) (hu : u.CanonicalOf .date o)
    (hnull : ∀ y, u = .str y → '\x00' ∉ y.toList) :
    ((operatorTest (.ofColumn .date o') .equals (.day m.date)).eval (.ofStored u)).isYes = true
      ↔ u.SameValue .date o (.str m.date.text) := by
  have hday : ∃ d : Date, u = .str d.text := by
    cases hu with
    | day => exact ⟨_, rfl⟩
    | text ht | number ht | choice ht => exact absurd ht (by decide)
    | second ht | user ht | users ht | labels ht | checked ht => exact absurd ht (by decide)
  obtain ⟨d, rfl⟩ := hday
  have htest : operatorTest (.ofColumn .date o') .equals (.day m.date)
      = stretchTest .equal (.text m.date.text)
        (.text ((Moment.midnight m.date).later microsPerDay).date.text) := by
    simp [operatorTest, Operator.comparison?, comparisonTest, Storage.ofColumn,
      Moment.date_midnight]
  have hstart : dateWithinBounds (Moment.midnight m.date) = true :=
    dateWithinBounds_of_le (m := m) rfl (Nat.zero_le _) hm
  have hnext : d.text < ((Moment.midnight m.date).later microsPerDay).date.text
      ↔ d.text ≤ m.date.text :=
    @written_next (fun n => n.date.text) _ (by decide) Moment.text_lt_iff _
      (instant_later_of_bounds hstart le_rfl) (.midnight d)
  have hmissing := hnull d.text rfl
  rw [htest, stretch_stored hmissing hnext, SameValue, if_neg (by decide), if_neg (by simp),
    Json.str.injEq]

theorem found_second {m : Moment} (hm : dateWithinBounds m = true) (hu : u.CanonicalOf .datetime o)
    (hnull : ∀ y, u = .str y → '\x00' ∉ y.toList) :
    ((operatorTest (.ofColumn .datetime o') .equals (.second m.wholeSecond)).eval
        (.ofStored u)).isYes = true
      ↔ u.SameValue .datetime o (.str m.secondText) := by
  have hmoment : ∃ n : Moment, u = .str n.secondText := by
    cases hu with
    | second => exact ⟨_, rfl⟩
    | text ht | number ht | choice ht => exact absurd ht (by decide)
    | day ht | user ht | users ht | labels ht | checked ht => exact absurd ht (by decide)
  obtain ⟨n, rfl⟩ := hmoment
  have htest : operatorTest (.ofColumn .datetime o') .equals (.second m.wholeSecond)
      = stretchTest .equal (.text m.secondText)
        (.text (m.wholeSecond.later microsPerSecond).secondText) := by
    simp [operatorTest, Operator.comparison?, comparisonTest, Storage.ofColumn,
      m.secondText_wholeSecond]
  have hstart : dateWithinBounds m.wholeSecond = true :=
    dateWithinBounds_of_le (m := m) rfl (Nat.sub_le _ _) hm
  have hnext : n.secondText < (m.wholeSecond.later microsPerSecond).secondText
      ↔ n.secondText ≤ m.wholeSecond.secondText :=
    written_next (by decide) Moment.secondText_lt_iff'
      (instant_later_of_bounds hstart (by decide)) n
  rw [m.secondText_wholeSecond] at hnext
  have hmissing := hnull n.secondText rfl
  rw [htest, stretch_stored hmissing hnext, SameValue, if_neg (by decide), if_neg (by simp),
    Json.str.injEq]

theorem found_checked {b : Bool} (hu : u.CanonicalOf .checkbox o) :
    ((operatorTest (.ofColumn .checkbox o') .equals (.checked b)).eval (.ofStored u)).isYes = true
      ↔ u.SameValue .checkbox o (.bool b) := by
  have hbool : ∃ a, u = .bool a := by
    cases hu <;> first | exact ⟨_, rfl⟩ | (exfalso; simp_all [ColumnType.family])
  obtain ⟨a, rfl⟩ := hbool
  have htest : operatorTest (.ofColumn .checkbox o') .equals (.checked b)
      = .compare .equal (.int (if b then 1 else 0)) := operatorTest_comparison rfl
  rw [htest, checked_stored, SameValue, if_neg (by decide), if_neg (by simp), Json.bool.injEq]

/-- An operand passes the values that are the same as the one it was read with. -/
theorem counterpart_found (hv : v.Counterpart t o w) (hu : u.CanonicalOf t o)
    (hsame : Options.flag o' "multiple" = Options.flag o "multiple")
    (hnull : ∀ y, u = .str y → '\x00' ∉ y.toList)
    (hitem : ∀ s, w = .ofStrings [s] → s ≠ ",")
    (hquote : ∀ items, u = .ofStrings items → ∀ e ∈ items, '"' ∉ e.toList) :
    ((operatorTest (.ofColumn t o') .equals v).eval (.ofStored u)).isYes = true
      ↔ u.SameValue t o w := by
  cases hv with
  | text ht => exact found_text ht hu hsame hnull
  | member ht hseveral =>
    subst ht
    exact found_member hseveral hu hsame (hitem _ rfl) hquote
  | number ht hx => exact found_number ht hx hu
  | day ht hm =>
    subst ht
    exact found_day hm hu hnull
  | second ht hm =>
    subst ht
    exact found_second hm hu hnull
  | checked ht =>
    subst ht
    exact found_checked hu

end Forms

end Found

/-! ## Conditions on what was written -/

/-- Whether an id is free of quotes, backslashes and commas. -/
def Text.PlainId (s : String) : Prop :=
  ∀ c ∈ s.toList, c ≠ '"' ∧ c ≠ '\\' ∧ c ≠ ','

/-- The fields of the condition that a column is equal to a raw value. -/
def equalsFields (name : String) (t : ColumnType) (raw : Json) : Fields :=
  [("column", .str name), ("column_type", .str t.name), ("operator", .str "equals"), ("value", raw)]

section Conditions

variable {env env' : Surroundings} {schema : BoardSchema} {stale : Bool} {path : String}
  {c : BoardColumn} {type : ColumnType} {raw w : Json} {l : Leaf String Operand} {s : Store}

/-- A column is addressed by its id, unless an attribute has the name. -/
theorem resolve_id (hname : Attribute.ofName? c.id = none) (hfind : schema.find? c.id = some c)
    (htype : c.columnType? = some type) :
    resolve (some schema) c.id = some (.column c type) := by
  simp [resolve, hname, hfind, htype]

/-- What the condition is built into. -/
theorem buildLeaf_equalsFields (hresolve : resolve (some schema) c.id = some (.column c type))
    (h : buildLeaf ⟨env', resolve (some schema), stale⟩ path (equalsFields c.id type raw) = .ok l) :
    l.column = c.id ∧ l.columnType = type ∧ l.operator = .equals
      ∧ readOperand env' type .equals (c.effectiveOptions type) raw = .ok l.operand := by
  obtain ⟨head, t', o, hhead, hop, hadopted, hread, hcolumn, htype, -⟩ := buildLeaf_eq_ok.1 h
  obtain ⟨hname, -, htype', -, hoperator, -⟩ := readHead_eq_ok.1 hhead
  have hget : Fields.get (equalsFields c.id type raw) "column" = .str c.id
      ∧ Fields.get (equalsFields c.id type raw) "column_type" = .str type.name
      ∧ Fields.get (equalsFields c.id type raw) "operator" = .str "equals"
      ∧ Fields.get (equalsFields c.id type raw) "value" = raw := ⟨rfl, rfl, rfl, rfl⟩
  rw [hget.1, columnName?_eq_some, Json.str.injEq] at hname
  rw [hget.2.1] at htype'
  have htype'' : type = head.columnType :=
    Option.some.inj ((ColumnType.ofName?_name type).symm.trans htype')
  rw [hoperator, hget.2.2.1, readOperator_eq_ok] at hop
  have hequals : l.operator = .equals := (Option.some.inj hop.1).symm
  rw [← hname.1, ← htype''] at hadopted
  obtain ⟨rfl, rfl⟩ : t' = type ∧ o = c.effectiveOptions type := by
    simpa [Resolved.columnType, Resolved.options] using (adopted_of_some hresolve).1 hadopted
  rw [hget.2.2.2, hequals, readOperandAt_eq_ok] at hread
  exact ⟨hcolumn.trans hname.1.symm, htype, hequals, hread.2⟩

/-- A raw value that is accepted both as a value of a column and as an operand finds the tasks whose
value is the one it is written as. -/
theorem equals_finds_written (hs : s.UniqueRows) (hname : Attribute.ofName? c.id = none)
    (hfind : schema.find? c.id = some c) (htype : c.columnType? = some type)
    (hlabels : type ≠ .labels)
    (hstored : ∀ row ∈ s.values, row.columnId = c.id → row.value = .null
      ∨ ∃ env raw, validateFor env c c.name raw = .ok row.value)
    (htexts : ∀ row ∈ s.values, row.columnId = c.id → ∀ y, row.value = .str y → '\x00' ∉ y.toList)
    (hids : ∀ row ∈ s.values, row.columnId = c.id → ∀ items, row.value = .ofStrings items →
      ∀ e ∈ items, Text.PlainId e)
    (hvalid : validateFor env c c.name raw = .ok w) (hw : w ≠ .null)
    (hid : ∀ id, w = .ofStrings [id] → Text.PlainId id)
    (hbuilt :
      buildLeaf ⟨env', resolve (some schema), stale⟩ path (equalsFields c.id type raw) = .ok l)
    (hnow : type.family = .date → env'.now = env.now) (archived : Bool) (t : Task) :
    t ∈ selectTasks s schema archived (Selection.ofLeaf schema l).condition
      ↔ t ∈ s.tasks ∧ inScope schema archived t = true
        ∧ ∃ v, s.value? t.id c.id = some v ∧ v.SameValue type (c.effectiveOptions type) w := by
  have hresolve := resolve_id hname hfind htype
  obtain ⟨hcolumn, hleaf, hequals, hread⟩ := buildLeaf_equalsFields hresolve hbuilt
  have hwell := (buildLeaf_sound hbuilt).1
  have hgoes := hwell.operand.goesWith hwell.operator
  have hflag : Options.flag (type.effectiveOptions (c.effectiveOptions type)) "multiple"
      = Options.flag (c.effectiveOptions type) "multiple" := by
    rw [Options.flag, get_effectiveOptions_twice, Options.flag]
  have hcounterpart :
      l.operand.Counterpart type (type.effectiveOptions (c.effectiveOptions type)) w := by
    rcases validate_eq_ok ((validateFor_eq_ok htype).1 hvalid) with ⟨hnull, -⟩ | ⟨-, -, hform, -⟩
    · exact absurd hnull hw
    · exact counterpart_of_read hlabels hnow hread hform
  have hnone : ((operatorTest (.ofColumn type (c.effectiveOptions type)) .equals l.operand).eval
      .null).isYes = false := by
    rw [operatorTest_null (hequals ▸ hgoes) rfl]
    rfl
  have hnotNull : ¬ Json.null.SameValue type (c.effectiveOptions type) w := by
    unfold SameValue
    split_ifs
    · simp
    · simp [ofStrings]
    · exact hw.symm
  have hitem (id : String) (hwritten : w = .ofStrings [id]) : id ≠ "," := by
    rintro rfl
    exact (hid "," hwritten ',' (by decide)).2.2 rfl
  rw [mem_selectTasks_ofLeaf hs (hcolumn ▸ hresolve) (by rw [hleaf]; rfl) hgoes, hequals]
  refine and_congr_right fun _ => and_congr_right fun _ => ?_
  rw [Resolved.storage, Resolved.cell]
  cases hvalue : s.value? t.id c.id with
  | none => simp [Cell.ofStored, hnone]
  | some v =>
    obtain ⟨row, hrow, -, hrowColumn, rfl⟩ := Store.exists_row hvalue
    simp only [Option.getD_some, Option.some.injEq, exists_eq_left']
    rcases hstored row hrow hrowColumn with hnull | ⟨env, raw, hwritten⟩
    · simp [hnull, Cell.ofStored, hnone, hnotNull]
    · rcases canonicalOf_of_validateFor htype hwritten with hnull | hcanonical
      · simp [hnull, Cell.ofStored, hnone, hnotNull]
      · have hquote (items : List String) (hlist : row.value = .ofStrings items) (e : String)
            (he : e ∈ items) : '"' ∉ e.toList :=
          fun hmem => (hids row hrow hrowColumn items hlist e he _ hmem).1 rfl
        rw [counterpart_found hcounterpart hcanonical hflag.symm (htexts row hrow hrowColumn) hitem
          hquote, SameValue, SameValue, hflag]

end Conditions

section Example

def noteColumn : BoardColumn := Sample.column "note" .text []

/-- Two tasks with notes, of which the second is the first one and more after a null character. -/
def noted : Store :=
  Sample.store noteColumn [Sample.task "t", Sample.task "u"]
    [("t", .str "abc"), ("u", .str "abc\x00def")]

/-- Two tasks with other notes. -/
def notedApart : Store :=
  Sample.store noteColumn [Sample.task "t", Sample.task "u"] [("t", .str "abc"), ("u", .str "def")]

def noteSchema : BoardSchema := ⟨Sample.board.id, Sample.board.workspaceId, [noteColumn]⟩

def noteEquals (s : String) : Leaf String Operand :=
  ⟨"note", .text, .equals, .text s, .all⟩

/-- The present moment, without a list of users. -/
def atFirst : Surroundings := ⟨Moment.first, none⟩

theorem buildLeaf_noteEquals : buildLeaf ⟨atFirst, resolve (some noteSchema), false⟩ "filters.0"
    (equalsFields "note" .text (.str " abc ")) = .ok (noteEquals "abc") := rfl

/-- A note is found by what it was written from, with blanks around it, and no other note is. -/
theorem equals_finds_written_abc :
    Sample.task "t" ∈ selectTasks notedApart noteSchema false
        (Selection.ofLeaf noteSchema (noteEquals "abc")).condition
      ∧ Sample.task "u" ∉ selectTasks notedApart noteSchema false
        (Selection.ofLeaf noteSchema (noteEquals "abc")).condition := by
  have hrows (row : FieldValue) (hrow : row ∈ notedApart.values) :
      row.value = .str "abc" ∨ row.value = .str "def" := by
    simp only [notedApart, Sample.store, List.map_cons, List.map_nil, List.mem_cons,
      List.not_mem_nil,
      or_false] at hrow
    rcases hrow with rfl | rfl
    · exact .inl rfl
    · exact .inr rfl
  have hstored (row : FieldValue) (hrow : row ∈ notedApart.values) (_ : row.columnId = "note") :
      row.value = .null ∨ ∃ env raw, validateFor env noteColumn "note" raw = .ok row.value := by
    rcases hrows row hrow with h | h <;> rw [h]
    · exact .inr ⟨atFirst, .str "abc", rfl⟩
    · exact .inr ⟨atFirst, .str "def", rfl⟩
  have htexts (row : FieldValue) (hrow : row ∈ notedApart.values) (_ : row.columnId = "note")
      (y : String) (hy : row.value = .str y) : '\x00' ∉ y.toList := by
    rcases hrows row hrow with h | h <;> rw [h] at hy <;> obtain rfl := Json.str.inj hy <;> decide
  have hids (row : FieldValue) (hrow : row ∈ notedApart.values) (_ : row.columnId = "note")
      (items : List String) (hlist : row.value = .ofStrings items) (e : String) (_ : e ∈ items) :
      Text.PlainId e := by
    rcases hrows row hrow with h | h <;> rw [h] at hlist <;> exact absurd hlist Json.noConfusion
  have hfinds := equals_finds_written (by decide) (by decide) rfl rfl (by decide) hstored htexts
    hids
    (show validateFor atFirst noteColumn "note" (.str " abc ") = .ok (.str "abc") from rfl)
    Json.noConfusion (fun id hid => absurd hid Json.noConfusion) buildLeaf_noteEquals
    (fun _ => rfl) false
  constructor
  · exact (hfinds _).2 ⟨by decide, by decide, .str "abc", rfl, rfl⟩
  · rintro hmem
    obtain ⟨-, -, v, hv, hsame⟩ := (hfinds _).1 hmem
    obtain rfl : Json.str "def" = v := Option.some.inj hv
    exact absurd (Json.str.inj hsame) (by decide)

/-- A note that goes on after a null character is found as what comes before it. -/
theorem equals_before_null :
    (∀ row ∈ noted.values, validateFor atFirst noteColumn "note" row.value = .ok row.value)
      ∧ validateFor atFirst noteColumn "note" (.str " abc ") = .ok (.str "abc")
      ∧ buildLeaf ⟨atFirst, resolve (some noteSchema), false⟩ "filters.0"
        (equalsFields "note" .text (.str " abc ")) = .ok (noteEquals "abc")
      ∧ noted.value? "u" "note" = some (.str "abc\x00def")
      ∧ ¬ (Json.str "abc\x00def").SameValue .text (noteColumn.effectiveOptions .text) (.str "abc")
      ∧ Sample.task "u" ∈ selectTasks noted noteSchema false
        (Selection.ofLeaf noteSchema (noteEquals "abc")).condition := by
  refine ⟨?_, rfl, rfl, rfl, ?_, by decide⟩
  · intro row hrow
    simp only [noted, Sample.store, List.map_cons, List.map_nil, List.mem_cons, List.not_mem_nil,
      or_false] at hrow
    rcases hrow with rfl | rfl <;> rfl
  · exact fun hsame => absurd (Json.str.inj hsame) (by decide)

end Example

end BoardQuery
