import BoardQuery.Proofs.Query.WrittenValues

/-!
# Dates are compared in time

A day or a second as an operand stands for all the moments in it. What a column or an attribute
keeps is compared with it as text, in texts of different widths, but each of them orders moments as
time does, down to a unit that is never longer than what the operand stands for
(`Resolved.written_lt_iff`, `stretch_position`). So a condition on dates asks how the moments of the
task and of the operand stand to each other in whole days or seconds, whatever the offset is that
the operand was stated with (`chronological_selects`).
-/

namespace BoardQuery

open FilterBuilder

/-! ## Instants that are stated -/

/-- The microseconds from the start of the calendar to what a clock with an offset shows. -/
def ZonedMoment.instant (z : ZonedMoment) : Int :=
  z.moment.instant - z.offset.getD 0

/-- What a text states on its clock, with the offset of the clock: an ISO 8601 text, or a date in
free form on the day of `now`. -/
def Json.stated? (now : Moment) : Json → Option ZonedMoment
  | .str s =>
    let cs := Text.trimChars s.toList
    match Iso.read cs with
    | .ok z => some z
    | .error .malformed => FreeForm.read? now cs
    | .error _ => none
  | _ => none

section Stated

variable {m : Moment} {z : ZonedMoment}

/-- In universal time a moment is as late as its clock shows, less the offset of the clock. -/
theorem instant_of_toUniversal (h : z.toUniversal = .ok m) : (m.instant : Int) = z.instant := by
  unfold ZonedMoment.toUniversal at h
  unfold ZonedMoment.instant
  split at h
  · rename_i hnone
    obtain rfl := Except.ok.inj h
    simp [hnone]
  · rename_i offset hoffset
    split_ifs at h
    split at h
    · rename_i n hn
      obtain rfl := Except.ok.inj h
      rw [Moment.instant_of_ofInstant? hn, hoffset, Option.getD_some]
      omega
    · exact absurd h (by simp)

/-- A value that is read as a moment states it. -/
theorem stated_of_toMoment? {now : Moment} {v : Json} (h : v.toMoment? now = .ok (some m)) :
    ∃ z, v.stated? now = some z ∧ (m.instant : Int) = z.instant := by
  cases v with
  | str s =>
    simp only [Json.toMoment?] at h
    split_ifs at h
    · exact absurd h (by simp)
    · rw [mapError_eq_ok, readMoment?] at h
      have huniversal {z : ZonedMoment} (h : z.toUniversal.map some = .ok (some m)) :
          (m.instant : Int) = z.instant := by
        obtain ⟨n, hn, hnm⟩ := map_eq_ok.1 h
        exact Option.some.inj hnm ▸ instant_of_toUniversal hn
      rw [Json.stated?]
      generalize Iso.read (Text.trimChars s.toList) = read,
        FreeForm.read? now (Text.trimChars s.toList) = free at h ⊢
      rcases read with (_ | _ | _) | z
      · cases free with
        | none => exact absurd h (by simp)
        | some z => exact ⟨z, rfl, huniversal h⟩
      · exact absurd h (by simp)
      · exact absurd h (by simp)
      · exact ⟨z, rfl, huniversal h⟩
  | _ => exact absurd h (by simp [Json.toMoment?])

end Stated

/-! ## Texts that are ordered in time -/

/-- The microseconds that a day or a second as an operand stands for. -/
def ColumnType.grain (t : ColumnType) : Nat :=
  if t = .date then microsPerDay else microsPerSecond

/-- The microseconds that the texts of a column or an attribute do not tell apart. -/
def Resolved.unit : Resolved → Nat
  | .native _ => 1
  | .column _ t => t.grain

section Grain

variable {r : Resolved} {m n start : Moment} {g k : Nat}

theorem ColumnType.grain_pos (t : ColumnType) : 0 < t.grain := by
  unfold grain
  split_ifs <;> decide

theorem Resolved.unit_dvd (r : Resolved) : r.unit ∣ r.columnType.grain := by
  cases r with
  | native a => exact Nat.one_dvd _
  | column c t => exact Nat.dvd_refl _

/-- What is kept is ordered as time is, in units. -/
theorem Resolved.written_lt_iff (r : Resolved) (m n : Moment) :
    r.storage.written m < r.storage.written n ↔ m.instant / r.unit < n.instant / r.unit := by
  cases r with
  | native a =>
    rw [unit, Nat.div_one, Nat.div_one]
    exact Moment.microText_lt_iff
  | column c t =>
    by_cases ht : t = .date
    · simpa [storage, Storage.ofColumn, unit, ColumnType.grain, ht] using Moment.text_lt_iff m n
    · simpa [storage, Storage.ofColumn, unit, ColumnType.grain, ht] using
        Moment.secondText_lt_iff' m n

/-- A text is below that of the start of a grain if its moment is in an earlier grain. -/
theorem written_lt_start (hg : r.unit ∣ g) (hpos : 0 < g) (hstart : start.instant = k * g) :
    r.storage.written m < r.storage.written start ↔ m.instant / g < k := by
  obtain ⟨j, rfl⟩ := hg
  have hunit : 0 < r.unit := Nat.pos_of_mul_pos_right hpos
  -- a whole number of grains is a whole number of units
  rw [r.written_lt_iff, hstart, Nat.mul_left_comm, Nat.mul_div_cancel_left _ hunit,
    Nat.div_lt_iff_lt_mul hunit, Nat.div_lt_iff_lt_mul hpos, Nat.mul_assoc,
    Nat.mul_comm j r.unit]

/-- The start of the day or the second that holds a moment. -/
def Moment.floor (m : Moment) (t : ColumnType) : Moment :=
  if t = .date then .midnight m.date else m.wholeSecond

theorem Moment.instant_floor (m : Moment) (t : ColumnType) :
    (m.floor t).instant = m.instant / t.grain * t.grain := by
  have hlt := m.micros_lt
  unfold floor ColumnType.grain
  split_ifs
  · simp only [instant, midnight, microsPerDay, microsPerSecond] at hlt ⊢
    omega
  · simp only [instant, wholeSecond, microsPerDay, microsPerSecond] at hlt ⊢
    omega

theorem Moment.instant_later_floor {t : ColumnType} (hm : dateWithinBounds m = true) :
    ((m.floor t).later t.grain).instant = (m.instant / t.grain + 1) * t.grain := by
  have hgrain : t.grain ≤ microsPerDay := by
    unfold ColumnType.grain
    split_ifs <;> decide
  have hfloor : dateWithinBounds (m.floor t) = true := by
    unfold floor
    split_ifs
    · exact dateWithinBounds_of_le (m := m) rfl (Nat.zero_le _) hm
    · exact dateWithinBounds_of_le (m := m) rfl (Nat.sub_le _ _) hm
  rw [instant_later_of_bounds hfloor hgrain, instant_floor, Nat.add_mul, Nat.one_mul]

/-- The operand that a moment is read as is compared with as the stretch from its start. -/
theorem comparisonTest_floor (st : Storage) (cmp : Comparison) (t : ColumnType) :
    comparisonTest st cmp (if t = .date then .day m.date else .second m.wholeSecond)
      = stretchTest cmp (.text (st.written (m.floor t)))
        (.text (st.written ((m.floor t).later t.grain))) := by
  unfold Moment.floor ColumnType.grain
  split_ifs <;> rfl

/-- What is kept of one moment stands to the stretch of another as their grains do. -/
theorem stretch_position {t : ColumnType} (ht : r.columnType = t)
    (hm : dateWithinBounds m = true) (cmp : Comparison) :
    ((comparisonTest r.storage cmp
        (if t = .date then .day m.date else .second m.wholeSecond)).eval
      (.text (r.storage.written n))).isYes
      = cmp.holds (compare (n.instant / t.grain) (m.instant / t.grain)) := by
  have hdvd : r.unit ∣ t.grain := ht ▸ r.unit_dvd
  have hstart := written_lt_start (m := n) hdvd t.grain_pos (m.instant_floor t)
  have hstop := written_lt_start (m := n) hdvd t.grain_pos (Moment.instant_later_floor hm)
  rw [comparisonTest_floor, Cell.stretchTest_position Cell.noConfusion
    (r.written_mono (Moment.instant_le_later _ _))]
  simp only [Cell.isBelow_text, hstart, hstop]
  rcases lt_trichotomy (n.instant / t.grain) (m.instant / t.grain) with h | h | h
  · rw [if_pos h, compare_lt_iff_lt.2 h]
  · rw [if_neg (by omega), if_pos (by omega), compare_eq_iff_eq.2 h]
  · rw [if_neg (by omega), if_neg (by omega), compare_gt_iff_gt.2 h]

end Grain

/-! ## Conditions on dates -/

/-- Whether what a name stands for keeps moments only: an attribute of time that may be missing, or
a column of days or seconds whose values are canonical. -/
def Resolved.KeepsMoments (s : Store) : Resolved → Prop
  | .native a => a ∈ [Attribute.dueDate, .startDate, .completedAt, .archivedAt]
  | .column c t => (t = .date ∨ t = .datetime) ∧ ∀ row ∈ s.values, row.columnId = c.id →
      row.value = .null ∨ row.value.CanonicalOf t (c.effectiveOptions t)

/-- Whether a moment is the one that a task has for what a name stands for. A day is kept as its
date, and counts as the midnight at its start. -/
def Resolved.Has (s : Store) (t : Task) (m : Moment) : Resolved → Prop
  | .native a => t.moment? a = some m
  | .column c .date =>
    ∃ d : Date, s.value? t.id c.id = some (.str d.text) ∧ m = .midnight d
  | .column c _ => s.value? t.id c.id = some (.str m.secondText) ∧ m.wholeSecond = m

section Kept

variable {s : Store} {t : Task} {r : Resolved} {m : Moment}

theorem Resolved.KeepsMoments.family (h : r.KeepsMoments s) : r.columnType.family = .date := by
  cases r with
  | native a =>
    simp only [KeepsMoments, List.mem_cons, List.not_mem_nil, or_false] at h
    rcases h with rfl | rfl | rfl | rfl <;> rfl
  | column c type => rcases h.1 with rfl | rfl <;> rfl

theorem null_not_mem_dateText (d : Date) : '\x00' ∉ d.text.toList := by
  rw [Date.text, String.toList_ofList]
  exact fun h => absurd (Iso.mem_chars h) (by decide)

theorem null_not_mem_secondText (m : Moment) : '\x00' ∉ m.secondText.toList := by
  rw [Moment.secondText, String.toList_ofList]
  intro h
  simp only [List.mem_append, List.mem_cons] at h
  rcases h with h | h | h
  · exact absurd (Iso.mem_chars h) (by decide)
  · exact absurd h (by decide)
  · exact absurd (Iso.mem_clockChars h) (by decide)

/-- The cell of a task that has a moment holds the text under which the moment is kept. -/
theorem Resolved.Has.cell_eq (hr : r.KeepsMoments s) (h : r.Has s t m) :
    r.cell s t = .text (r.storage.written m) := by
  cases r with
  | native a =>
    simp only [KeepsMoments, List.mem_cons, List.not_mem_nil, or_false] at hr
    have hcell : t.cell a = .ofMoment? (t.moment? a) := by
      rcases hr with rfl | rfl | rfl | rfl <;> rfl
    rw [Resolved.cell, hcell, h]
    rfl
  | column c type =>
    rcases hr.1 with rfl | rfl
    · obtain ⟨d, hvalue, rfl⟩ := h
      rw [Resolved.cell, hvalue, Option.getD_some,
        ofStored_of_null_not_mem (null_not_mem_dateText d)]
      rfl
    · obtain ⟨hvalue, -⟩ := h
      rw [Resolved.cell, hvalue, Option.getD_some,
        ofStored_of_null_not_mem (null_not_mem_secondText m)]
      rfl

/-- A task whose cell is not empty has a moment. -/
theorem exists_has (hr : r.KeepsMoments s) (h : r.cell s t ≠ .null) : ∃ m, r.Has s t m := by
  cases r with
  | native a =>
    simp only [Resolved.KeepsMoments, List.mem_cons, List.not_mem_nil, or_false] at hr
    have hcell : t.cell a = .ofMoment? (t.moment? a) := by
      rcases hr with rfl | rfl | rfl | rfl <;> rfl
    cases hm : t.moment? a with
    | none =>
      rw [Resolved.cell, hcell, hm] at h
      exact absurd rfl h
    | some m => exact ⟨m, hm⟩
  | column c type =>
    cases hvalue : s.value? t.id c.id with
    | none =>
      rw [Resolved.cell, hvalue] at h
      exact absurd rfl h
    | some v =>
      rw [Resolved.cell, hvalue, Option.getD_some] at h
      obtain ⟨row, hrow, -, hcolumn, rfl⟩ := Store.exists_row hvalue
      rcases hr.2 row hrow hcolumn with hnull | hcanonical
      · rw [hnull] at h
        exact absurd rfl h
      · rcases hr.1 with rfl | rfl
        · generalize row.value = v at hvalue hcanonical
          cases hcanonical with
          | @day d => exact ⟨.midnight d, d, hvalue, rfl⟩
          | text ht | number ht | choice ht => exact absurd ht (by decide)
          | second ht | user ht | users ht | labels ht | checked ht => exact absurd ht (by decide)
        · generalize row.value = v at hvalue hcanonical
          cases hcanonical with
          | @second n _ hwhole => exact ⟨n, hvalue, hwhole⟩
          | text ht | number ht | choice ht => exact absurd ht (by decide)
          | day ht | user ht | users ht | labels ht | checked ht => exact absurd ht (by decide)

end Kept

section Conditions

variable {env : Surroundings} {schema : BoardSchema} {stale : Bool} {path : String}
  {fields : Fields} {l : Leaf String Operand} {r : Resolved} {cmp : Comparison} {s : Store}
  {t : Task}

/-- A condition that is written for a day or a second is built in the type of its column, and its
operand is the moment that its text stands for. -/
theorem buildLeaf_dates
    (hbuilt : buildLeaf ⟨env, resolve (some schema), stale⟩ path fields = .ok l)
    (hwritten : Fields.get fields "column_type" = .str "date"
      ∨ Fields.get fields "column_type" = .str "datetime")
    (hresolve : resolve (some schema) l.column = some r) (hfamily : r.columnType.family = .date)
    (hop : l.operator.comparison? = some cmp) :
    l.columnType = r.columnType ∧ ∃ m,
      (Fields.get fields "value").toMoment? env.now = .ok (some m) ∧ dateWithinBounds m = true
        ∧ l.operand = if r.columnType = .date then .day m.date else .second m.wholeSecond := by
  obtain ⟨head, t', o, hhead, -, hadopted, hread, hcolumn, htype, -⟩ := buildLeaf_eq_ok.1 hbuilt
  obtain ⟨-, -, htype', -⟩ := readHead_eq_ok.1 hhead
  have hfamily' : head.columnType.family = .date := by
    rcases hwritten with h | h <;> rw [h] at htype' <;>
      exact (congrArg ColumnType.family (Option.some.inj htype')).symm
  have hsame : t' = r.columnType := by
    rw [← hcolumn, adopted_of_some hresolve, if_pos (hfamily.trans hfamily'.symm)] at hadopted
    exact hadopted.1
  have hempty : l.operator.testsEmptiness = false := by
    cases hl : l.operator <;> rw [hl] at hop <;>
      first | rfl | exact absurd hop (by simp [Operator.comparison?])
  rw [hsame, readOperandAt_eq_ok, readOperand, hempty, if_neg Bool.false_ne_true, hfamily] at hread
  exact ⟨htype.trans hsame, dateOperand_eq_ok.1 hread.2⟩

theorem compare_natCast (a b : Nat) : compare (a : Int) (b : Int) = compare a b := by
  simp [compare, compareOfLessAndEq]

/-- A comparison of dates selects the tasks that have a value whose moment stands so to the moment
of the operand, both counted in whole days for a day and in whole seconds for a second. -/
theorem chronological_selects (hs : s.UniqueRows)
    (hbuilt : buildLeaf ⟨env, resolve (some schema), stale⟩ path fields = .ok l)
    (hwritten : Fields.get fields "column_type" = .str "date"
      ∨ Fields.get fields "column_type" = .str "datetime")
    (hresolve : resolve (some schema) l.column = some r) (hr : r.KeepsMoments s)
    (hop : l.operator.comparison? = some cmp) :
    ∃ z, (Fields.get fields "value").stated? env.now = some z ∧ ∀ archived t,
      t ∈ selectTasks s schema archived (Selection.ofLeaf schema l).condition
        ↔ t ∈ s.tasks ∧ inScope schema archived t = true ∧ ∃ m, r.Has s t m
          ∧ cmp.holds (compare ((m.instant : Int) / r.columnType.grain)
            (z.instant / r.columnType.grain)) = true := by
  obtain ⟨htype, m, hread, hm, hoperand⟩ := buildLeaf_dates hbuilt hwritten hresolve hr.family hop
  obtain ⟨z, hz, hinstant⟩ := stated_of_toMoment? hread
  have hwell := (buildLeaf_sound hbuilt).1
  refine ⟨z, hz, fun archived t => ?_⟩
  rw [mem_selectTasks_ofLeaf hs hresolve (by rw [htype])
    (hwell.operand.goesWith hwell.operator), operatorTest_comparison hop, hoperand]
  refine and_congr_right fun _ => and_congr_right fun _ => ?_
  have hposition {n : Moment} (hn : r.Has s t n) :
      ((comparisonTest r.storage cmp (if r.columnType = .date then .day m.date
          else .second m.wholeSecond)).eval (r.cell s t)).isYes
        = cmp.holds (compare ((n.instant : Int) / r.columnType.grain)
          (z.instant / r.columnType.grain)) := by
    rw [hn.cell_eq hr, stretch_position rfl hm, ← hinstant, ← Int.natCast_ediv, ← Int.natCast_ediv,
      compare_natCast]
  constructor
  · intro hyes
    have hnull : r.cell s t ≠ .null := by
      intro hnull
      rw [hnull, comparisonTest_floor, stretchTest_null] at hyes
      exact absurd hyes (by decide)
    obtain ⟨n, hn⟩ := exists_has hr hnull
    exact ⟨n, hn, (hposition hn).symm.trans hyes⟩
  · rintro ⟨n, hn, hholds⟩
    exact (hposition hn).trans hholds

end Conditions

section Example

def dayColumn : BoardColumn := Sample.column "day" .date []

def daySchema : BoardSchema := ⟨Sample.board.id, Sample.board.workspaceId, [dayColumn]⟩

/-- Two tasks, of which one has a day. -/
def oneDay : Store :=
  Sample.store dayColumn [Sample.task "t", Sample.task "u"] [("t", .str leapDay.text)]

/-- An hour and a half into the first of March, by a clock that is five hours ahead. -/
def marchAhead : Json := .str "1 March 2024 1:30 +0500"

def dayIsMarchAhead : Fields :=
  [("column", .str "day"), ("column_type", .str "datetime"), ("operator", .str "equals"),
    ("value", marchAhead)]

def dayIsLeapDay : Leaf String Operand := ⟨"day", .date, .equals, .day leapDay, .all⟩

set_option maxRecDepth 2000 in
theorem buildLeaf_dayIsMarchAhead : buildLeaf ⟨atFirst, resolve (some daySchema), false⟩ "filters.0"
    dayIsMarchAhead = .ok dayIsLeapDay := rfl

/-- In universal time it is still the day before, and the task of that day is found. -/
theorem chronological_selects_leapDay :
    buildLeaf ⟨atFirst, resolve (some daySchema), false⟩ "filters.0" dayIsMarchAhead
        = .ok dayIsLeapDay
      ∧ Sample.task "t" ∈ selectTasks oneDay daySchema false
        (Selection.ofLeaf daySchema dayIsLeapDay).condition
      ∧ Sample.task "u" ∉ selectTasks oneDay daySchema false
        (Selection.ofLeaf daySchema dayIsLeapDay).condition
      ∧ ∃ z m, marchAhead.stated? Moment.first = some z ∧ z.offset = some (5 * 3600 * 1000000)
        ∧ (Resolved.column dayColumn .date).Has oneDay (Sample.task "t") m
        ∧ (m.instant : Int) / microsPerDay = z.instant / microsPerDay := by
  have hkeeps : (Resolved.column dayColumn .date).KeepsMoments oneDay := by
    refine ⟨.inl rfl, fun row hrow _ => .inr ?_⟩
    obtain rfl := List.mem_singleton.1 hrow
    exact .day rfl
  have hselected : Sample.task "t" ∈ selectTasks oneDay daySchema false
      (Selection.ofLeaf daySchema dayIsLeapDay).condition := by decide
  have hequals : dayIsLeapDay.operator.comparison? = some .equal := rfl
  obtain ⟨z, hz, hselects⟩ :=
    chronological_selects (by decide) buildLeaf_dayIsMarchAhead (.inr rfl) rfl hkeeps hequals
  obtain ⟨-, -, m, hhas, hholds⟩ := (hselects _ _).1 hselected
  refine ⟨buildLeaf_dayIsMarchAhead, hselected, fun hmem => ?_, z, m, hz, ?_, hhas, ?_⟩
  · obtain ⟨-, -, m, ⟨d, hvalue, -⟩, -⟩ := (hselects _ _).1 hmem
    exact absurd (show (none : Option Json) = some (.str d.text) from hvalue) (by simp)
  · have hoffset := congrArg (Option.map ZonedMoment.offset) hz
    exact (Option.some.inj hoffset).symm
  · simpa [Comparison.holds, Resolved.columnType, ColumnType.grain] using hholds

end Example

end BoardQuery
