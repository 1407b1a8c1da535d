import BoardQuery.Proofs.Value.FixedPoint
import BoardQuery.Service.FieldValues

/-!
# The forms of canonical values

What validation lets through, type by type (`canonicalOf_of_validate`). The options of a column
already stand over the defaults of its type, so validation, which takes the defaults once more,
reads them as they are (`get_effectiveOptions_twice`).
-/

namespace BoardQuery

open Text

/-! ## Options -/

namespace Fields

variable {fields : Fields} {name other : String} {v : Json}

theorem get_cons : get ((name, v) :: fields) other
    = if other = name then v else get fields other := by
  rw [get, List.lookup_cons]
  by_cases h : other = name
  · simp [h]
  · simp [h, get, beq_false_of_ne h]

theorem get_insert : get (fields.insert name v) other
    = if other = name then v else get fields other := by
  induction fields with
  | nil => exact get_cons
  | cons f rest ih =>
    obtain ⟨n, w⟩ := f
    rw [insert]
    split_ifs with hn hother hother
    · rw [beq_iff_eq] at hn
      rw [get_cons, if_pos hother]
    · rw [beq_iff_eq] at hn
      subst hn
      rw [get_cons, if_neg hother, get_cons, if_neg hother]
    · have hne : other ≠ n := fun h => hn (beq_iff_eq.2 (h.symm.trans hother))
      rw [get_cons, ih, if_pos hother, if_neg hne]
    · rw [get_cons, get_cons, ih, if_neg hother]

theorem names_insert : (fields.insert name v).map (·.1)
    = if name ∈ fields.map (·.1) then fields.map (·.1) else fields.map (·.1) ++ [name] := by
  induction fields with
  | nil => rfl
  | cons f rest ih =>
    obtain ⟨n, w⟩ := f
    rw [insert]
    split_ifs with hn hmem hmem
    · simp [beq_iff_eq.1 hn]
    · simp [beq_iff_eq.1 hn] at hmem
    · have hne : name ≠ n := fun h => hn (beq_iff_eq.2 h.symm)
      rw [List.map_cons, ih, if_pos (by simpa [hne] using hmem), List.map_cons]
    · have hne : name ≠ n := fun h => hn (beq_iff_eq.2 h.symm)
      rw [List.map_cons, ih, if_neg (by simpa [hne] using hmem), List.map_cons, List.cons_append]

theorem mem_names_insert : other ∈ (fields.insert name v).map (·.1)
    ↔ other = name ∨ other ∈ fields.map (·.1) := by
  rw [names_insert]
  split_ifs with h
  · constructor
    · exact .inr
    · rintro (rfl | h')
      · exact h
      · exact h'
  · simp [or_comm]

theorem nodup_insert (h : (fields.map (·.1)).Nodup) : ((fields.insert name v).map (·.1)).Nodup := by
  rw [names_insert]
  split_ifs with hmem
  · exact h
  · exact List.nodup_append.2 ⟨h, by simp, fun a ha b hb => by
      rintro rfl
      exact hmem (List.mem_singleton.1 hb ▸ ha)⟩

theorem nodup_overlay : (more : Fields) → {fields : Fields} → (fields.map (·.1)).Nodup →
    ((fields.overlay more).map (·.1)).Nodup
  | [], _, h => h
  | _ :: more, _, h => nodup_overlay more (nodup_insert h)

theorem mem_names_overlay : (more : Fields) → {fields : Fields} →
    (other ∈ (fields.overlay more).map (·.1)
      ↔ other ∈ fields.map (·.1) ∨ other ∈ more.map (·.1))
  | [], _ => by simp [overlay]
  | f :: more, fields => by
    have hoverlay : fields.overlay (f :: more) = (fields.insert f.1 f.2).overlay more := rfl
    rw [List.map_cons, List.mem_cons, hoverlay, mem_names_overlay more, mem_names_insert]
    tauto

/-- Of two lists of fields, the later one decides where it has the field. -/
theorem get_overlay : (more : Fields) → {fields : Fields} → (more.map (·.1)).Nodup →
    get (fields.overlay more) other
      = if other ∈ more.map (·.1) then get more other else get fields other
  | [], _, _ => rfl
  | (n, w) :: more, fields, h => by
    rw [List.map_cons, List.nodup_cons] at h
    have hoverlay : fields.overlay ((n, w) :: more) = (fields.insert n w).overlay more := rfl
    rw [hoverlay, get_overlay more h.2, get_insert, get_cons]
    by_cases hother : other = n
    · subst hother
      simp only [h.1, if_false, if_true, List.map_cons, List.mem_cons, true_or]
    · simp only [hother, List.map_cons, List.mem_cons, false_or, if_false]

theorem get_of_not_mem (h : other ∉ fields.map (·.1)) : get fields other = .null := by
  induction fields with
  | nil => rfl
  | cons f rest ih =>
    obtain ⟨n, w⟩ := f
    rw [List.map_cons, List.mem_cons, not_or] at h
    rw [get_cons, if_neg h.1, ih h.2]

end Fields

theorem nodup_defaultOptions (t : ColumnType) : (t.defaultOptions.map (·.1)).Nodup := by
  cases t <;> decide

/-- Options that stand over the defaults of a type are not changed by taking the defaults again. -/
theorem get_effectiveOptions_twice (c : BoardColumn) (t : ColumnType) (name : String) :
    Fields.get (t.effectiveOptions (c.effectiveOptions t)) name
      = Fields.get (c.effectiveOptions t) name := by
  have hnodup : ((c.effectiveOptions t).map (·.1)).Nodup := by
    rw [BoardColumn.effectiveOptions]
    have h := Fields.nodup_overlay c.options (nodup_defaultOptions t)
    split_ifs
    · exact Fields.nodup_insert h
    · exact h
  have hmem (h : name ∈ t.defaultOptions.map (·.1)) : name ∈ (c.effectiveOptions t).map (·.1) := by
    have h' := (Fields.mem_names_overlay c.options).2 (.inl h)
    rw [BoardColumn.effectiveOptions]
    split_ifs
    · exact Fields.mem_names_insert.2 (.inr h')
    · exact h'
  rw [ColumnType.effectiveOptions, Fields.get_overlay _ hnodup]
  split_ifs with h
  · rfl
  · rw [Fields.get_of_not_mem h, Fields.get_of_not_mem fun h' => h (hmem h')]

/-! ## Values -/

/-- The canonical values of a type, other than nothing. -/
inductive Json.CanonicalOf (t : ColumnType) (o : Options) : Json → Prop
  | text {s : String} (ht : t.family = .text) (htrim : trim s = s) : CanonicalOf t o (.str s)
  | number {x : Binary64} (ht : t.family = .numeric) (hx : x.isFinite = true) :
    CanonicalOf t o (.num x)
  | day {d : Date} (ht : t = .date) : CanonicalOf t o (.str d.text)
  | second {m : Moment} (ht : t = .datetime) (hwhole : m.wholeSecond = m) :
    CanonicalOf t o (.str m.secondText)
  | choice {s : String} (ht : t.family = .enumerated) : CanonicalOf t o (.str s)
  | user {s : String} (ht : t = .assignee) (hsingle : Options.flag o "multiple" = false)
    (htrim : trim s = s) : CanonicalOf t o (.str s)
  | users {items : List String} (ht : t = .assignee) (hseveral : Options.flag o "multiple" = true)
    (hne : items ≠ []) (hitems : trimmedDistinct items = items) : CanonicalOf t o (.ofStrings items)
  | labels {items : List String} (ht : t = .labels) (hne : items ≠ [])
    (hitems : trimmedDistinct items = items) : CanonicalOf t o (.ofStrings items)
  | checked {b : Bool} (ht : t = .checkbox) : CanonicalOf t o (.bool b)

section Forms

variable {env : Surroundings} {t : ColumnType} {o : Options} {v w : Json}

theorem ofStrings_ne_nil {items : List String} (h : (Json.ofStrings items).isBlank = false) :
    items ≠ [] := by
  rintro rfl
  exact absurd h (by decide)

theorem canonicalOf_text (ht : t.family = .text) (h : problems env t o v = .ok [])
    (hform : canonicalForm env t o v = .ok w) : w.CanonicalOf t o := by
  obtain ⟨s, rfl⟩ := exists_text_of_problems ht h
  have hw : w = .str (trim s) := by
    cases t <;> first | exact absurd ht (by decide) | exact (Except.ok.inj hform).symm
  exact hw ▸ .text ht (trim_trim s)

theorem canonicalOf_number (ht : t.family = .numeric) (hform : canonicalForm env t o v = .ok w)
    (hw : w ≠ .null) : w.CanonicalOf t o := by
  have hread : ∃ x, v.toNumber? = .ok (some x) ∧ w = .num x := by
    cases t <;> first | exact absurd ht (by decide) | skip
    all_goals
      simp only [canonicalForm, bind_eq_ok, pure_eq_ok] at hform
      obtain ⟨x, hx, rfl⟩ := hform
      cases x with
      | none => exact absurd rfl hw
      | some x => exact ⟨x, hx, rfl⟩
  obtain ⟨x, hx, rfl⟩ := hread
  exact .number ht (isFinite_of_toNumber? hx)

theorem canonicalOf_date (ht : t.family = .date) (hform : canonicalForm env t o v = .ok w)
    (hw : w ≠ .null) : w.CanonicalOf t o := by
  cases t <;> first | exact absurd ht (by decide) | skip
  all_goals
    simp only [canonicalForm, bind_eq_ok, pure_eq_ok] at hform
    obtain ⟨_ | m, -, rfl⟩ := hform
    · exact absurd rfl hw
  · exact .day rfl
  · show Json.CanonicalOf _ o (.str m.secondText)
    rw [← m.secondText_wholeSecond]
    exact .second rfl m.wholeSecond_wholeSecond

theorem canonicalOf_choice (ht : t.family = .enumerated) (h : problems env t o v = .ok [])
    (hform : canonicalForm env t o v = .ok w) : w.CanonicalOf t o := by
  have hw : v = w := by
    cases t <;> first | exact absurd ht (by decide) | exact Except.ok.inj hform
  have hstr : ∃ s, v = .str s := by
    cases t <;> first | exact absurd ht (by decide) | skip
    all_goals
      simp only [problems, bind_eq_ok, pure_eq_ok, unless'_eq_nil] at h
      obtain ⟨choices, -, h⟩ := h
      cases v <;> first | exact ⟨_, rfl⟩ | exact absurd h (by simp [Json.str?])
  obtain ⟨s, rfl⟩ := hstr
  exact hw ▸ .choice ht

theorem canonicalOf_assignee (hform : canonicalForm env .assignee o v = .ok w)
    (hblank : w.isBlank = false) : w.CanonicalOf .assignee o := by
  simp only [canonicalForm, Except.ok.injEq] at hform
  split_ifs at hform with hmultiple
  · subst hform
    exact .users rfl hmultiple (ofStrings_ne_nil hblank) (trimmedDistinct_trimmedDistinct _)
  · rw [Bool.not_eq_true] at hmultiple
    split at hform
    · subst hform
      exact .user rfl hmultiple (trim_trim _)
    · subst hform
      exact absurd hblank (by decide)

theorem canonicalOf_labels (hform : canonicalForm env .labels o v = .ok w)
    (hblank : w.isBlank = false) : w.CanonicalOf .labels o := by
  simp only [canonicalForm, Except.ok.injEq] at hform
  subst hform
  exact .labels rfl (ofStrings_ne_nil hblank) (trimmedDistinct_trimmedDistinct _)

theorem canonicalOf_checked (hform : canonicalForm env .checkbox o v = .ok w)
    (hw : w ≠ .null) : w.CanonicalOf .checkbox o := by
  simp only [canonicalForm, Except.ok.injEq] at hform
  split at hform
  · subst hform
    exact .checked rfl
  · exact absurd hform.symm hw

/-- A value that validation lets through is nothing or canonical. -/
theorem canonicalOf_of_validate (h : validate env t o v = .ok w) (hw : w ≠ .null) :
    w.CanonicalOf t (t.effectiveOptions o) := by
  rcases validate_eq_ok h with ⟨hnull, -⟩ | ⟨-, hproblems, hform, hblank, -⟩
  · exact absurd hnull hw
  · cases ht : t.family with
    | text => exact canonicalOf_text ht hproblems hform
    | numeric => exact canonicalOf_number ht hform hw
    | date => exact canonicalOf_date ht hform hw
    | enumerated => exact canonicalOf_choice ht hproblems hform
    | assignee =>
      obtain rfl : t = .assignee := ColumnType.eq_of_family ht (by decide)
      exact canonicalOf_assignee hform hblank
    | labels =>
      obtain rfl : t = .labels := ColumnType.eq_of_family ht (by decide)
      exact canonicalOf_labels hform hblank
    | checkbox =>
      obtain rfl : t = .checkbox := ColumnType.eq_of_family ht (by decide)
      exact canonicalOf_checked hform hw

/-- Validation for a column is validation for its type, under the options that it has then. -/
theorem validateFor_eq_ok {c : BoardColumn} {path : String} (ht : c.columnType? = some t) :
    validateFor env c path v = .ok w ↔ validate env t (c.effectiveOptions t) v = .ok w := by
  have htype : c.columnType = .ok t := by
    rw [BoardColumn.columnType?] at ht
    simp only [BoardColumn.columnType, ColumnType.ofJson, Json.str?, Option.bind_some, ht]
  simp only [validateFor, htype, bind_eq_ok, orFault_eq_ok, mapError_eq_ok, Except.ok.injEq,
    exists_eq_left']

/-- What validation for a column lets through is nothing or canonical. -/
theorem canonicalOf_of_validateFor {c : BoardColumn} {path : String} (ht : c.columnType? = some t)
    (h : validateFor env c path v = .ok w) :
    w = .null ∨ w.CanonicalOf t (t.effectiveOptions (c.effectiveOptions t)) :=
  (em (w = .null)).imp_right (canonicalOf_of_validate ((validateFor_eq_ok ht).1 h))

end Forms

end BoardQuery
