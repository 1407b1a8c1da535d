import BoardQuery.Proofs.Api.CanonicalValues
import BoardQuery.Proofs.Query.Emptiness

/-!
# Required values stay

No write takes the value of a required column away from a task: what validation lets through for
such a column is not blank (`isBlank_of_validateFor`), and clearing is refused
(`not_required_of_clearValue`). So as long as a task stays on its board, it keeps some value in each
required column in which it has one (`required_value_kept`).
-/

namespace BoardQuery

/-- Whether a column requires a value, by its own mark or by its options. -/
def BoardColumn.Required (c : BoardColumn) : Prop :=
  c.required = true ∨ Options.flag c.options "required" = true

/-- Whether a task has a value in a column that is neither null nor empty. -/
def Store.Filled (s : Store) (taskId columnId : String) : Prop :=
  ∃ v, s.value? taskId columnId = some v ∧ v.isBlank = false

/-- Whether the task of an id is on a board. -/
def Store.HasOn (s : Store) (taskId boardId : String) : Prop :=
  ∃ t ∈ s.tasks, t.id = taskId ∧ t.boardId = boardId

/-! ## Reading a row after a write -/

namespace Store

variable {s s' : Store} {taskId columnId otherTask otherColumn : String} {v : Json}

theorem value?_eq_find? : s.value? taskId columnId
    = ((s.valuesOf taskId).find? (·.columnId == columnId)).map (·.value) := by
  simp only [value?, valuesOf, List.find?_filter, Bool.decide_and, Bool.decide_eq_true]

theorem SameTask.value?_eq (h : s.SameTask taskId s') :
    s'.value? taskId columnId = s.value? taskId columnId := by
  rw [value?_eq_find?, value?_eq_find?, h.values]

theorem value?_putValue_of_ne (h : ¬ (taskId = otherTask ∧ columnId = otherColumn)) :
    (s.putValue otherTask otherColumn v).value? taskId columnId = s.value? taskId columnId := by
  rw [value?_eq_rowsAt, value?_eq_rowsAt, rowsAt_putValue_of_ne h]

theorem value?_eraseValue_of_ne (h : columnId ≠ otherColumn) :
    (s.eraseValue otherTask otherColumn).value? taskId columnId = s.value? taskId columnId := by
  rw [value?, value?, eraseValue, List.find?_filter]
  congr 2
  funext u
  by_cases hcolumn : u.columnId = columnId
  · simp [hcolumn, h, Bool.beq_eq_decide_eq]
  · simp [hcolumn]

theorem Filled.putValue (hs : s.Filled taskId columnId)
    (hv : taskId = otherTask → columnId = otherColumn → v.isBlank = false) :
    (s.putValue otherTask otherColumn v).Filled taskId columnId := by
  by_cases hkey : taskId = otherTask ∧ columnId = otherColumn
  · obtain ⟨rfl, rfl⟩ := hkey
    exact ⟨v, value?_putValue, hv rfl rfl⟩
  · rw [Filled, value?_putValue_of_ne hkey]
    exact hs

end Store

/-! ## What a required column takes -/

section Columns

variable {s s' : Store} {c : BoardColumn} {t : ColumnType}

theorem BoardColumn.Required.flag (h : c.Required) (hnames : (c.options.map (·.1)).Nodup) :
    Options.flag (c.effectiveOptions t) "required" = true := by
  rw [Options.flag, BoardColumn.effectiveOptions]
  split_ifs with hmark
  · rw [Fields.get_insert, if_pos rfl]
    rfl
  · have hflag := h.resolve_left hmark
    rw [ColumnType.effectiveOptions, Fields.get_overlay _ hnames, if_pos]
    · exact hflag
    · by_contra habsent
      rw [Options.flag, Fields.get_of_not_mem habsent] at hflag
      exact absurd hflag (by decide)

theorem isBlank_of_validateFor {env : Surroundings} {path : String} {raw v : Json}
    (hc : c.Required) (hnames : (c.options.map (·.1)).Nodup)
    (h : validateFor env c path raw = .ok v) : v.isBlank = false := by
  simp only [validateFor, bind_eq_ok, orFault_eq_ok, mapError_eq_ok] at h
  obtain ⟨t, -, h⟩ := h
  rcases validate_eq_ok h with ⟨-, hflag⟩ | ⟨-, -, -, hblank, -⟩
  · rw [Options.flag, get_effectiveOptions_twice] at hflag
    exact absurd (hflag.symm.trans (hc.flag hnames)) Bool.false_ne_true
  · exact hblank

theorem not_required_of_clearValue {task : Task} (hnames : (c.options.map (·.1)).Nodup)
    (h : clearValue s task c = .ok s') : ¬ c.Required := by
  simp only [clearValue, refuse_bind, ite_refuse_eq_ok, bind_eq_ok] at h
  obtain ⟨t, -, hflag, -⟩ := h
  exact fun hc => hflag (hc.flag hnames)

theorem eq_of_mem_schema {b : Board} {column : BoardColumn} (hs : (s.columns.map (·.id)).Nodup)
    (hcolumn : column ∈ s.columns) (hc : c ∈ (s.schema b).columns) (hid : column.id = c.id) :
    c = column := by
  have hmem : c ∈ s.columns := by
    simp only [Store.schema, Store.columnsOf, List.mem_mergeSort, List.mem_filter] at hc
    exact hc.1
  exact List.inj_on_of_nodup_map hs hmem hcolumn hid.symm

end Columns

/-! ## Requests -/

section Requests

variable {c : Settings} {now : Moment} {s s' : Store} {taskId boardId : String}
  {column : BoardColumn}

theorem setValues_filled {t : Task} {b : Board} {values : Json}
    (hcolumns : (s.columns.map (·.id)).Nodup) (hcolumn : column ∈ s.columns)
    (hrequired : column.Required) (hnames : (column.options.map (·.1)).Nodup)
    (h : setValues (s.surroundings now) s t (s.schema b) values = .ok s')
    (hs : s.Filled taskId column.id) : s'.Filled taskId column.id := by
  obtain ⟨checks, rfl, hchecks⟩ := setValues_eq_ok h
  refine writeChecked_preserves (P := (·.Filled taskId column.id)) checks
    (fun c v hcv s₁ hs₁ => hs₁.putValue fun _ hid => ?_) hs
  obtain ⟨hc, raw, hv⟩ := hchecks c v hcv
  obtain rfl := eq_of_mem_schema hcolumns hcolumn hc hid
  exact isBlank_of_validateFor hrequired hnames hv

/-- A change of the task itself keeps the value, unless it moves or deletes the task. -/
theorem Applied.filled {b : Board} {t : Task} {s₁ : Store}
    (hcolumns : (s.columns.map (·.id)).Nodup) (hcolumn : column ∈ s.columns)
    (hrequired : column.Required) (hnames : (column.options.map (·.1)).Nodup)
    (h : Applied s now b s₁ t s') (hstays : s'.HasOn t.id b.id)
    (hs : s₁.Filled t.id column.id) : s'.Filled t.id column.id := by
  obtain ⟨t', ht', hid, hboard⟩ := hstays
  cases h with
  | updated => exact hs
  | moved target rows htarget =>
    obtain ⟨u, -, ⟨-, stamp, rfl⟩ | ⟨hother, rfl⟩⟩ := Store.mem_updateTask ht'
    · exact absurd hboard htarget
    · exact absurd hid hother
  | erased => exact absurd hid (by simpa using (List.mem_filter.1 ht').2)
  | wrote c raw v hc hv =>
    refine hs.putValue fun _ hid => ?_
    obtain rfl := eq_of_mem_schema hcolumns hcolumn hc hid
    exact isBlank_of_validateFor hrequired hnames hv

/-- A request that leaves a task on its board leaves it a value in a required column. -/
theorem Effect.filled (hids : (s.tasks.map (·.id)).Nodup)
    (hcolumns : (s.columns.map (·.id)).Nodup) (hcolumn : column ∈ s.columns)
    (hrequired : column.Required) (hnames : (column.options.map (·.1)).Nodup)
    (h : Effect c now s s') (hbefore : s.HasOn taskId boardId) (hafter : s'.HasOn taskId boardId)
    (hs : s.Filled taskId column.id) : s'.Filled taskId column.id := by
  cases h with
  | filters => exact hs
  | written _ _ h => exact setValues_filled hcolumns hcolumn hrequired hnames h hs
  | @cleared t b cleared _ h hc =>
    have hne : column.id ≠ cleared.id := by
      intro hid
      obtain rfl := eq_of_mem_schema hcolumns hcolumn hc hid
      exact not_required_of_clearValue hnames h hrequired
    simp only [clearValue, refuse_bind, ite_refuse_eq_ok, bind_eq_ok, pure_eq_ok] at h
    obtain ⟨type, -, -, rfl⟩ := h
    rw [Store.Filled, Store.value?_eraseValue_of_ne hne]
    exact hs
  | bulk _ h =>
    rcases h.task hids taskId with hsame | ⟨t, ht, rfl, hboard, s₁, s₂, hfirst, happlied, hlast⟩
    · rw [Store.Filled, hsame.value?_eq]
      exact hs
    · obtain ⟨u, hu, hid, rfl⟩ := hbefore
      obtain rfl := List.inj_on_of_nodup_map hids hu ht hid
      obtain ⟨t', ht', hid', hboard'⟩ := hafter
      have hstays : s₂.HasOn u.id _ :=
        ⟨t', (hlast.mem_tasks hid').1 ht', hid', hboard'.trans hboard⟩
      rw [Store.Filled, hlast.value?_eq]
      refine happlied.filled hcolumns hcolumn hrequired hnames hstays ?_
      rw [Store.Filled, hfirst.value?_eq]
      exact hs

theorem serve_filled (requests : List (Moment × Request)) (hs : s.WellKeyed)
    (hcolumns : (s.columns.map (·.id)).Nodup) (hcolumn : column ∈ s.columns)
    (hrequired : column.Required) (hnames : (column.options.map (·.1)).Nodup)
    (h0 : s.Filled taskId column.id)
    (hstays : ∀ before, before <+: requests → (serve c s before).HasOn taskId boardId) :
    (serve c s requests).Filled taskId column.id := by
  induction requests using List.reverseRecOn with
  | nil => exact h0
  | append_singleton requests r ih =>
    have hprefix : requests <+: requests ++ [r] := List.prefix_append ..
    have hschema := serve_sameSchema c s requests
    have heffect := handle_effect c r.1 (serve c s requests) r.2
    have hafter := hstays _ (List.prefix_refl _)
    rw [serve_append] at hafter ⊢
    exact heffect.filled (serve_wellKeyed requests hs).ids (hschema.columns ▸ hcolumns)
      (hschema.columns ▸ hcolumn) hrequired hnames (hstays _ hprefix) hafter
      (ih fun before h => hstays before (h.trans hprefix))

end Requests

theorem isBlank_of_fits {s : Store} {row : FieldValue} (h : s.Fits row) (hrow : row.value ≠ .null) :
    row.value.isBlank = false := by
  obtain ⟨c, t, -, -, hvalid⟩ := h
  rcases validate_eq_ok (hvalid Moment.first) with ⟨hnull, -⟩ | ⟨hblank, -⟩
  · exact absurd hnull hrow
  · exact hblank

/-- While a task stays on its board, it keeps a value in a required column, once it has a canonical
one there. -/
theorem required_value_kept {c : Settings} {s : Store} {taskId boardId : String}
    {column : BoardColumn} {v : Json} (requests : List (Moment × Request)) (hs : s.WellKeyed)
    (hcolumns : (s.columns.map (·.id)).Nodup) (hcolumn : column ∈ s.columns)
    (hnames : (column.options.map (·.1)).Nodup) (hrequired : column.Required)
    (hvalue : s.value? taskId column.id = some v) (hne : v ≠ .null)
    (hfits : s.Fits ⟨taskId, column.id, v⟩)
    (hstays : ∀ before, before <+: requests → (serve c s before).HasOn taskId boardId) :
    ∀ before, before <+: requests → (serve c s before).Filled taskId column.id :=
  fun before hbefore => serve_filled before hs hcolumns hcolumn hrequired hnames
    ⟨v, hvalue, isBlank_of_fits hfits hne⟩ fun earlier h => hstays earlier (h.trans hbefore)

/-- A column of labels that requires one by its options. -/
def Sample.requiredTags : BoardColumn := column "tags" .labels [("required", .bool true)]

/-- The board with the column, and a task that has two labels. -/
def Sample.labelled : Store :=
  { store requiredTags [task "t"] [("t", .arr [.str "a", .str "b"])] with
    users := [⟨"u", "u@example.com", none, "token", true⟩]
    members := [⟨"u", board.workspaceId⟩] }

/-- The request to take both labels away from the task, and then to clear its value. -/
def Sample.unlabelRequests : List (Moment × Request) :=
  [(Moment.first,
    { method := "POST"
      path := "/api/boards/board/tasks/bulk"
      authorization := some "Bearer token"
      query := []
      body := .document (.obj [("operation", .str "remove_labels"),
        ("params", .obj [("column", .str "tags"), ("labels", .arr [.str "a", .str "b"])]),
        ("task_ids", .arr [.str "t"])]) }),
    (Moment.first,
    { method := "DELETE"
      path := "/api/tasks/t/field-values/tags"
      authorization := some "Bearer token"
      query := []
      body := .absent })]

/-- Neither request takes the labels away. -/
theorem required_value_kept_labels :
    (serve .usual Sample.labelled Sample.unlabelRequests).Filled "t" "tags" := by
  have hstays : ∀ before ∈ Sample.unlabelRequests.inits,
      ((serve .usual Sample.labelled before).tasks.any fun t =>
        t.id == "t" && t.boardId == "board") = true := by
    decide +kernel
  have hfits : Sample.labelled.Fits ⟨"t", "tags", .arr [.str "a", .str "b"]⟩ :=
    ⟨Sample.requiredTags, .labels, rfl, rfl, fun _ => rfl⟩
  refine @required_value_kept .usual Sample.labelled "t" "board" Sample.requiredTags _
    Sample.unlabelRequests ⟨by decide, by decide⟩ (by decide) List.mem_cons_self (by decide)
    (.inr rfl) rfl (by simp) hfits (fun before hbefore => ?_) _ (List.prefix_refl _)
  obtain ⟨t, ht, hkeys⟩ := List.any_eq_true.1 (hstays before ((List.mem_inits _ _).2 hbefore))
  simp only [Bool.and_eq_true, beq_iff_eq] at hkeys
  exact ⟨t, ht, hkeys⟩

end BoardQuery
