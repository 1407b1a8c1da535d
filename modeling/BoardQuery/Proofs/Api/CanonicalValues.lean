import BoardQuery.Proofs.Api.Runs
import BoardQuery.Proofs.Sample
import BoardQuery.Proofs.Service.OneTask
import BoardQuery.Proofs.Value.FixedPoint

/-!
# Stored values stay canonical

A value in the store is canonical if validation for the column of its row lets it through as it is.
Every write validates, so values that are not touched or are written stay or become canonical. A
move gives the rows of a task to columns of another board without validating them. So a run keeps
all values canonical exactly if each value that a move carries over is canonical for the column to
which it comes (`serve_canonical_iff`).
-/

namespace BoardQuery

/-- Whether validation for the column of a row lets the value of the row through as it is. -/
def Store.Fits (s : Store) (row : FieldValue) : Prop :=
  ∃ c t, s.column? row.columnId = some c ∧ c.columnType = .ok t ∧
    ∀ now, validate (s.surroundings now) t (c.effectiveOptions t) row.value = .ok row.value

/-- Whether every value that the store holds is canonical. -/
def Store.Canonical (s : Store) : Prop :=
  ∀ row ∈ s.values, row.value ≠ .null → s.Fits row

/-- Whether the values of the tasks that stand on another board than before were canonical for the
columns to which they were carried. -/
def Store.MovesFit (s s' : Store) : Prop :=
  ∀ t ∈ s.tasks, ∀ t' ∈ s'.tasks, t'.id = t.id → t'.boardId ≠ t.boardId →
    ∀ row ∈ s.valuesOf t.id, row.value ≠ .null → ∀ row',
      movedValue? s (s.columns.filter (·.boardId == t'.boardId)) row = .ok (some row') → s.Fits row'

section Fits

variable {s s' : Store} {row : FieldValue}

theorem Store.SameSchema.fits_iff (h : s.SameSchema s') : s'.Fits row ↔ s.Fits row := by
  simp only [Fits, column?, h.columns, h.surroundings_eq]

theorem Store.SameSchema.movedValue?_eq (h : s.SameSchema s') (columns : List BoardColumn) :
    movedValue? s' columns = movedValue? s columns := by
  funext v
  simp only [movedValue?, column?, h.columns]

/-- What validation for a column has let through fits into the column. -/
theorem fits_of_validateFor {now : Moment} {b : Board} {c : BoardColumn} {path : String}
    {raw v : Json} (hs : (s.columns.map (·.id)).Nodup) (hc : c ∈ (s.schema b).columns)
    (h : validateFor (s.surroundings now) c path raw = .ok v) (taskId : String) (hv : v ≠ .null) :
    s.Fits ⟨taskId, c.id, v⟩ := by
  simp only [validateFor, bind_eq_ok, orFault_eq_ok, mapError_eq_ok] at h
  obtain ⟨t, ht, h⟩ := h
  have hmem : c ∈ s.columns := by
    simp only [Store.schema, Store.columnsOf, List.mem_mergeSort, List.mem_filter] at hc
    exact hc.1
  exact ⟨c, t, Store.find?_key BoardColumn.id hs hmem, ht, fun later =>
    validate_idempotent h hv rfl⟩

/-- Whether columns with the same name and type take the same options, whatever their boards. -/
def Store.AlikeColumns (s : Store) : Prop :=
  ∀ c ∈ s.columns, ∀ c' ∈ s.columns, c'.name = c.name → c'.typeName = c.typeName →
    c'.options = c.options ∧ c'.required = c.required

theorem Store.AlikeColumns.movesFit (h : s.AlikeColumns) (hcolumns : (s.columns.map (·.id)).Nodup)
    (hs : s.Canonical) : s.MovesFit s' := by
  intro t _ t' _ _ _ row hrow hvalue row' hmoved
  obtain ⟨c, c', hc, hc', hname, htype, rfl⟩ := movedValue?_eq_some hmoved
  obtain ⟨c₁, type, hc₁, hcolumnType, hvalid⟩ := hs row (List.mem_filter.1 hrow).1 hvalue
  obtain rfl := Option.some.inj (hc₁.symm.trans hc)
  have hmem' := (List.mem_filter.1 hc').1
  obtain ⟨hoptions, hrequired⟩ := h c₁ (List.mem_of_find?_eq_some hc) c' hmem' hname htype
  refine ⟨c', type, find?_key BoardColumn.id hcolumns hmem', ?_, fun now => ?_⟩
  · rw [BoardColumn.columnType, htype]
    exact hcolumnType
  · rw [BoardColumn.effectiveOptions, hoptions, hrequired]
    exact hvalid now

end Fits

/-! ## One request -/

/-- Whether the tasks of an id stayed on their boards, and kept their rows or got canonical ones. -/
structure Store.Stays (key : String) (s s' : Store) : Prop where
  boards : ∀ t' ∈ s'.tasks, t'.id = key → ∃ t ∈ s.tasks, t.id = key ∧ t'.boardId = t.boardId
  values : ∀ row ∈ s'.values, row.taskId = key → row.value ≠ .null → row ∈ s.values ∨ s.Fits row

/-- Whether the task of an id is on a board with those rows that it was able to take there. -/
structure Store.Arrives (key boardId : String) (s s' : Store) : Prop where
  task : ∃ t ∈ s'.tasks, t.id = key
  boards : ∀ t ∈ s'.tasks, t.id = key → t.boardId = boardId
  values : ∀ row', row' ∈ s'.valuesOf key ↔ ∃ row ∈ s.valuesOf key,
    movedValue? s (s.columns.filter (·.boardId == boardId)) row = .ok (some row')

/-- Whether the task of an id has gone to another board. -/
def Store.Leaves (key : String) (s s' : Store) : Prop :=
  ∃ t ∈ s.tasks, t.id = key ∧ ∃ boardId ≠ t.boardId, s.Arrives key boardId s'

section Requests

variable {c : Settings} {now : Moment} {s s' : Store}

namespace Store.Stays

variable {key : String}

theorem of_sameTask (h : s.SameTask key s') : s.Stays key s' where
  boards t' ht' hid := ⟨t', (h.mem_tasks hid).1 ht', hid, rfl⟩
  values _ hrow hid _ := .inl ((h.mem_values hid).1 hrow)

theorem of_tasks (htasks : s'.tasks = s.tasks)
    (hvalues : ∀ row ∈ s'.values, row.value ≠ .null → row ∈ s.values ∨ s.Fits row) :
    s.Stays key s' where
  boards t' ht' hid := ⟨t', htasks ▸ ht', hid, rfl⟩
  values row hrow _ := hvalues row hrow

theorem congr {s₁ : Store} (h : s.Stays key s₁) (hsame : s₁.SameTask key s') : s.Stays key s' where
  boards t' ht' hid := h.boards t' ((hsame.mem_tasks hid).1 ht') hid
  values row hrow hid := h.values row ((hsame.mem_values hid).1 hrow) hid

end Store.Stays

theorem Store.Leaves.congr {key : String} {s₁ : Store} (h : s.Leaves key s₁)
    (hsame : s₁.SameTask key s') : s.Leaves key s' := by
  obtain ⟨t, ht, hid, boardId, hboard, ⟨u, hu, hkey⟩, hboards, hvalues⟩ := h
  refine ⟨t, ht, hid, boardId, hboard, ⟨u, (hsame.mem_tasks hkey).2 hu, hkey⟩, fun v hv hv' => ?_,
    ?_⟩
  · exact hboards v ((hsame.mem_tasks hv').1 hv) hv'
  · rw [hsame.values]
    exact hvalues

/-- A set of values leaves the tasks alone, and its rows are old ones or canonical ones. -/
theorem setValues_stays {t : Task} {b : Board} {values : Json} {key : String}
    (hcolumns : (s.columns.map (·.id)).Nodup)
    (h : setValues (s.surroundings now) s t (s.schema b) values = .ok s') : s.Stays key s' := by
  obtain ⟨checks, rfl, hchecks⟩ := setValues_eq_ok h
  suffices hall : (writeChecked s t checks).tasks = s.tasks
    ∧ ∀ row ∈ (writeChecked s t checks).values,
      row.value ≠ .null → row ∈ s.values ∨ s.Fits row from .of_tasks hall.1 hall.2
  refine writeChecked_preserves (P := fun s₁ => s₁.tasks = s.tasks ∧ ∀ row ∈ s₁.values,
    row.value ≠ .null → row ∈ s.values ∨ s.Fits row) checks (fun c v hcv s₁ h₁ =>
    ⟨?_, fun row hrow hvalue => ?_⟩)
    ⟨rfl, fun row hrow _ => .inl hrow⟩
  · rw [s₁.tasks_putValue]
    exact h₁.1
  · obtain ⟨hc, raw, hv⟩ := hchecks c v hcv
    rcases Store.mem_putValue hrow with hold | rfl
    · exact h₁.2 row hold hvalue
    · exact .inr (fits_of_validateFor hcolumns hc hv t.id hvalue)

/-- What a change does to the task of an id, in a bulk operation that has left it alone so far. -/
theorem Applied.stays_or_leaves {b : Board} {s₁ : Store} {t : Task} (ht : t ∈ s.tasks)
    (hboard : t.boardId = b.id) (hcolumns : (s.columns.map (·.id)).Nodup)
    (hbefore : s.SameTask t.id s₁) (h : Applied s now b s₁ t s') :
    s.Stays t.id s' ∨ s.Leaves t.id s' := by
  cases h with
  | updated change hid hboard =>
    refine .inl ⟨fun t' ht' hkey => ?_, fun row hrow hkey _ =>
      .inl ((hbefore.mem_values hkey).1 hrow)⟩
    obtain ⟨u, hu, ⟨hid', stamp, rfl⟩ | ⟨hne, rfl⟩⟩ := Store.mem_updateTask ht'
    · exact ⟨u, (hbefore.mem_tasks hid').1 hu, hid', hboard u⟩
    · exact absurd hkey hne
  | moved target rows htarget hrows =>
    refine .inr ⟨t, ht, rfl, target.id, hboard ▸ htarget, ?_, fun u hu hkey => ?_, fun row' => ?_⟩
    · refine List.mem_map.1 ?_
      rw [Store.ids_updateTask]
      · exact List.mem_map_of_mem ((hbefore.mem_tasks rfl).2 ht)
      · exact fun _ => rfl
    · obtain ⟨v, -, ⟨-, stamp, rfl⟩ | ⟨hne, rfl⟩⟩ := Store.mem_updateTask hu
      · rfl
      · exact absurd hkey hne
    · rw [← hbefore.values, ← hbefore.movedValue?_eq, ← mem_movedRows hrows]
      exact iff_of_eq (congrArg (row' ∈ ·)
        (Store.valuesOf_replaceValues_self (taskId_of_mem_movedRows hrows)))
  | erased =>
    refine .inl ⟨fun t' ht' hkey => ?_, fun row hrow hkey => ?_⟩
    · exact absurd hkey (by simpa using (List.mem_filter.1 ht').2)
    · exact absurd hkey (by simpa using (List.mem_filter.1 hrow).2)
  | wrote c raw v hc hv =>
    refine .inl ⟨fun t' ht' hkey => ?_, fun row hrow hkey hvalue => ?_⟩
    · rw [s₁.tasks_putValue] at ht'
      exact ⟨t', (hbefore.mem_tasks hkey).1 ht', hkey, rfl⟩
    · rcases Store.mem_putValue hrow with hold | rfl
      · exact .inl ((hbefore.mem_values hkey).1 hold)
      · exact .inr (fits_of_validateFor hcolumns hc hv t.id hvalue)

/-- What a bulk operation does to the task of an id. -/
theorem BulkRun.Upto.stays_or_leaves {b : Board} {r : BulkRequest} {run : BulkRun}
    (h : run.Upto c now s (s.schema b) r) (hids : (s.tasks.map (·.id)).Nodup)
    (hcolumns : (s.columns.map (·.id)).Nodup) (key : String) :
    s.Stays key run.store ∨ s.Leaves key run.store := by
  rcases h.task hids key with hsame | ⟨t, ht, rfl, hboard, s₁, s₂, hbefore, happlied,
    hafter⟩
  · exact .inl (.of_sameTask hsame)
  · rcases happlied.stays_or_leaves ht hboard hcolumns hbefore with hstays | hleaves
    · exact .inl (hstays.congr hafter)
    · exact .inr (hleaves.congr hafter)

theorem Effect.stays_or_leaves (h : Effect c now s s') (hids : (s.tasks.map (·.id)).Nodup)
    (hcolumns : (s.columns.map (·.id)).Nodup) (key : String) :
    s.Stays key s' ∨ s.Leaves key s' := by
  cases h with
  | filters => exact .inl (.of_tasks rfl fun row hrow _ => .inl hrow)
  | written _ _ h => exact .inl (setValues_stays hcolumns h)
  | cleared h =>
    simp only [clearValue, refuse_bind, ite_refuse_eq_ok, bind_eq_ok, pure_eq_ok] at h
    obtain ⟨type, -, -, rfl⟩ := h
    exact .inl (.of_tasks rfl fun row hrow _ => .inl (List.mem_of_mem_filter hrow))
  | bulk _ h => exact h.stays_or_leaves hids hcolumns key

/-- A request keeps all values canonical exactly if those that it moves fit where they go. -/
theorem Effect.canonical_iff (h : Effect c now s s') (hids : (s.tasks.map (·.id)).Nodup)
    (hcolumns : (s.columns.map (·.id)).Nodup) (hs : s.Canonical) :
    s'.Canonical ↔ s.MovesFit s' := by
  have hfits {row : FieldValue} : s'.Fits row ↔ s.Fits row := h.sameSchema.fits_iff
  refine ⟨fun hs' t ht t' ht' hid hboard row hrow hvalue row' hmoved => ?_,
    fun hmoves row hrow hvalue => ?_⟩
  · rcases h.stays_or_leaves hids hcolumns t.id with hstays | ⟨u, hu, hkey, boardId, -, harrives⟩
    · obtain ⟨u, hu, hkey, hsame⟩ := hstays.boards t' ht' hid
      obtain rfl := List.inj_on_of_nodup_map hids hu ht hkey
      exact absurd hsame hboard
    · rw [harrives.boards t' ht' hid] at hmoved
      have hmem := (harrives.values row').2 ⟨row, hrow, hmoved⟩
      obtain ⟨source, c, -, -, -, -, rfl⟩ := movedValue?_eq_some hmoved
      exact hfits.1 (hs' _ (List.mem_filter.1 hmem).1 hvalue)
  · rw [hfits]
    rcases h.stays_or_leaves hids hcolumns row.taskId with hstays | ⟨t, ht, hkey, boardId, hboard,
      harrives⟩
    · exact (hstays.values row hrow rfl hvalue).elim (hs row · hvalue) id
    · obtain ⟨t', ht', hid⟩ := harrives.task
      have hmem : row ∈ s'.valuesOf row.taskId := by simp [Store.valuesOf, hrow]
      obtain ⟨old, hold, hmoved⟩ := (harrives.values row).1 hmem
      have hvalue' : old.value ≠ .null := by
        obtain ⟨source, c, -, -, -, -, rfl⟩ := movedValue?_eq_some hmoved
        exact hvalue
      refine hmoves t ht t' ht' (hid.trans hkey.symm) ?_ old (hkey ▸ hold) hvalue' row ?_
      · rw [harrives.boards t' ht' hid]
        exact hboard
      · rw [harrives.boards t' ht' hid]
        exact hmoved

end Requests

/-! ## Runs -/

/-- A run of requests keeps all values canonical exactly if each move in it carries values over only
to columns for which they are canonical. -/
theorem serve_canonical_iff {c : Settings} {s : Store} (requests : List (Moment × Request))
    (hs : s.WellKeyed) (hcolumns : (s.columns.map (·.id)).Nodup) (h0 : s.Canonical) :
    (∀ before, before <+: requests → (serve c s before).Canonical) ↔
      ∀ before r, before ++ [r] <+: requests →
        (serve c s before).MovesFit (serve c s (before ++ [r])) := by
  have hstep (before : List (Moment × Request)) (r : Moment × Request)
      (hbefore : (serve c s before).Canonical) : (serve c s (before ++ [r])).Canonical ↔
        (serve c s before).MovesFit (serve c s (before ++ [r])) := by
    have heffect := handle_effect c r.1 (serve c s before) r.2
    rw [serve_append]
    refine heffect.canonical_iff (serve_wellKeyed before hs).ids ?_ hbefore
    rw [(serve_sameSchema c s before).columns]
    exact hcolumns
  refine ⟨fun h before r hprefix => ?_, fun h before => ?_⟩
  · exact (hstep before r (h before ((List.prefix_append before [r]).trans hprefix))).1
      (h _ hprefix)
  · induction before using List.reverseRecOn with
    | nil => exact fun _ => h0
    | append_singleton before r ih =>
      intro hprefix
      exact (hstep before r (ih ((List.prefix_append before [r]).trans hprefix))).2
        (h before r hprefix)

/-- If columns of the same name and type take the same options, all values stay canonical. -/
theorem serve_canonical {c : Settings} {s : Store} (requests : List (Moment × Request))
    (hs : s.WellKeyed) (hcolumns : (s.columns.map (·.id)).Nodup) (halike : s.AlikeColumns)
    (h0 : s.Canonical) : (serve c s requests).Canonical := by
  suffices hall : (serve c s requests).WellKeyed ∧ s.SameSchema (serve c s requests)
      ∧ (serve c s requests).Canonical from hall.2.2
  refine serve_preserves (P := fun s₁ => s₁.WellKeyed ∧ s.SameSchema s₁ ∧ s₁.Canonical)
    (fun now s₁ s₂ heffect h => ?_) requests ⟨hs, .refl s, h0⟩
  obtain ⟨hkeyed, hsame, hcanonical⟩ := h
  have hcolumns₁ : (s₁.columns.map (·.id)).Nodup := hsame.columns ▸ hcolumns
  have halike₁ : s₁.AlikeColumns := by
    rw [Store.AlikeColumns, hsame.columns]
    exact halike
  exact ⟨heffect.wellKeyed hkeyed, hsame.trans heffect.sameSchema,
    (heffect.canonical_iff hkeyed.ids hcolumns₁ hcanonical).2
    (halike₁.movesFit hcolumns₁ hcanonical)⟩

theorem Sample.twoBoards_canonical : twoBoards.Canonical := by
  intro row hrow _
  obtain rfl := List.mem_singleton.1 hrow
  exact ⟨_, .status, rfl, rfl, fun _ => rfl⟩

theorem serve_canonical_iff_two_boards :
    (Sample.twoBoards.WellKeyed ∧ (Sample.twoBoards.columns.map (·.id)).Nodup
        ∧ Sample.twoBoards.Canonical)
      ∧ ((∀ before, before <+: [(Moment.first, Sample.moveRequest)] →
          (serve .usual Sample.twoBoards before).Canonical) ↔
        ∀ before r, before ++ [r] <+: [(Moment.first, Sample.moveRequest)] →
          (serve .usual Sample.twoBoards before).MovesFit
            (serve .usual Sample.twoBoards (before ++ [r]))) := by
  have hkeyed : Sample.twoBoards.WellKeyed := ⟨by decide, by decide⟩
  have hcolumns : (Sample.twoBoards.columns.map (·.id)).Nodup := by decide
  exact ⟨⟨hkeyed, hcolumns, Sample.twoBoards_canonical⟩,
    serve_canonical_iff _ hkeyed hcolumns Sample.twoBoards_canonical⟩

/-- A move takes the stage of a task to a column that does not have it. -/
theorem not_canonical_after_move : Sample.twoBoards.Canonical
    ∧ ¬ (serve .usual Sample.twoBoards [(Moment.first, Sample.moveRequest)]).Canonical := by
  refine ⟨Sample.twoBoards_canonical, fun h => ?_⟩
  have hrow : (serve .usual Sample.twoBoards [(Moment.first, Sample.moveRequest)]).values.any
      (fun row => row.columnId == "stage-2" && row.value.str? == some "review") = true := by
    decide +kernel
  obtain ⟨⟨taskId, columnId, v⟩, hmem, hrow⟩ := List.any_eq_true.1 hrow
  obtain ⟨rfl, hv⟩ : columnId = "stage-2" ∧ v.str? = some "review" := by simpa using hrow
  obtain rfl : v = .str "review" := by
    cases v
    case str => exact congrArg Json.str (Option.some.inj hv)
    all_goals exact absurd hv (by simp [Json.str?])
  obtain ⟨c, t, hc, ht, hvalid⟩ := (serve_sameSchema ..).fits_iff.1 (h _ hmem (by simp))
  obtain rfl := Option.some.inj hc
  obtain rfl := Except.ok.inj ht
  exact Bool.false_ne_true (congrArg Except.isOk (hvalid Moment.first))

end BoardQuery
