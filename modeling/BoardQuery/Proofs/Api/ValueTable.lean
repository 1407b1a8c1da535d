import BoardQuery.Proofs.Api.Runs
import BoardQuery.Proofs.Query.Emptiness
import BoardQuery.Proofs.Sample
import BoardQuery.Proofs.Service.WorkspaceChanges

/-!
# The table of values

Every row of a value belongs to a task and to a column of the board of the task, no task has two
rows for a column, and a task is of the workspace of its board. Each kind of write keeps this
(`Applied.coherent`), so that it holds after any requests (`serve_coherent`).
-/

namespace BoardQuery

/-- Whether the values belong to the tasks, and the tasks to the boards, where ids name one board
and one task each. -/
structure Store.Coherent (s : Store) : Prop where
  boardIds : (s.boards.map (·.id)).Nodup
  taskIds : (s.tasks.map (·.id)).Nodup
  owned : ∀ v ∈ s.values, ∃ t ∈ s.tasks, t.id = v.taskId
  valued : ∀ v ∈ s.values, ∀ t ∈ s.tasks, t.id = v.taskId →
    ∃ c ∈ s.columns, c.id = v.columnId ∧ c.boardId = t.boardId
  unique : s.UniqueRows
  placed : ∀ t ∈ s.tasks, ∃ b ∈ s.boards, b.id = t.boardId ∧ b.workspaceId = t.workspaceId

theorem Store.uniqueRows_replaceValues {s : Store} (h : s.UniqueRows) {taskId : String}
    {rows : List FieldValue} (hrows : ∀ v ∈ rows, v.taskId = taskId)
    (hdistinct : (rows.map (·.columnId)).Nodup) :
    (s.replaceValues taskId rows).UniqueRows := by
  rw [UniqueRows, replaceValues, List.map_append, List.nodup_append]
  refine ⟨List.Nodup.sublist (List.filter_sublist.map _) h, ?_, ?_⟩
  · refine List.Nodup.of_map Prod.snd ?_
    rw [List.map_map]
    exact hdistinct
  · -- The rows that are kept are those of other tasks.
    rintro key hkept _ hnew rfl
    obtain ⟨v, hv, rfl⟩ := List.mem_map.1 hkept
    obtain ⟨w, hw, heq⟩ := List.mem_map.1 hnew
    obtain ⟨-, hother⟩ := List.mem_filter.1 hv
    rw [← (Prod.mk.inj heq).1, hrows w hw] at hother
    exact absurd hother (by simp)

namespace Store.Coherent

variable {s : Store}

/-- Rows may be taken away. -/
theorem of_sublist (h : s.Coherent) {values : List FieldValue} (hsub : values.Sublist s.values) :
    ({ s with values } : Store).Coherent where
  boardIds := h.boardIds
  taskIds := h.taskIds
  owned v hv := h.owned v (hsub.subset hv)
  valued v hv := h.valued v (hsub.subset hv)
  unique := List.Nodup.sublist (hsub.map _) h.unique
  placed := h.placed

theorem putValue (h : s.Coherent) {t : Task} {c : BoardColumn} (ht : t ∈ s.tasks)
    (hc : c ∈ s.columns) (hboard : c.boardId = t.boardId) (v : Json) :
    (s.putValue t.id c.id v).Coherent := by
  have hschema : s.SameSchema (s.putValue t.id c.id v) := .putValue ..
  refine ⟨?_, ?_, fun row hrow => ?_, fun row hrow u hu hid => ?_,
    Store.uniqueRows_putValue h.unique, fun u hu => ?_⟩
  · rw [hschema.boards]
    exact h.boardIds
  · rw [s.tasks_putValue]
    exact h.taskIds
  · rw [s.tasks_putValue]
    rcases Store.mem_putValue hrow with hold | rfl
    · exact h.owned row hold
    · exact ⟨t, ht, rfl⟩
  · rw [s.tasks_putValue] at hu
    rw [hschema.columns]
    rcases Store.mem_putValue hrow with hold | rfl
    · exact h.valued row hold u hu hid
    · obtain rfl := List.inj_on_of_nodup_map h.taskIds hu ht hid
      exact ⟨c, hc, rfl, hboard⟩
  · rw [s.tasks_putValue] at hu
    rw [hschema.boards]
    exact h.placed u hu

theorem updateTask (h : s.Coherent) {now : Moment} {id : String} {change : Task → Task}
    (hid : ∀ t, (change t).id = t.id) (hboard : ∀ t, (change t).boardId = t.boardId)
    (hworkspace : ∀ t, (change t).workspaceId = t.workspaceId) :
    (s.updateTask now id change).Coherent := by
  have hids : (s.updateTask now id change).tasks.map (·.id) = s.tasks.map (·.id) :=
    s.ids_updateTask hid
  refine ⟨h.boardIds, ?_, fun v hv => ?_, fun v hv u hu huid => ?_, h.unique, fun u hu => ?_⟩
  · rw [hids]
    exact h.taskIds
  · rw [← List.mem_map, hids, List.mem_map]
    exact h.owned v hv
  · obtain ⟨t, ht, hi, hb, -⟩ := sameKeys_of_mem_updateTask hid hboard hworkspace hu
    rw [hb]
    exact h.valued v hv t ht (hi.symm.trans huid)
  · obtain ⟨t, ht, -, hb, hw⟩ := sameKeys_of_mem_updateTask hid hboard hworkspace hu
    rw [hb, hw]
    exact h.placed t ht

theorem eraseTask (h : s.Coherent) (id : String) : (s.eraseTask id).Coherent := by
  refine ⟨h.boardIds, ?_, fun v hv => ?_, fun v hv u hu => ?_, ?_, fun u hu => ?_⟩
  · exact h.taskIds.sublist (List.filter_sublist.map _)
  · obtain ⟨hv, hne⟩ := List.mem_filter.1 hv
    obtain ⟨t, ht, hid⟩ := h.owned v hv
    exact ⟨t, List.mem_filter.2 ⟨ht, by rwa [hid]⟩, hid⟩
  · exact h.valued v (List.mem_of_mem_filter hv) u (List.mem_of_mem_filter hu)
  · exact List.Nodup.sublist (List.filter_sublist.map _) h.unique
  · exact h.placed u (List.mem_of_mem_filter hu)

theorem moveTask (h : s.Coherent) {now : Moment} {t : Task} {target : Board}
    {rows : List FieldValue} (position : Int) (ht : t ∈ s.tasks) (htarget : target ∈ s.boards)
    (hworkspace : target.workspaceId = t.workspaceId)
    (hrows : ∀ v ∈ rows, v.taskId = t.id
      ∧ ∃ c ∈ s.columns, c.boardId = target.id ∧ c.id = v.columnId)
    (hdistinct : (rows.map (·.columnId)).Nodup) :
    ((s.replaceValues t.id rows).updateTask now t.id fun t =>
      { t with boardId := target.id, position }).Coherent := by
  have hids : ((s.replaceValues t.id rows).updateTask now t.id fun t =>
        { t with boardId := target.id, position }).tasks.map (·.id) = s.tasks.map (·.id) :=
    ids_updateTask _ fun _ => rfl
  refine ⟨h.boardIds, ?_, fun v hv => ?_, fun v hv u hu huid => ?_,
    uniqueRows_replaceValues h.unique (fun v hv => (hrows v hv).1) hdistinct, fun u hu => ?_⟩
  · rw [hids]
    exact h.taskIds
  · rw [← List.mem_map, hids, List.mem_map]
    rcases List.mem_append.1 hv with hv | hv
    · exact h.owned v (List.mem_of_mem_filter hv)
    · exact ⟨t, ht, (hrows v hv).1.symm⟩
  · rcases List.mem_append.1 hv with hv | hv
    · obtain ⟨hv, hother⟩ := List.mem_filter.1 hv
      rcases mem_moveTask h.taskIds ht hu with ⟨hsame, -⟩ | ⟨-, hold⟩
      · exact absurd (huid.symm.trans hsame) (by simpa using hother)
      · exact h.valued v hv u hold huid
    · obtain ⟨hown, c, hc, hboard, hcolumn⟩ := hrows v hv
      rcases mem_moveTask h.taskIds ht hu with ⟨-, hsame, -⟩ | ⟨hother, -⟩
      · exact ⟨c, hc, hcolumn, hboard.trans hsame.symm⟩
      · exact absurd (huid.trans hown) hother
  · rcases mem_moveTask h.taskIds ht hu with ⟨-, hboard, hw⟩ | ⟨-, hold⟩
    · exact ⟨target, htarget, hboard.symm, hworkspace.trans hw.symm⟩
    · exact h.placed u hold

end Store.Coherent

section Requests

variable {c : Settings} {now : Moment} {start s s' : Store} {b : Board} {t : Task}

/-- A change of a task that is on its board keeps the table in order. -/
theorem Applied.coherent (happlied : Applied start now b s t s') (h : s.Coherent)
    (hschema : start.SameSchema s) (hb : b ∈ start.boards) (ht : t ∈ s.tasks)
    (hplaced : t.boardId = b.id) : s'.Coherent := by
  cases happlied with
  | updated change hid hboard _ hworkspace => exact h.updateTask hid hboard hworkspace
  | moved target rows _ hrows _ hmem hworkspace hdistinct =>
    rw [← hschema.boards] at hb hmem
    have htask : t.workspaceId = b.workspaceId :=
      Store.workspaceId_of_placed h.boardIds (h.placed t ht) hb hplaced
    refine h.moveTask _ ht hmem (hworkspace.trans htask.symm) ?_ hdistinct
    rw [hschema.columns]
    exact placed_of_mem_movedRows hrows
  | erased => exact h.eraseTask t.id
  | wrote column raw v hcolumn =>
    obtain ⟨hcolumn, hboard⟩ := mem_columns_schema.1 hcolumn
    rw [← hschema.columns] at hcolumn
    exact h.putValue ht hcolumn (hboard.trans hplaced.symm) v

theorem setValues_coherent {values : Json} (h : s.Coherent) (ht : t ∈ s.tasks)
    (hplaced : t.boardId = b.id)
    (hset : setValues (s.surroundings now) s t (s.schema b) values = .ok s') : s'.Coherent := by
  obtain ⟨checks, rfl, hchecks⟩ := setValues_eq_ok hset
  suffices hwritten : (writeChecked s t checks).Coherent
      ∧ t ∈ (writeChecked s t checks).tasks ∧ (writeChecked s t checks).columns = s.columns from
    hwritten.1
  -- The writes before have touched neither the task nor the columns.
  refine writeChecked_preserves (P := fun s₁ => s₁.Coherent ∧ t ∈ s₁.tasks
    ∧ s₁.columns = s.columns) checks (fun column v hcv s₁ hs₁ => ?_) ⟨h, ht, rfl⟩
  obtain ⟨hs₁, ht₁, hcolumns⟩ := hs₁
  obtain ⟨hcolumn, -⟩ := hchecks column v hcv
  obtain ⟨hcolumn, hboard⟩ := mem_columns_schema.1 hcolumn
  rw [← hcolumns] at hcolumn
  refine ⟨hs₁.putValue ht₁ hcolumn (hboard.trans hplaced.symm) v, ?_, ?_⟩
  · rw [s₁.tasks_putValue]
    exact ht₁
  · rw [(Store.SameSchema.putValue s₁ t.id column.id v).columns, hcolumns]

theorem Effect.coherent (heffect : Effect c now s s') (h : s.Coherent) : s'.Coherent := by
  cases heffect with
  | filters fs n => exact ⟨h.boardIds, h.taskIds, h.owned, h.valued, h.unique, h.placed⟩
  | written ht hplaced hset => exact setValues_coherent h ht hplaced hset
  | cleared hclear =>
    simp only [clearValue, refuse_bind, ite_refuse_eq_ok, bind_eq_ok, pure_eq_ok] at hclear
    obtain ⟨type, -, -, rfl⟩ := hclear
    exact h.of_sublist List.filter_sublist
  | bulk hb hrun =>
    exact hrun.preserves_awaited h.taskIds (fun s₁ s₂ t ht hplaced hschema hs₁ happlied =>
      happlied.coherent hs₁ hschema hb ht hplaced) h

/-- The table of values is in order after any requests, if it was before them. -/
theorem serve_coherent {c : Settings} {s : Store} (requests : List (Moment × Request))
    (hs : s.Coherent) : (serve c s requests).Coherent :=
  serve_preserves (fun _ _ _ heffect => heffect.coherent) requests hs

/-- The table is in order before and after the task is moved to the other board, from a column to
another of the same name. -/
theorem serve_coherent_moved :
    Sample.twoBoards.Coherent ∧ (serve Settings.usual Sample.twoBoards
      [(Moment.first, Sample.moveRequest)]).Coherent := by
  have hstart : Sample.twoBoards.Coherent := by
    refine ⟨by decide, by decide, ?_, ?_, by decide, ?_⟩
    · simp [Sample.twoBoards, Sample.store, Sample.task]
    · simp [Sample.twoBoards, Sample.store, Sample.task, Sample.column, Sample.board]
    · simp [Sample.twoBoards, Sample.store, Sample.task, Sample.board]
  exact ⟨hstart, serve_coherent _ hstart⟩

end Requests

end BoardQuery
