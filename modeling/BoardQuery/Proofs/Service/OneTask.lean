import BoardQuery.Proofs.Service.Writes
import BoardQuery.Proofs.Value.Distinct
import Mathlib.Data.List.Nodup

/-!
# One task in a bulk operation

A change of one task leaves every other task and its rows as they were (`Applied.sameTask`). A bulk
operation names each of its tasks once, so what it does to a task is what one change did
(`BulkRun.Upto.task`).
-/

namespace BoardQuery

/-- Whether two stores have their schema, the tasks of an id and the rows of that id in common. -/
structure Store.SameTask (id : String) (s s' : Store) : Prop extends s.SameSchema s' where
  tasks : s'.tasks.filter (·.id == id) = s.tasks.filter (·.id == id)
  values : s'.valuesOf id = s.valuesOf id

namespace Store

namespace SameTask

variable {id : String} {s s₁ s₂ : Store}

theorem refl (id : String) (s : Store) : s.SameTask id s := ⟨.refl s, rfl, rfl⟩

theorem trans (h : s.SameTask id s₁) (h' : s₁.SameTask id s₂) : s.SameTask id s₂ :=
  ⟨h.toSameSchema.trans h'.toSameSchema, h'.tasks.trans h.tasks, h'.values.trans h.values⟩

theorem mem_tasks (h : s.SameTask id s₁) {t : Task} (ht : t.id = id) :
    t ∈ s₁.tasks ↔ t ∈ s.tasks := by
  have hmem (s : Store) : t ∈ s.tasks.filter (·.id == id) ↔ t ∈ s.tasks := by simp [ht]
  rw [← hmem s₁, ← hmem s, h.tasks]

theorem mem_values (h : s.SameTask id s₁) {v : FieldValue} (hv : v.taskId = id) :
    v ∈ s₁.values ↔ v ∈ s.values := by
  have hmem (s : Store) : v ∈ s.valuesOf id ↔ v ∈ s.values := by simp [valuesOf, hv]
  rw [← hmem s₁, ← hmem s, h.values]

end SameTask

section Keys

variable {α : Type} (key : α → String) {k k' : String}

/-- A change that leaves alone what has a key, and all other keys, is not seen under the key. -/
theorem filter_key_map {f : α → α} (hkey : ∀ x, key (f x) = key x)
    (hfix : ∀ x, key x = k → f x = x) :
    (xs : List α) → (xs.map f).filter (key · == k) = xs.filter (key · == k)
  | [] => rfl
  | x :: xs => by
    rw [List.map_cons, List.filter_cons, List.filter_cons, hkey, filter_key_map hkey hfix xs]
    split_ifs with hx
    · rw [hfix x (by simpa using hx)]
    · rfl

theorem filter_key_filter (hne : k ≠ k') (xs : List α) :
    (xs.filter (key · != k')).filter (key · == k) = xs.filter (key · == k) := by
  rw [List.filter_filter]
  refine List.filter_congr fun x _ => ?_
  by_cases hx : key x = k
  · simp [hx, hne]
  · simp [hx]

theorem find?_key : {xs : List α} → (xs.map key).Nodup → {x : α} → x ∈ xs →
    xs.find? (key · == key x) = some x
  | y :: ys, hnodup, x, hx => by
    rw [List.map_cons, List.nodup_cons] at hnodup
    rcases List.mem_cons.1 hx with rfl | hx
    · simp
    · have hne : key y ≠ key x := fun heq => hnodup.1 (heq ▸ List.mem_map_of_mem hx)
      rw [List.find?_cons_of_neg (by simpa using hne), find?_key hnodup.2 hx]

theorem filter_key_eq_singleton : {xs : List α} → (xs.map key).Nodup → {x : α} → x ∈ xs →
    xs.filter (key · == key x) = [x]
  | y :: ys, hnodup, x, hx => by
    rw [List.map_cons, List.nodup_cons] at hnodup
    rcases List.mem_cons.1 hx with rfl | hx
    · have hnone : ys.filter (key · == key x) = [] := List.filter_eq_nil_iff.2 fun z hz heq =>
        hnodup.1 (beq_iff_eq.1 heq ▸ List.mem_map_of_mem hz)
      rw [List.filter_cons_of_pos (by simp), hnone]
    · have hne : key y ≠ key x := fun heq => hnodup.1 (heq ▸ List.mem_map_of_mem hx)
      rw [List.filter_cons_of_neg (by simpa using hne), filter_key_eq_singleton hnodup.2 hx]

end Keys

section Frame

variable {s : Store} {id taskId : String}

/-- A changed task is the old one changed, but for the time of the change. -/
theorem mem_updateTask {now : Moment} {change : Task → Task} {u : Task}
    (h : u ∈ (s.updateTask now id change).tasks) : ∃ t ∈ s.tasks,
      (t.id = id ∧ ∃ stamp, u = { change t with updatedAt := stamp }) ∨ (t.id ≠ id ∧ u = t) := by
  obtain ⟨t, ht, rfl⟩ := List.mem_map.1 h
  refine ⟨t, ht, ?_⟩
  by_cases hid : t.id = id
  · refine .inl ⟨hid, ?_⟩
    by_cases hsame : change t = t
    · exact ⟨t.updatedAt, by rw [if_neg (by simp [hsame]), hsame]⟩
    · exact ⟨.ofClock now, if_pos (by simp [hid, hsame])⟩
  · exact .inr ⟨hid, if_neg (by simp [hid])⟩

/-- A change that keeps ids, boards and workspaces keeps those of each task. -/
theorem sameKeys_of_mem_updateTask {now : Moment} {change : Task → Task}
    (hid : ∀ t, (change t).id = t.id) (hboard : ∀ t, (change t).boardId = t.boardId)
    (hworkspace : ∀ t, (change t).workspaceId = t.workspaceId) {u : Task}
    (h : u ∈ (s.updateTask now id change).tasks) :
    ∃ t ∈ s.tasks, u.id = t.id ∧ u.boardId = t.boardId ∧ u.workspaceId = t.workspaceId := by
  obtain ⟨t, ht, ⟨-, stamp, rfl⟩ | ⟨-, rfl⟩⟩ := mem_updateTask h
  · exact ⟨t, ht, hid t, hboard t, hworkspace t⟩
  · exact ⟨u, ht, rfl, rfl, rfl⟩

/-- After a move the task is on the other board, and the others are as they were. -/
theorem mem_moveTask {now : Moment} {t u : Task} {target : Board} {rows : List FieldValue}
    {position : Int} (hs : (s.tasks.map (·.id)).Nodup) (ht : t ∈ s.tasks)
    (hu : u ∈ ((s.replaceValues t.id rows).updateTask now t.id fun t =>
      { t with boardId := target.id, position }).tasks) :
    (u.id = t.id ∧ u.boardId = target.id ∧ u.workspaceId = t.workspaceId)
      ∨ (u.id ≠ t.id ∧ u ∈ s.tasks) := by
  obtain ⟨old, hold, ⟨hid, stamp, rfl⟩ | ⟨hid, rfl⟩⟩ := mem_updateTask hu
  · obtain rfl := List.inj_on_of_nodup_map hs hold ht hid
    exact .inl ⟨rfl, rfl, rfl⟩
  · exact .inr ⟨hid, hold⟩

theorem filter_updateTask {now : Moment} {change : Task → Task}
    (hid : ∀ t, (change t).id = t.id) (hne : id ≠ taskId) :
    (s.updateTask now taskId change).tasks.filter (·.id == id) = s.tasks.filter (·.id == id) := by
  refine filter_key_map Task.id (fun t => ?_) (fun t ht => ?_) s.tasks
  · split_ifs
    · exact hid t
    · rfl
  · rw [if_neg]
    simp [ht, hne]

/-- A task that is changed comes out different, or as it was with the time of its last change. -/
theorem filter_updateTask_self {now : Moment} {change : Task → Task}
    (hid : ∀ t, (change t).id = t.id) :
    (s.updateTask now id change).tasks.filter (·.id == id)
      = (s.tasks.filter (·.id == id)).map fun t =>
        if change t = t then t else { change t with updatedAt := .ofClock now } := by
  have hkey (t : Task) : (if t.id == id && change t != t
      then { change t with updatedAt := .ofClock now } else t).id = t.id := by
    split_ifs
    · exact hid t
    · rfl
  rw [updateTask, List.filter_map]
  simp only [Function.comp_def, hkey]
  refine List.map_congr_left fun t ht => ?_
  have hsame : (t.id == id) = true := (List.mem_filter.1 ht).2
  by_cases hchange : change t = t
  · rw [if_neg (by simp [hchange]), if_pos hchange]
  · rw [if_pos (by simp [hsame, hchange]), if_neg hchange]

theorem filter_eraseTask (hne : id ≠ taskId) :
    (s.eraseTask taskId).tasks.filter (·.id == id) = s.tasks.filter (·.id == id) :=
  filter_key_filter Task.id hne s.tasks

theorem valuesOf_eraseTask (hne : id ≠ taskId) :
    (s.eraseTask taskId).valuesOf id = s.valuesOf id :=
  filter_key_filter FieldValue.taskId hne s.values

theorem valuesOf_putValue (hne : id ≠ taskId) (columnId : String) (v : Json) :
    (s.putValue taskId columnId v).valuesOf id = s.valuesOf id :=
  filter_putValue fun _ => beq_eq_false_iff_ne.2 hne.symm

theorem filter_valuesOf_putValue (columnId : String) (v : Json) :
    ((s.putValue taskId columnId v).valuesOf id).filter (·.columnId != columnId)
      = (s.valuesOf id).filter (·.columnId != columnId) := by
  rw [valuesOf, valuesOf, List.filter_filter, List.filter_filter]
  exact filter_putValue fun _ => by simp

theorem valuesOf_replaceValues {rows : List FieldValue} (hrows : ∀ v ∈ rows, v.taskId = taskId)
    (hne : id ≠ taskId) : (s.replaceValues taskId rows).valuesOf id = s.valuesOf id := by
  have hnone : rows.filter (·.taskId == id) = [] :=
    List.filter_eq_nil_iff.2 fun v hv => by simp [hrows v hv, hne.symm]
  simp only [replaceValues, valuesOf, List.filter_append, hnone, List.append_nil]
  exact filter_key_filter FieldValue.taskId hne s.values

theorem valuesOf_replaceValues_self {rows : List FieldValue}
    (hrows : ∀ v ∈ rows, v.taskId = taskId) :
    (s.replaceValues taskId rows).valuesOf taskId = rows := by
  have hall : rows.filter (·.taskId == taskId) = rows :=
    List.filter_eq_self.2 fun v hv => by simp [hrows v hv]
  have hnone : (s.values.filter (·.taskId != taskId)).filter (·.taskId == taskId) = [] :=
    List.filter_eq_nil_iff.2 fun v hv => by simpa using (List.mem_filter.1 hv).2
  simp only [replaceValues, valuesOf, List.filter_append, hnone, hall, List.nil_append]

end Frame

end Store

section Changes

variable {start : Store} {now : Moment} {b : Board} {s s' : Store} {t : Task}

/-- The rows of a task that is moved are those that have a place on the other board. -/
theorem mem_movedRows {columns : List BoardColumn} {xs : List FieldValue}
    {rows : List (Option FieldValue)} (h : xs.mapM (movedValue? s columns) = .ok rows)
    {v : FieldValue} :
    v ∈ rows.filterMap id ↔ ∃ x ∈ xs, movedValue? s columns x = .ok (some v) := by
  rw [List.mem_filterMap]
  refine ⟨?_, fun hv => ⟨some v, (mem_of_mapM_eq_ok h).2 hv, rfl⟩⟩
  rintro ⟨row, hrow, rfl⟩
  exact (mem_of_mapM_eq_ok h).1 hrow

/-- A row that is moved comes to a column with the name and the type of its own. -/
theorem movedValue?_eq_some {columns : List BoardColumn} {x v : FieldValue}
    (h : movedValue? s columns x = .ok (some v)) :
    ∃ source c, s.column? x.columnId = some source ∧ c ∈ columns ∧ c.name = source.name
      ∧ c.typeName = source.typeName ∧ v = { x with columnId := c.id } := by
  unfold movedValue? at h
  split at h
  · exact absurd h (by simp)
  · rename_i source hsource
    obtain ⟨c, hc, hv⟩ := Option.map_eq_some_iff.1 (Except.ok.inj h)
    obtain ⟨hname, htype⟩ : c.name = source.name ∧ c.typeName = source.typeName := by
      simpa using List.find?_some hc
    exact ⟨source, c, hsource, List.mem_of_find?_eq_some hc, hname, htype, hv.symm⟩

theorem taskId_of_mem_movedRows {columns : List BoardColumn} {rows : List (Option FieldValue)}
    (h : (s.valuesOf t.id).mapM (movedValue? s columns) = .ok rows) :
    ∀ v ∈ rows.filterMap id, v.taskId = t.id := by
  intro v hv
  obtain ⟨x, hx, hmoved⟩ := (mem_movedRows h).1 hv
  obtain ⟨source, c, -, -, -, -, rfl⟩ := movedValue?_eq_some hmoved
  simpa using (List.mem_filter.1 hx).2

/-- The rows of a task that is moved are for columns of the other board. -/
theorem placed_of_mem_movedRows {target : Board} {rows : List (Option FieldValue)}
    (h : (s.valuesOf t.id).mapM (movedValue? s (start.columns.filter (·.boardId == target.id)))
      = .ok rows) :
    ∀ v ∈ rows.filterMap id, v.taskId = t.id
      ∧ ∃ c ∈ start.columns, c.boardId = target.id ∧ c.id = v.columnId := by
  intro v hv
  refine ⟨taskId_of_mem_movedRows h v hv, ?_⟩
  obtain ⟨x, -, hmoved⟩ := (mem_movedRows h).1 hv
  obtain ⟨source, c, -, hc, -, -, rfl⟩ := movedValue?_eq_some hmoved
  obtain ⟨hc, hboard⟩ := List.mem_filter.1 hc
  exact ⟨c, hc, beq_iff_eq.1 hboard, rfl⟩

theorem Applied.sameTask {key : String} (h : Applied start now b s t s') (hne : key ≠ t.id) :
    s.SameTask key s' := by
  refine ⟨h.sameSchema, ?_, ?_⟩
  · cases h with
    | updated change hid => exact Store.filter_updateTask hid hne
    | moved target rows =>
      refine (Store.filter_updateTask ?_ hne).trans rfl
      exact fun _ => rfl
    | erased => exact Store.filter_eraseTask hne
    | wrote c raw v => rw [Store.tasks_putValue]
  · cases h with
    | updated => rfl
    | moved target rows _ hrows =>
      exact Store.valuesOf_replaceValues (taskId_of_mem_movedRows hrows) hne
    | erased => exact Store.valuesOf_eraseTask hne
    | wrote => exact Store.valuesOf_putValue hne ..

/-- What a run of changes does to the tasks of an id: nothing, or what one change did. -/
theorem foldlM_step_task {change : TaskChange}
    (hconcerns : change.Concerns start b) (key : String) :
    (tasks : List Task) → (tasks.map (·.id)).Nodup → {run run' : BulkRun} →
    tasks.foldlM (BulkRun.step (start.surroundings now) change) run = .ok run' →
    run.store.SameTask key run'.store ∨ ∃ t ∈ tasks, t.id = key ∧ ∃ s s',
      run.store.SameTask key s ∧ Applied start now b s t s' ∧ s'.SameTask key run'.store
  | [], _, _, _, h => by
    obtain rfl := pure_eq_ok.1 h
    exact .inl (.refl key _)
  | t :: tasks, hnodup, run, run', h => by
    rw [List.foldlM_cons, bind_eq_ok] at h
    obtain ⟨next, hnext, h⟩ := h
    rw [List.map_cons, List.nodup_cons] at hnodup
    have hlater := foldlM_step_task hconcerns key tasks hnodup.2 h
    have hnow : run.store.SameTask key next.store
        ∨ t.id = key ∧ Applied start now b run.store t next.store := by
      rcases step_eq_ok hnext with heq | happly
      · rw [heq]
        exact .inl (.refl key _)
      · have happlied := applyChange_applied hconcerns happly
        by_cases hkey : t.id = key
        · exact .inr ⟨hkey, happlied⟩
        · exact .inl (happlied.sameTask (Ne.symm hkey))
    rcases hnow with hsame | ⟨rfl, happlied⟩
    · rcases hlater with hlater | ⟨u, hu, hkey, s, s', hbefore, happlied, hafter⟩
      · exact .inl (hsame.trans hlater)
      · exact .inr ⟨u, List.mem_cons_of_mem t hu, hkey, s, s', hsame.trans hbefore, happlied,
          hafter⟩
    · -- The task is changed now, so none of the later ones has its id.
      rcases hlater with hlater | ⟨u, hu, hkey, -⟩
      · exact .inr ⟨t, List.mem_cons_self, rfl, _, _, .refl _ _, happlied, hlater⟩
      · exact absurd (List.mem_map.2 ⟨u, hu, hkey⟩) hnodup.1

/-- What each change keeps, a run of changes keeps, and no task has changed before its turn. -/
theorem foldlM_step_awaited {change : TaskChange} {P : Store → Prop}
    (hconcerns : change.Concerns start b) :
    (tasks : List Task) → (tasks.map (·.id)).Nodup →
    (∀ s₁ s₂, ∀ t ∈ tasks, t ∈ s₁.tasks → start.SameSchema s₁ → P s₁ →
      Applied start now b s₁ t s₂ → P s₂) →
    {run run' : BulkRun} → (∀ t ∈ tasks, t ∈ run.store.tasks) → start.SameSchema run.store →
    P run.store → tasks.foldlM (BulkRun.step (start.surroundings now) change) run = .ok run' →
    P run'.store
  | [], _, _, _, _, _, _, h0, h => by
    obtain rfl := pure_eq_ok.1 h
    exact h0
  | t :: tasks, hnodup, hstep, run, run', hmem, hschema, h0, h => by
    rw [List.foldlM_cons, bind_eq_ok] at h
    obtain ⟨next, hnext, h⟩ := h
    rw [List.map_cons, List.nodup_cons] at hnodup
    have hlater : ∀ u ∈ tasks, u ∈ run.store.tasks :=
      fun u hu => hmem u (List.mem_cons_of_mem t hu)
    have hrest (s₁ s₂ : Store) : ∀ u ∈ tasks, u ∈ s₁.tasks → start.SameSchema s₁ → P s₁ →
        Applied start now b s₁ u s₂ → P s₂ :=
      fun u hu => hstep s₁ s₂ u (List.mem_cons_of_mem t hu)
    rcases step_eq_ok hnext with heq | happly
    · rw [← heq] at hlater hschema h0
      exact foldlM_step_awaited hconcerns tasks hnodup.2 hrest hlater hschema h0 h
    · have happlied := applyChange_applied hconcerns happly
      refine foldlM_step_awaited hconcerns tasks hnodup.2 hrest (fun u hu => ?_)
        (hschema.trans happlied.sameSchema)
        (hstep _ _ t List.mem_cons_self (hmem t List.mem_cons_self) hschema h0 happlied) h
      have hne : u.id ≠ t.id := fun hid => hnodup.1 (List.mem_map.2 ⟨u, hu, hid⟩)
      exact ((happlied.sameTask hne).mem_tasks rfl).2 (hlater u hu)

theorem targets_nodup {schema : BoardSchema} {archived : Bool} {limit : Int} {ids filters : Json}
    {targets : Targets} (hs : (s.tasks.map (·.id)).Nodup)
    (h : selectTargets now s schema archived limit ids filters = .ok targets) :
    (targets.tasks.map (·.id)).Nodup := by
  simp only [selectTargets, ite_refuse_eq_ok] at h
  obtain ⟨-, h⟩ := h
  split_ifs at h
  · simp only [targetsByFilter, bind_eq_ok, refuse_bind, ite_refuse_eq_ok, pure_eq_ok] at h
    obtain ⟨tree, -, -, rfl⟩ := h
    rw [((List.mergeSort_perm _ _).map _).nodup_iff]
    exact hs.sublist (List.filter_sublist.map _)
  · unfold targetsById at h
    split at h
    · exact absurd h refuse_ne_ok
    · simp only [refuse_bind, ite_refuse_eq_ok, pure_eq_ok] at h
      obtain ⟨-, rfl⟩ := h
      rw [List.map_filterMap]
      refine List.Nodup.filterMap (fun i j key hi hj => ?_) (nodup_distinct _)
      have hfound {i : String}
          (hi : key ∈ ((s.task? i).filter (inScope schema archived)).map (·.id)) :
          i = key := by
        obtain ⟨t, ht, rfl⟩ := Option.map_eq_some_iff.1 hi
        have hid : t.id = i := by simpa using List.find?_some (Option.filter_eq_some_iff.1 ht).1
        exact hid.symm
      exact (hfound hi).trans (hfound hj).symm

/-- What a bulk operation does to the tasks of an id: nothing, or what one change did of the task of
the board that has the id. -/
theorem BulkRun.Upto.task {c : Settings} {r : BulkRequest} {run : BulkRun}
    (h : run.Upto c now s (s.schema b) r) (hs : (s.tasks.map (·.id)).Nodup) (key : String) :
    s.SameTask key run.store ∨ ∃ t ∈ s.tasks, t.id = key ∧ t.boardId = b.id ∧ ∃ s₁ s₂,
      s.SameTask key s₁ ∧ Applied s now b s₁ t s₂ ∧ s₂.SameTask key run.store := by
  obtain ⟨plan, done, hplan, hdone, hrun⟩ := h
  obtain ⟨hchange, htargets⟩ := planBulk_eq_ok hplan
  have hnodup : (done.map (·.id)).Nodup :=
    (targets_nodup hs htargets).sublist (hdone.sublist.map _)
  rcases foldlM_step_task (prepareChange_concerns hchange) key done hnodup hrun with
    hsame | ⟨t, ht, hkey, hstep⟩
  · exact .inl hsame
  · obtain ⟨hmem, hboard⟩ := targets_onBoard htargets t (hdone.subset ht)
    exact .inr ⟨t, hmem, hkey, hboard, hstep⟩

/-- A property that every change keeps, of a task that is still there as it was, is kept by a bulk
operation. -/
theorem BulkRun.Upto.preserves_awaited {c : Settings} {r : BulkRequest} {run : BulkRun}
    {P : Store → Prop} (h : run.Upto c now s (s.schema b) r) (hs : (s.tasks.map (·.id)).Nodup)
    (hstep : ∀ s₁ s₂, ∀ t ∈ s₁.tasks, t.boardId = b.id → s.SameSchema s₁ → P s₁ →
      Applied s now b s₁ t s₂ → P s₂)
    (h0 : P s) : P run.store := by
  obtain ⟨plan, done, hplan, hdone, hrun⟩ := h
  obtain ⟨hchange, htargets⟩ := planBulk_eq_ok hplan
  have hscope : ∀ t ∈ done, t ∈ s.tasks ∧ t.boardId = b.id :=
    fun t ht => targets_onBoard htargets t (hdone.subset ht)
  exact foldlM_step_awaited (prepareChange_concerns hchange) done
    ((targets_nodup hs htargets).sublist (hdone.sublist.map _))
    (fun s₁ s₂ t ht hmem => hstep s₁ s₂ t hmem (hscope t ht).2)
    (fun t ht => (hscope t ht).1) (.refl s) h0 hrun

end Changes

end BoardQuery
