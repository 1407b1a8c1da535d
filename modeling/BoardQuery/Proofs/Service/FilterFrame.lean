import BoardQuery.Proofs.Service.Listings

/-!
# Operations that do not ask for saved filters

Only operations on saved filters, and listings by one, look at the saved filters of a store. All
others come to the same without a filter, and leave the filters that are there
(`runBulk_eraseFilter`, `setValues_eraseFilter`, `clearValue_eraseFilter`).
-/

namespace BoardQuery

/-! ## Reading -/

namespace SameButFilters

variable {s s' : Store}

theorem exists_eq (h : SameButFilters s s') :
    ∃ fs n, s' = { s with filters := fs, filtersWritten := n } := ⟨_, _, h⟩

theorem symm (h : SameButFilters s s') : SameButFilters s' s := by
  obtain ⟨fs, n, rfl⟩ := h.exists_eq
  rfl

theorem eraseFilter (s : Store) (id : String) : SameButFilters s (s.eraseFilter id) := rfl

theorem buildFilter_eq (h : SameButFilters s s') (now : Moment) (schema : BoardSchema)
    (staleOk : Bool) (raw : Json) :
    buildFilter s' now schema staleOk raw = buildFilter s now schema staleOk raw := by
  obtain ⟨fs, n, rfl⟩ := h.exists_eq
  rfl

theorem selectTasks_eq (h : SameButFilters s s') (schema : BoardSchema) (archived : Bool)
    (condition : Option Condition) :
    selectTasks s' schema archived condition = selectTasks s schema archived condition :=
  selectTasks_congr h.tasks h.values ..

theorem page_eq (h : SameButFilters s s') (o : TaskOrder) (tasks : List Task) (pager : Pager) :
    o.page s' tasks pager = o.page s tasks pager := by
  obtain ⟨fs, n, rfl⟩ := h.exists_eq
  rfl

theorem taskJson_eq (h : SameButFilters s s') (inclusions : List Inclusion) (t : Task) :
    taskJson s' inclusions t = taskJson s inclusions t := by
  obtain ⟨fs, n, rfl⟩ := h.exists_eq
  rfl

end SameButFilters

/-! ## Writing -/

section Writes

variable {env : Surroundings} {id : String}

theorem putValue_eraseFilter (s : Store) (taskId columnId : String) (v : Json) :
    (s.eraseFilter id).putValue taskId columnId v
      = (s.putValue taskId columnId v).eraseFilter id := by
  have hvalue : (s.eraseFilter id).value? taskId columnId = s.value? taskId columnId := rfl
  unfold Store.putValue
  rw [hvalue]
  split_ifs <;> rfl

theorem setValue_eraseFilter (s : Store) (t : Task) (c : BoardColumn) (raw : Json) :
    setValue env (s.eraseFilter id) t c raw
      = (setValue env s t c raw).map (·.eraseFilter id) := by
  unfold setValue
  split_ifs
  · rfl
  · refine bind_eq_map_bind fun v _ => ?_
    rw [putValue_eraseFilter]
    rfl

theorem moveTask_eraseFilter (now : Moment) (s : Store) (t : Task) (target : Board)
    (columns : List BoardColumn) :
    moveTask now (s.eraseFilter id) t target columns
      = (moveTask now s t target columns).map (·.eraseFilter id) := by
  have hposition : nextPosition (s.eraseFilter id) target.id = nextPosition s target.id := rfl
  refine bind_eq_map_bind fun rows _ => ?_
  dsimp only
  rw [hposition]
  split_ifs <;> rfl

theorem applyChange_eraseFilter (s : Store) (t : Task) (change : TaskChange) :
    applyChange env (s.eraseFilter id) t change
      = (applyChange env s t change).map (·.eraseFilter id) := by
  cases change with
  | board target columns => exact moveTask_eraseFilter ..
  | addLabels c labels =>
    exact bind_eq_map_bind fun current _ => setValue_eraseFilter ..
  | removeLabels c labels =>
    exact bind_eq_map_bind fun current _ => bind_eq_map_bind fun rest _ => setValue_eraseFilter ..
  | field c raw => exact setValue_eraseFilter ..
  | _ => rfl

/-- A run without a saved filter in its store. -/
def BulkRun.eraseFilter (id : String) (run : BulkRun) : BulkRun :=
  { run with store := run.store.eraseFilter id }

theorem step_eraseFilter (change : TaskChange) (run : BulkRun) (t : Task) :
    BulkRun.step env change (run.eraseFilter id) t
      = (BulkRun.step env change run t).map (BulkRun.eraseFilter id) := by
  unfold BulkRun.step BulkRun.eraseFilter
  rw [applyChange_eraseFilter]
  rcases applyChange env run.store t change with e | s
  · simp only [Except.map]
    rcases failureText? e with _ | text <;> rfl
  · rfl

theorem foldlM_step_eraseFilter (change : TaskChange) : (tasks : List Task) → (run : BulkRun) →
    tasks.foldlM (BulkRun.step env change) (run.eraseFilter id)
      = (tasks.foldlM (BulkRun.step env change) run).map (BulkRun.eraseFilter id)
  | [], _ => rfl
  | t :: tasks, run => by
    rw [List.foldlM_cons, List.foldlM_cons, step_eraseFilter]
    rcases BulkRun.step env change run t with e | next
    · rfl
    · exact foldlM_step_eraseFilter change tasks next

theorem changeUntilFailure_eraseFilter (change : TaskChange) : (tasks : List Task) → (s : Store) →
    changeUntilFailure env change (s.eraseFilter id) tasks
      = (changeUntilFailure env change s tasks).eraseFilter id
  | [], _ => rfl
  | t :: tasks, s => by
    rw [changeUntilFailure, changeUntilFailure, applyChange_eraseFilter]
    rcases applyChange env s t change with e | next
    · rfl
    · exact changeUntilFailure_eraseFilter change tasks next

theorem writeChecked_eraseFilter {t : Task} : (checks : List KeyCheck) → (s : Store) →
    writeChecked (s.eraseFilter id) t checks = (writeChecked s t checks).eraseFilter id
  | [], _ => rfl
  | .accepted c v :: checks, s => by
    have hrest := writeChecked_eraseFilter (t := t) checks (s.putValue t.id c.id v)
    rw [← putValue_eraseFilter] at hrest
    exact hrest
  | .rejected _ _ :: checks, s => writeChecked_eraseFilter checks s

theorem setValues_eraseFilter (s : Store) (t : Task) (schema : BoardSchema) (values : Json) :
    setValues env (s.eraseFilter id) t schema values
      = (setValues env s t schema values).map (·.eraseFilter id) := by
  unfold setValues
  split
  · refine bind_eq_map_bind fun checks _ => ?_
    split
    · exact congrArg Except.ok (writeChecked_eraseFilter checks s)
    · rfl
  · rfl

theorem clearValue_eraseFilter (s : Store) (t : Task) (c : BoardColumn) :
    clearValue (s.eraseFilter id) t c = (clearValue s t c).map (·.eraseFilter id) := by
  refine bind_eq_map_bind fun type _ => ?_
  dsimp only
  split_ifs <;> rfl

end Writes

/-! ## Bulk operations -/

section Bulk

variable {c : Settings} {now : Moment} {id : String} {r : BulkRequest}

theorem planBulk_eraseFilter (s : Store) (schema : BoardSchema) :
    planBulk c now (s.eraseFilter id) schema r = planBulk c now s schema r := by
  have hsame := SameButFilters.eraseFilter s id
  have henv : (s.eraseFilter id).surroundings now = s.surroundings now := rfl
  have hprepare (op : BulkOperation) (params : Json) :
      prepareChange (s.surroundings now) (s.eraseFilter id) schema op params
        = prepareChange (s.surroundings now) s schema op params := by
    cases op <;> rfl
  have htargets (archived : Bool) (limit : Int) (ids filters : Json) :
      selectTargets now (s.eraseFilter id) schema archived limit ids filters
        = selectTargets now s schema archived limit ids filters := by
    simp only [selectTargets, targetsByFilter, hsame.buildFilter_eq, hsame.selectTasks_eq]
    rfl
  simp only [planBulk, henv, hprepare, htargets]

theorem runBulk_eraseFilter (s : Store) (schema : BoardSchema) :
    runBulk c now (s.eraseFilter id) schema r
      = (runBulk c now s schema r).map fun (op, run) => (op, run.eraseFilter id) := by
  have henv : (s.eraseFilter id).surroundings now = s.surroundings now := rfl
  rw [runBulk, runBulk, planBulk_eraseFilter]
  refine bind_eq_map_bind fun plan _ => ?_
  have hstart : plan.start (s.eraseFilter id) = (plan.start s).eraseFilter id := rfl
  rw [henv, hstart, foldlM_step_eraseFilter]
  rcases plan.targets.tasks.foldlM (BulkRun.step (s.surroundings now) plan.change)
    (plan.start s) with e | run <;> rfl

theorem bulkLeftover_eraseFilter (s : Store) (schema : BoardSchema) :
    bulkLeftover c now (s.eraseFilter id) schema r
      = (bulkLeftover c now s schema r).eraseFilter id := by
  rw [bulkLeftover, bulkLeftover, planBulk_eraseFilter]
  rcases planBulk c now s schema r with e | plan
  · rfl
  · exact changeUntilFailure_eraseFilter plan.change plan.targets.tasks s

end Bulk

end BoardQuery
