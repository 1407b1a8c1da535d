import BoardQuery.Proofs.Service.Workspaces

/-!
# Changes within a workspace

A change of a task of a board is the same change of the part of the store that belongs to the
workspace of the board (`applyChange_within`). It keeps the workspaces apart (`Applied.separated`)
and touches nothing of the others (`Applied.changes`), and so does a bulk operation with all its
changes (`runBulk_within`, `BulkRun.Upto.changes`).
-/

namespace BoardQuery

/-- Whether a store has come out of another by changes of the tasks and the values of a
workspace. -/
structure Store.Changes (workspace : String) (s s' : Store) : Prop extends s.SameSchema s' where
  filters : s'.filters = s.filters
  filtersWritten : s'.filtersWritten = s.filtersWritten
  outside : ∀ V ≠ workspace, s'.within V = s.within V

namespace Store

variable {s s' s₁ s₂ : Store} {W : String}

namespace Changes

theorem refl (W : String) (s : Store) : s.Changes W s := ⟨.refl s, rfl, rfl, fun _ _ => rfl⟩

theorem trans (h : s.Changes W s₁) (h' : s₁.Changes W s₂) : s.Changes W s₂ where
  toSameSchema := h.toSameSchema.trans h'.toSameSchema
  filters := h'.filters.trans h.filters
  filtersWritten := h'.filtersWritten.trans h.filtersWritten
  outside V hV := (h'.outside V hV).trans (h.outside V hV)

theorem filtersWithin_eq (h : s.Changes W s') (V : String) :
    s'.filtersWithin V = s.filtersWithin V := by
  rw [filtersWithin, filtersWithin, h.filters, h.toSameSchema.hasBoard_eq]

end Changes

/-! ## Workspaces stay apart -/

namespace Separated

variable (hs : s.Separated)

include hs

theorem of_values {values : List FieldValue}
    (h : ∀ v ∈ values, ∀ t ∈ s.tasks, ∀ c ∈ s.columns, t.id = v.taskId → c.id = v.columnId →
      c.boardId = t.boardId) : ({ s with values } : Store).Separated :=
  { hs with valued := h }

theorem putValue {c : BoardColumn} {taskId : String} (hc : c ∈ s.columns)
    (hboard : ∀ t ∈ s.tasks, t.id = taskId → c.boardId = t.boardId) (v : Json) :
    (s.putValue taskId c.id v).Separated := by
  have hvalues : ∀ row ∈ (s.putValue taskId c.id v).values, ∀ t ∈ s.tasks, ∀ d ∈ s.columns,
      t.id = row.taskId → d.id = row.columnId → d.boardId = t.boardId := by
    intro row hrow t ht d hd hid hcolumn
    rcases mem_putValue hrow with hold | rfl
    · exact hs.valued row hold t ht d hd hid hcolumn
    · rw [List.inj_on_of_nodup_map hs.columnIds hd hc hcolumn]
      exact hboard t ht hid
  have hsep := hs.of_values hvalues
  unfold Store.putValue at hsep ⊢
  split_ifs at hsep ⊢ <;> exact hsep

theorem eraseValue (taskId columnId : String) : (s.eraseValue taskId columnId).Separated :=
  hs.of_values fun v hv => hs.valued v (List.mem_of_mem_filter hv)

theorem eraseTask (id : String) : (s.eraseTask id).Separated where
  boardIds := hs.boardIds
  columnIds := hs.columnIds
  taskIds := hs.taskIds.sublist (List.filter_sublist.map _)
  filterIds := hs.filterIds
  unwritten := hs.unwritten
  placed t ht := hs.placed t (List.mem_of_mem_filter ht)
  valued v hv t ht := hs.valued v (List.mem_of_mem_filter hv) t (List.mem_of_mem_filter ht)

theorem updateTask {now : Moment} {id : String} {change : Task → Task}
    (hid : ∀ t, (change t).id = t.id) (hboard : ∀ t, (change t).boardId = t.boardId)
    (hworkspace : ∀ t, (change t).workspaceId = t.workspaceId) :
    (s.updateTask now id change).Separated := by
  refine ⟨hs.boardIds, hs.columnIds, ?_, hs.filterIds, hs.unwritten, fun u hu => ?_,
    fun v hv u hu => ?_⟩
  · rw [s.ids_updateTask hid]
    exact hs.taskIds
  · obtain ⟨t, ht, -, hb, hw⟩ := sameKeys_of_mem_updateTask hid hboard hworkspace hu
    rw [hb, hw]
    exact hs.placed t ht
  · obtain ⟨t, ht, hi, hb, -⟩ := sameKeys_of_mem_updateTask hid hboard hworkspace hu
    rw [hb, hi]
    exact hs.valued v hv t ht

/-- A task that is moved to another board of its workspace, with rows for columns there. -/
theorem moveTask {now : Moment} {t : Task} {target : Board} {rows : List FieldValue}
    (position : Int) (ht : t ∈ s.tasks) (htarget : target ∈ s.boards)
    (hworkspace : target.workspaceId = t.workspaceId)
    (hrows : ∀ v ∈ rows, v.taskId = t.id
      ∧ ∃ c ∈ s.columns, c.boardId = target.id ∧ c.id = v.columnId) :
    ((s.replaceValues t.id rows).updateTask now t.id fun t =>
      { t with boardId := target.id, position }).Separated := by
  refine ⟨hs.boardIds, hs.columnIds, ?_, hs.filterIds, hs.unwritten, fun u hu => ?_,
    fun v hv u hu c hc hid hcolumn => ?_⟩
  · rw [ids_updateTask (s.replaceValues t.id rows)]
    · exact hs.taskIds
    · exact fun _ => rfl
  · rcases mem_moveTask hs.taskIds ht hu with ⟨-, hboard, hw⟩ | ⟨-, hold⟩
    · exact ⟨target, htarget, hboard.symm, hworkspace.trans hw.symm⟩
    · exact hs.placed u hold
  · rcases List.mem_append.1 hv with hv | hv
    · obtain ⟨hv, hother⟩ := List.mem_filter.1 hv
      rcases mem_moveTask hs.taskIds ht hu with ⟨hsame, -⟩ | ⟨-, hold⟩
      · exact absurd (hid.symm.trans hsame) (by simpa using hother)
      · exact hs.valued v hv u hold c hc hid hcolumn
    · obtain ⟨hown, d, hd, hboard, hdcolumn⟩ := hrows v hv
      obtain rfl := List.inj_on_of_nodup_map hs.columnIds hc hd (hcolumn.trans hdcolumn.symm)
      rcases mem_moveTask hs.taskIds ht hu with ⟨-, hsame, -⟩ | ⟨hother, -⟩
      · rw [hboard, hsame]
      · exact absurd (hid.trans hown) hother

end Separated

end Store

section Steps

variable {start : Store} {now : Moment} {b : Board} {s s' : Store} {t : Task}

/-- A task whose workspace is that of its board, is of the workspace of the board with that id. -/
theorem Store.workspaceId_of_placed (hboards : (s.boards.map (·.id)).Nodup)
    (hplaced : ∃ b ∈ s.boards, b.id = t.boardId ∧ b.workspaceId = t.workspaceId)
    (hb : b ∈ s.boards) (h : t.boardId = b.id) : t.workspaceId = b.workspaceId := by
  obtain ⟨b', hb', hid, hworkspace⟩ := hplaced
  rw [← hworkspace, List.inj_on_of_nodup_map hboards hb' hb (hid.trans h)]

/-- Whether a task is one of a board, in a store that has come out of another by changes of
tasks. -/
structure Store.Reaches (start : Store) (b : Board) (s : Store) (t : Task) : Prop where
  schema : start.SameSchema s
  separated : s.Separated
  board : b ∈ start.boards
  task : t ∈ s.tasks
  placed : t.boardId = b.id

namespace Store.Reaches

theorem board_mem (h : start.Reaches b s t) : b ∈ s.boards := by
  rw [h.schema.boards]
  exact h.board

theorem workspace_eq (h : start.Reaches b s t) : t.workspaceId = b.workspaceId :=
  Store.workspaceId_of_placed h.separated.boardIds (h.separated.placed t h.task) h.board_mem
    h.placed

theorem hasTask_eq (h : start.Reaches b s t) : s.hasTask b.workspaceId t.id = true := by
  rw [h.separated.hasTask_id h.task, h.workspace_eq, beq_self_eq_true]

theorem hasBoard_eq (h : start.Reaches b s t) : s.hasBoard b.workspaceId b.id = true := by
  rw [h.separated.hasBoard_id h.board_mem, beq_self_eq_true]

end Store.Reaches

theorem mem_columns_schema {c : BoardColumn} :
    c ∈ (s.schema b).columns ↔ c ∈ s.columns ∧ c.boardId = b.id := by
  rw [Store.schema, Store.columnsOf, List.mem_mergeSort, List.mem_filter, beq_iff_eq]

theorem Applied.separated (happlied : Applied start now b s t s') (h : start.Reaches b s t) :
    s'.Separated := by
  cases happlied with
  | updated change hid hboard _ hworkspace => exact h.separated.updateTask hid hboard hworkspace
  | moved target rows _ hrows _ hmem hworkspace =>
    have htarget : target ∈ s.boards := by
      rw [h.schema.boards]
      exact hmem
    refine h.separated.moveTask _ h.task htarget (hworkspace.trans h.workspace_eq.symm) ?_
    rw [h.schema.columns]
    exact placed_of_mem_movedRows hrows
  | erased => exact h.separated.eraseTask t.id
  | wrote c raw v hc =>
    obtain ⟨hc, hboard⟩ := mem_columns_schema.1 hc
    rw [← h.schema.columns] at hc
    refine h.separated.putValue hc (fun u hu hid => ?_) v
    rw [List.inj_on_of_nodup_map h.separated.taskIds hu h.task hid, hboard, h.placed]

theorem Applied.changes (happlied : Applied start now b s t s') (h : start.Reaches b s t) :
    s.Changes b.workspaceId s' := by
  have hother (V : String) (hV : V ≠ b.workspaceId) : s.hasTask V t.id = false :=
    h.separated.hasTask_other h.hasTask_eq hV
  cases happlied with
  | updated change hid _ _ hworkspace =>
    exact ⟨⟨rfl, rfl, rfl, rfl⟩, rfl, rfl, fun V hV =>
      Store.updateTask_outside hid hworkspace (hother V hV)⟩
  | moved target rows _ hrows =>
    refine ⟨⟨rfl, rfl, rfl, rfl⟩, rfl, rfl, fun V hV => ?_⟩
    have hmoved : (s.replaceValues t.id (rows.filterMap id)).hasTask V t.id = false := hother V hV
    refine (Store.updateTask_outside ?_ ?_ hmoved).trans
      (Store.replaceValues_outside (taskId_of_mem_movedRows hrows) (hother V hV))
    · exact fun _ => rfl
    · exact fun _ => rfl
  | erased =>
    exact ⟨⟨rfl, rfl, rfl, rfl⟩, rfl, rfl, fun V hV => Store.eraseTask_outside (hother V hV)⟩
  | wrote c raw v =>
    refine ⟨.putValue .., ?_, ?_, fun V hV => Store.putValue_outside (hother V hV) ..⟩
    · unfold Store.putValue
      split_ifs <;> rfl
    · unfold Store.putValue
      split_ifs <;> rfl

end Steps

/-! ## One change -/

section Within

variable {start s : Store} {b : Board} {t : Task} {env : Surroundings}

theorem nextPosition_within (hs : s.Separated) {W id : String} (h : s.hasBoard W id = true) :
    nextPosition (s.within W) id = nextPosition s id := by
  rw [nextPosition, nextPosition, hs.tasksOf_within h]

theorem mapM_congr_mem {ε α β : Type} {f g : α → Except ε β} :
    (xs : List α) → (∀ x ∈ xs, f x = g x) → xs.mapM f = xs.mapM g
  | [], _ => rfl
  | x :: xs, h => by
    rw [List.mapM_cons, List.mapM_cons, h x List.mem_cons_self,
      mapM_congr_mem xs fun y hy => h y (List.mem_cons_of_mem x hy)]

/-- The column of a value of a task is one of the workspace of the task. -/
theorem movedValue?_within (hs : s.Separated) {W : String} (ht : t ∈ s.tasks)
    (hworkspace : t.workspaceId = W) (columns : List BoardColumn) :
    ∀ v ∈ s.valuesOf t.id, movedValue? (s.within W) columns v = movedValue? s columns v := by
  intro v hv
  obtain ⟨hv, hid⟩ := List.mem_filter.1 hv
  have hcolumn : (s.within W).column? v.columnId = s.column? v.columnId := by
    rw [hs.column?_within]
    rcases hfind : s.column? v.columnId with _ | c
    · rfl
    · have hc : c.id = v.columnId := by simpa using List.find?_some hfind
      have hboard := hs.valued v hv t ht c (List.mem_of_find?_eq_some hfind)
        (beq_iff_eq.1 hid).symm hc
      rw [Option.filter_some, if_pos]
      rw [hboard, hs.hasBoard_of_task ht, hworkspace, beq_self_eq_true]
  rw [movedValue?, movedValue?, hcolumn]

theorem moveTask_within (hs : s.Separated) {W : String} (ht : t ∈ s.tasks)
    (hworkspace : t.workspaceId = W) {target : Board} (htarget : s.hasBoard W target.id = true)
    (now : Moment) (columns : List BoardColumn) :
    moveTask now (s.within W) t target columns
      = (moveTask now s t target columns).map (·.within W) := by
  have hhas : s.hasTask W t.id = true := by
    rw [hs.hasTask_id ht, hworkspace, beq_self_eq_true]
  unfold moveTask
  rw [Store.valuesOf_within hhas, nextPosition_within hs htarget,
    mapM_congr_mem _ (movedValue?_within hs ht hworkspace columns)]
  refine bind_eq_map_bind fun rows hrows => ?_
  rw [orFault_eq_ok] at hrows
  dsimp only
  split_ifs
  · rfl
  · rfl
  · rfl
  · refine congrArg Except.ok (.symm ((Store.within_updateTask ?_ ?_ t.id).trans ?_))
    · exact fun _ => rfl
    · exact fun _ => rfl
    · rw [Store.within_replaceValues (taskId_of_mem_movedRows hrows) hhas]

theorem setValue_within (h : s.hasTask W t.id = true) (c : BoardColumn) (raw : Json) :
    setValue env (s.within W) t c raw = (setValue env s t c raw).map (·.within W) := by
  unfold setValue
  split_ifs
  · rfl
  · exact bind_eq_map_bind fun v _ => congrArg Except.ok (Store.within_putValue h c.id v).symm

theorem currentLabels_within {W : String} (h : s.hasTask W t.id = true) (c : BoardColumn) :
    currentLabels (s.within W) t c = currentLabels s t c := by
  rw [currentLabels, currentLabels, Store.value?_within h]

/-- A change of a task is the same change in the part of the store that belongs to the workspace of
its board. -/
theorem applyChange_within {change : TaskChange} (hconcerns : change.Concerns start b)
    (h : start.Reaches b s t) : applyChange env (s.within b.workspaceId) t change
      = (applyChange env s t change).map (·.within b.workspaceId) := by
  have hupdate (f : Task → Task) (hid : ∀ t, (f t).id = t.id)
      (hworkspace : ∀ t, (f t).workspaceId = t.workspaceId) :
      (.ok ((s.within b.workspaceId).updateTask env.now t.id f) : Outcome Store)
        = .ok ((s.updateTask env.now t.id f).within b.workspaceId) := by
    rw [Store.within_updateTask hid hworkspace]
  cases change with
  | status name => exact hupdate _ (fun _ => rfl) (fun _ => rfl)
  | priority name => exact hupdate _ (fun _ => rfl) (fun _ => rfl)
  | assignee id => exact hupdate _ (fun _ => rfl) (fun _ => rfl)
  | dueDate d => exact hupdate _ (fun _ => rfl) (fun _ => rfl)
  | board target columns =>
    obtain ⟨-, -, hmem, hworkspace⟩ := hconcerns
    refine moveTask_within h.separated h.task h.workspace_eq ?_ env.now columns
    rw [← h.schema.boards] at hmem
    rw [h.separated.hasBoard_id hmem, hworkspace, beq_self_eq_true]
  | archive => exact hupdate _ (fun _ => rfl) (fun _ => rfl)
  | unarchive => exact hupdate _ (fun _ => rfl) (fun _ => rfl)
  | delete => exact congrArg Except.ok (Store.within_eraseTask t.id).symm
  | addLabels c labels =>
    simp only [applyChange, currentLabels_within h.hasTask_eq]
    exact bind_eq_map_bind fun current _ => setValue_within h.hasTask_eq c _
  | removeLabels c labels =>
    simp only [applyChange, currentLabels_within h.hasTask_eq]
    exact bind_eq_map_bind fun current _ => bind_eq_map_bind fun rest _ =>
      setValue_within h.hasTask_eq c _
  | field c raw => exact setValue_within h.hasTask_eq c raw

end Within

/-! ## Many changes -/

/-- Whether a bulk operation on a board has some tasks still to change, which are as they were. -/
structure Store.Awaits (start : Store) (b : Board) (tasks : List Task) (s : Store) : Prop where
  schema : start.SameSchema s
  separated : s.Separated
  board : b ∈ start.boards
  nodup : (tasks.map (·.id)).Nodup
  tasks : ∀ t ∈ tasks, t ∈ s.tasks ∧ t.boardId = b.id

section Bulk

variable {start s s' : Store} {now : Moment} {b : Board} {t : Task} {tasks : List Task}
  {env : Surroundings} {change : TaskChange}

namespace Store.Awaits

theorem reaches (h : start.Awaits b (t :: tasks) s) : start.Reaches b s t :=
  ⟨h.schema, h.separated, h.board, (h.tasks t List.mem_cons_self).1,
    (h.tasks t List.mem_cons_self).2⟩

theorem tail (h : start.Awaits b (t :: tasks) s) : start.Awaits b tasks s :=
  ⟨h.schema, h.separated, h.board, (List.nodup_cons.1 h.nodup).2,
    fun u hu => h.tasks u (List.mem_cons_of_mem t hu)⟩

/-- A change of the first task leaves the others as they were. -/
theorem next (h : start.Awaits b (t :: tasks) s) (happlied : Applied start now b s t s') :
    start.Awaits b tasks s' := by
  refine ⟨h.schema.trans happlied.sameSchema, happlied.separated h.reaches, h.board,
    h.tail.nodup, fun u hu => ?_⟩
  obtain ⟨hmem, hboard⟩ := h.tail.tasks u hu
  have hne : u.id ≠ t.id := by
    intro hid
    refine (List.nodup_cons.1 h.nodup).1 (List.mem_map.2 ⟨u, hu, hid⟩)
  exact ⟨((happlied.sameTask hne).mem_tasks rfl).2 hmem, hboard⟩

end Store.Awaits

/-- A run with the part of its store that belongs to a workspace. -/
def BulkRun.within (run : BulkRun) (workspace : String) : BulkRun :=
  { run with store := run.store.within workspace }

/-- Changes of tasks keep the workspaces apart and touch only their own. -/
theorem foldlM_step_changes (hconcerns : change.Concerns start b) (tasks : List Task)
    {run run' : BulkRun} (hawaits : start.Awaits b tasks run.store)
    (h : tasks.foldlM (BulkRun.step (start.surroundings now) change) run = .ok run') :
    run'.store.Separated ∧ run.store.Changes b.workspaceId run'.store := by
  refine foldlM_step_awaited (P := fun s => s.Separated ∧ run.store.Changes b.workspaceId s)
    hconcerns tasks hawaits.nodup (fun s₁ s₂ t ht hmem hschema hP happlied => ?_)
    (fun t ht => (hawaits.tasks t ht).1) hawaits.schema ⟨hawaits.separated, .refl ..⟩ h
  have hreaches : start.Reaches b s₁ t :=
    ⟨hschema, hP.1, hawaits.board, hmem, (hawaits.tasks t ht).2⟩
  exact ⟨happlied.separated hreaches, hP.2.trans (happlied.changes hreaches)⟩

theorem step_within (hconcerns : change.Concerns start b) {run : BulkRun}
    (h : start.Reaches b run.store t) :
    BulkRun.step env change (run.within b.workspaceId) t
      = (BulkRun.step env change run t).map (·.within b.workspaceId) := by
  unfold BulkRun.step BulkRun.within
  rw [applyChange_within hconcerns h]
  rcases applyChange env run.store t change with e | s
  · simp only [Except.map]
    rcases failureText? e with _ | text <;> rfl
  · rfl

theorem foldlM_step_within (hconcerns : change.Concerns start b) :
    (tasks : List Task) → (run : BulkRun) → start.Awaits b tasks run.store →
    tasks.foldlM (BulkRun.step (start.surroundings now) change) (run.within b.workspaceId)
      = (tasks.foldlM (BulkRun.step (start.surroundings now) change) run).map
        (·.within b.workspaceId)
  | [], _, _ => rfl
  | t :: tasks, run, hawaits => by
    rw [List.foldlM_cons, List.foldlM_cons, step_within hconcerns hawaits.reaches]
    rcases hstep : BulkRun.step (start.surroundings now) change run t with e | next
    · rfl
    · refine foldlM_step_within hconcerns tasks next ?_
      rcases step_eq_ok hstep with heq | happly
      · exact heq ▸ hawaits.tail
      · exact hawaits.next (applyChange_applied hconcerns happly)

theorem changeUntilFailure_within (hconcerns : change.Concerns start b) :
    (tasks : List Task) → (s : Store) → start.Awaits b tasks s →
    changeUntilFailure (start.surroundings now) change (s.within b.workspaceId) tasks
      = (changeUntilFailure (start.surroundings now) change s tasks).within b.workspaceId
  | [], _, _ => rfl
  | t :: tasks, s, hawaits => by
    rw [changeUntilFailure, changeUntilFailure, applyChange_within hconcerns hawaits.reaches]
    rcases happly : applyChange (start.surroundings now) s t change with e | next
    · rfl
    · exact changeUntilFailure_within hconcerns tasks next
        (hawaits.next (applyChange_applied hconcerns happly))

end Bulk

/-! ## Bulk operations -/

section Operations

variable {c : Settings} {now : Moment} {s : Store} {b : Board} {schema : BoardSchema} {W : String}
  {r : BulkRequest}

theorem prepareMove_within (hs : s.Separated) (hschema : schema.workspaceId = W) (v : Json) :
    prepareMove (s.within W) schema v = prepareMove s schema v := by
  have hfound (key : Option String) :
      (key.bind (s.within W).board?).filter (·.workspaceId == W)
        = (key.bind s.board?).filter (·.workspaceId == W) := by
    rcases key with _ | id
    · rfl
    · simp only [Option.bind_some, hs.board?_within, Option.filter_filter, Bool.and_self]
  have hcolumns {key : Option String} {target : Board}
      (h : (key.bind s.board?).filter (·.workspaceId == W) = some target) :
      (s.within W).columns.filter (·.boardId == target.id)
        = s.columns.filter (·.boardId == target.id) := by
    obtain ⟨hfound, hworkspace⟩ := Option.filter_eq_some_iff.1 h
    obtain ⟨id, -, hfind⟩ := Option.bind_eq_some_iff.1 hfound
    have hhas : s.hasBoard W target.id = true := by
      rw [hs.hasBoard_id (List.mem_of_find?_eq_some hfind), hworkspace]
    exact Store.columns_within hhas
  unfold prepareMove
  simp only [hschema, hfound]
  refine congrArg _ (funext fun id => ?_)
  split_ifs
  all_goals
    refine congrArg _ (funext fun key => ?_)
    split
    · rfl
    · rename_i target htarget
      rw [hcolumns htarget]

theorem prepareChange_within (hs : s.Separated) (hschema : schema.workspaceId = W)
    (env : Surroundings) (op : BulkOperation) (params : Json) :
    prepareChange env (s.within W) schema op params = prepareChange env s schema op params := by
  have hmember (userId : String) :
      (s.within W).isMember userId schema.workspaceId = s.isMember userId schema.workspaceId := by
    rw [hschema, Store.isMember_within]
  cases op <;> simp only [prepareChange, prepareAssignee, prepareMove_within hs hschema, hmember]

theorem selectTargets_within (hs : s.Separated) (hschema : schema.workspaceId = W)
    (archived : Bool) (limit : Int) (ids filters : Json) :
    selectTargets now (s.within W) schema archived limit ids filters
      = selectTargets now s schema archived limit ids filters := by
  have hbuild : buildFilter (s.within W) now schema false filters
      = buildFilter s now schema false filters := rfl
  have hfound (id : String) : ((s.within W).task? id).filter (inScope schema archived)
      = (s.task? id).filter (inScope schema archived) := by
    rw [hs.task?_within, Option.filter_filter]
    refine congrArg (Option.filter · (s.task? id)) (funext fun t => ?_)
    rcases hin : inScope schema archived t with _ | _
    · rw [Bool.and_false]
    · rw [Bool.and_true, Store.workspaceId_of_inScope hin, hschema, beq_self_eq_true]
  have hids : targetsById (s.within W) schema archived limit ids
      = targetsById s schema archived limit ids := by
    simp only [targetsById, hfound]
  rw [selectTargets, selectTargets, hids, targetsByFilter, targetsByFilter, hbuild]
  simp only [hs.selectTasks_within hschema]

theorem planBulk_within (hs : s.Separated) (hschema : schema.workspaceId = W) :
    planBulk c now (s.within W) schema r = planBulk c now s schema r := by
  have henv : (s.within W).surroundings now = s.surroundings now := rfl
  simp only [planBulk, henv, prepareChange_within hs hschema, selectTargets_within hs hschema]

theorem awaits_of_plan (hs : s.Separated) (hb : b ∈ s.boards) {plan : BulkPlan}
    (h : planBulk c now s (s.schema b) r = .ok plan) {tasks : List Task}
    (htasks : tasks <+: plan.targets.tasks) : s.Awaits b tasks s := by
  obtain ⟨-, htargets⟩ := planBulk_eq_ok h
  refine ⟨.refl s, hs, hb, (targets_nodup hs.taskIds htargets).sublist (htasks.sublist.map _),
    fun t ht => targets_onBoard htargets t (htasks.subset ht)⟩

/-- A bulk operation on a board is the same operation in the part of the store that belongs to the
workspace of the board. -/
theorem runBulk_within (hs : s.Separated) (hb : b ∈ s.boards) :
    runBulk c now (s.within b.workspaceId) (s.schema b) r
      = (runBulk c now s (s.schema b) r).map fun (op, run) => (op, run.within b.workspaceId) := by
  have hplan : planBulk c now (s.within b.workspaceId) (s.schema b) r
      = planBulk c now s (s.schema b) r := planBulk_within hs rfl
  rw [runBulk, runBulk, hplan]
  refine bind_eq_map_bind fun plan hplan => ?_
  have hconcerns := prepareChange_concerns (planBulk_eq_ok hplan).1
  have hawaits := awaits_of_plan hs hb hplan List.prefix_rfl
  have henv : (s.within b.workspaceId).surroundings now = s.surroundings now := rfl
  have hstart : plan.start (s.within b.workspaceId) = (plan.start s).within b.workspaceId := rfl
  rw [henv, hstart, foldlM_step_within hconcerns plan.targets.tasks (plan.start s) hawaits]
  rcases plan.targets.tasks.foldlM (BulkRun.step (s.surroundings now) plan.change)
    (plan.start s) with e | run <;> rfl

theorem bulkLeftover_within (hs : s.Separated) (hb : b ∈ s.boards) :
    bulkLeftover c now (s.within b.workspaceId) (s.schema b) r
      = (bulkLeftover c now s (s.schema b) r).within b.workspaceId := by
  have hplan : planBulk c now (s.within b.workspaceId) (s.schema b) r
      = planBulk c now s (s.schema b) r := planBulk_within hs rfl
  rw [bulkLeftover, bulkLeftover, hplan]
  rcases hplan : planBulk c now s (s.schema b) r with e | plan
  · rfl
  · exact changeUntilFailure_within (prepareChange_concerns (planBulk_eq_ok hplan).1)
      plan.targets.tasks s (awaits_of_plan hs hb hplan List.prefix_rfl)

/-- A bulk operation keeps the workspaces apart and touches only its own. -/
theorem BulkRun.Upto.changes {run : BulkRun} (h : run.Upto c now s (s.schema b) r)
    (hs : s.Separated) (hb : b ∈ s.boards) :
    run.store.Separated ∧ s.Changes b.workspaceId run.store := by
  obtain ⟨plan, done, hplan, hdone, hrun⟩ := h
  exact foldlM_step_changes (prepareChange_concerns (planBulk_eq_ok hplan).1) done
    (awaits_of_plan hs hb hplan hdone) hrun

theorem bulkLeftover_changes (hs : s.Separated) (hb : b ∈ s.boards) :
    (bulkLeftover c now s (s.schema b) r).Separated
      ∧ s.Changes b.workspaceId (bulkLeftover c now s (s.schema b) r) := by
  rcases hplan : planBulk c now s (s.schema b) r with e | plan
  · rw [bulkLeftover, hplan]
    exact ⟨hs, .refl ..⟩
  · obtain ⟨run, hrun, hstore⟩ := bulkLeftover_of_plan hplan
    rw [← hstore]
    exact hrun.changes hs hb

end Operations

/-! ## Values of one task -/

section Values

variable {now : Moment} {s s' : Store} {b : Board} {t : Task} {W : String} {env : Surroundings}

theorem taskValues_within (htask : s.hasTask W t.id = true)
    (hboard : s.hasBoard W t.boardId = true) : taskValues (s.within W) t = taskValues s t := by
  have hvalue (c : BoardColumn) : columnValueJson (s.within W) t c = columnValueJson s t c := by
    rw [columnValueJson, columnValueJson, Store.value?_within htask]
  rw [taskValues, taskValues, Store.columnsOf_within hboard]
  exact congrArg Json.arr (List.map_congr_left fun c _ => hvalue c)

theorem writeChecked_within : (checks : List KeyCheck) → {s : Store} →
    s.hasTask W t.id = true →
    writeChecked (s.within W) t checks = (writeChecked s t checks).within W
  | [], _, _ => rfl
  | .accepted c v :: checks, s, h => by
    have hnext : (s.putValue t.id c.id v).hasTask W t.id = true := by
      rw [Store.hasTask_congr (s.tasks_putValue t.id c.id v), h]
    show writeChecked ((s.within W).putValue t.id c.id v) t checks = _
    rw [← Store.within_putValue h]
    exact writeChecked_within checks hnext
  | .rejected _ _ :: checks, _, h => writeChecked_within checks h

theorem setValues_within (h : s.hasTask W t.id = true) (schema : BoardSchema) (values : Json) :
    setValues env (s.within W) t schema values
      = (setValues env s t schema values).map (·.within W) := by
  unfold setValues
  split
  · refine bind_eq_map_bind fun checks _ => ?_
    split
    · exact congrArg Except.ok (writeChecked_within checks h)
    · rfl
  · rfl

theorem clearValue_within (c : BoardColumn) :
    clearValue (s.within W) t c = (clearValue s t c).map (·.within W) := by
  refine bind_eq_map_bind fun type _ => ?_
  dsimp only
  split_ifs
  · rfl
  · exact congrArg Except.ok (Store.within_eraseValue t.id c.id).symm

theorem setValues_changes {values : Json} (h : s.Reaches b s t)
    (hset : setValues (s.surroundings now) s t (s.schema b) values = .ok s') :
    s.Reaches b s' t ∧ s.Changes b.workspaceId s' := by
  obtain ⟨checks, rfl, hchecks⟩ := setValues_eq_ok hset
  refine writeChecked_preserves checks
    (P := fun s₁ => s.Reaches b s₁ t ∧ s.Changes b.workspaceId s₁) (fun c v hcv s₁ h₁ => ?_)
    ⟨h, .refl ..⟩
  obtain ⟨hc, raw, hv⟩ := hchecks c v hcv
  obtain ⟨hreaches, hchanges⟩ := h₁
  have happlied : Applied s now b s₁ t (s₁.putValue t.id c.id v) := .wrote c raw v hc hv
  refine ⟨⟨h.schema.trans ?_, happlied.separated hreaches, h.board, ?_, h.placed⟩,
    hchanges.trans (happlied.changes hreaches)⟩
  · exact hreaches.schema.trans happlied.sameSchema
  · rw [Store.tasks_putValue]
    exact hreaches.task

theorem clearValue_changes {c : BoardColumn} (h : s.Reaches b s t)
    (hclear : clearValue s t c = .ok s') : s'.Separated ∧ s.Changes b.workspaceId s' := by
  simp only [clearValue, refuse_bind, ite_refuse_eq_ok, bind_eq_ok, pure_eq_ok] at hclear
  obtain ⟨type, -, -, rfl⟩ := hclear
  refine ⟨h.separated.eraseValue t.id c.id, ⟨rfl, rfl, rfl, rfl⟩, rfl, rfl, fun V hV => ?_⟩
  exact Store.eraseValue_outside (h.separated.hasTask_other h.hasTask_eq hV) c.id

end Values

end BoardQuery
