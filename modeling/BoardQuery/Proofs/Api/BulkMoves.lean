import BoardQuery.Proofs.Api.BulkFrame
import BoardQuery.Proofs.Api.ValueTable

/-!
# Moves to another board

A move puts its tasks after the last task of the other board, one after another in the order of the
operation, and takes along just the values for which the other board has a column with the same
name and type (`move_appends`). Each task is moved in a store that the moves before it have changed:
they have taken the places before its own, and have left the task and its rows alone
(`foldlM_step_moves`). A place beyond 64 bits cannot be stored, and the whole operation ends without
an answer (`move_beyond_last`).
-/

namespace BoardQuery

/-! ## Places and columns -/

/-- Whether columns have ids of their own, and names of their own on their boards. -/
structure Store.KeyedColumns (s : Store) : Prop where
  ids : (s.columns.map (·.id)).Nodup
  names : (s.columns.map fun c => (c.boardId, c.name)).Nodup

/-- Whether a position is the greatest of the tasks of a board, archived ones included, or -1 if the
board has no tasks. -/
def Store.LastPosition (s : Store) (boardId : String) (m : Int) : Prop :=
  (m = -1 ∧ ∀ t ∈ s.tasks, t.boardId ≠ boardId)
    ∨ ((∃ t ∈ s.tasks, t.boardId = boardId ∧ t.position = m)
      ∧ ∀ t ∈ s.tasks, t.boardId = boardId → t.position ≤ m)

/-- Whether a row becomes another one on a board: the same value, in the column of the board that
has the name and the type of its own. -/
def Store.CarriedTo (s : Store) (boardId : String) (v v' : FieldValue) : Prop :=
  ∃ source ∈ s.columns, ∃ c ∈ s.columns, source.id = v.columnId ∧ c.boardId = boardId
    ∧ c.name = source.name ∧ c.typeName = source.typeName ∧ v' = { v with columnId := c.id }

/-- The row that a row becomes on a board, if it does. -/
def Store.carried? (s : Store) (boardId : String) (v : FieldValue) : Option FieldValue :=
  (s.column? v.columnId).bind fun source =>
    ((s.columns.filter (·.boardId == boardId)).find? fun c =>
      c.name == source.name && c.typeName == source.typeName).map fun c =>
        { v with columnId := c.id }

/-- Whether some tasks have been moved to a board between two stores, behind a position. -/
structure Store.MovesTo (s s' : Store) (now : Moment) (target : Board) (m : Int)
    (tasks : List Task) : Prop where
  placed : ∀ (i : Nat) (t : Task), tasks[i]? = some t → s'.tasks.filter (·.id == t.id)
    = [{ t with boardId := target.id, position := m + 1 + i, updatedAt := .ofClock now }]
  rows : ∀ t ∈ tasks, ∀ v', v' ∈ s'.valuesOf t.id
    ↔ ∃ v ∈ s.valuesOf t.id, s.CarriedTo target.id v v'
  once : ∀ t ∈ tasks, ((s'.valuesOf t.id).map (·.columnId)).Nodup
  others : ∀ id ∉ tasks.map (·.id), s.SameTask id s'

namespace Store

section Places

variable {s : Store} {boardId : String} {m : Int}

theorem nextPosition_of_last (h : s.LastPosition boardId m) : nextPosition s boardId = m + 1 := by
  rw [nextPosition]
  rcases h with ⟨rfl, hnone⟩ | ⟨⟨t, ht, hboard, hposition⟩, hmost⟩
  · have hempty : s.tasks.filter (·.boardId == boardId) = [] :=
      List.filter_eq_nil_iff.2 fun t ht => by simpa using hnone t ht
    rw [hempty]
    rfl
  · have hmax : ((s.tasks.filter (·.boardId == boardId)).map (·.position)).max? = some m := by
      rw [List.max?_eq_some_iff]
      refine ⟨List.mem_map.2 ⟨t, List.mem_filter.2 ⟨ht, by simpa using hboard⟩, hposition⟩, ?_⟩
      intro p hp
      obtain ⟨u, hu, rfl⟩ := List.mem_map.1 hp
      obtain ⟨hu, hon⟩ := List.mem_filter.1 hu
      exact hmost u hu (by simpa using hon)
    rw [hmax]

/-- Every board has a last position. -/
theorem exists_lastPosition (s : Store) (boardId : String) : ∃ m, s.LastPosition boardId m := by
  rcases hmax : ((s.tasks.filter (·.boardId == boardId)).map (·.position)).max? with _ | m
  · rw [List.max?_eq_none_iff, List.map_eq_nil_iff, List.filter_eq_nil_iff] at hmax
    exact ⟨-1, .inl ⟨rfl, fun t ht => by simpa using hmax t ht⟩⟩
  · obtain ⟨hmem, hmost⟩ := List.max?_eq_some_iff.1 hmax
    obtain ⟨t, ht, hposition⟩ := List.mem_map.1 hmem
    obtain ⟨ht, hon⟩ := List.mem_filter.1 ht
    refine ⟨m, .inr ⟨⟨t, ht, by simpa using hon, hposition⟩, fun u hu hboard => ?_⟩⟩
    exact hmost _ (List.mem_map.2 ⟨u, List.mem_filter.2 ⟨hu, by simpa using hboard⟩, rfl⟩)

end Places

section Rows

variable {s s' : Store} {t : Task} {boardId : String} {v v' : FieldValue}

theorem SameSchema.carriedTo_iff (h : s.SameSchema s') :
    s'.CarriedTo boardId v v' ↔ s.CarriedTo boardId v v' := by
  rw [CarriedTo, CarriedTo, h.columns]

theorem carried?_eq_some (hkeyed : s.KeyedColumns) :
    s.carried? boardId v = some v' ↔ s.CarriedTo boardId v v' := by
  constructor
  · intro h
    obtain ⟨source, hsource, h⟩ := Option.bind_eq_some_iff.1 h
    obtain ⟨c, hfind, rfl⟩ := Option.map_eq_some_iff.1 h
    obtain ⟨hc, hboard⟩ := List.mem_filter.1 (List.mem_of_find?_eq_some hfind)
    obtain ⟨hname, htype⟩ : c.name = source.name ∧ c.typeName = source.typeName := by
      simpa using List.find?_some hfind
    exact ⟨source, List.mem_of_find?_eq_some hsource, c, hc,
      by simpa using List.find?_some hsource, by simpa using hboard, hname, htype, rfl⟩
  · rintro ⟨source, hsource, c, hc, hid, hboard, hname, htype, rfl⟩
    have hcolumn : s.column? v.columnId = some source := by
      rw [← hid]
      exact find?_key BoardColumn.id hkeyed.ids hsource
    have hmatch : ∃ c', (s.columns.filter (·.boardId == boardId)).find? (fun c =>
        c.name == source.name && c.typeName == source.typeName) = some c' := by
      rw [← Option.isSome_iff_exists, List.find?_isSome]
      exact ⟨c, List.mem_filter.2 ⟨hc, by simpa using hboard⟩, by simp [hname, htype]⟩
    obtain ⟨c', hfind⟩ := hmatch
    obtain ⟨hc', hboard'⟩ := List.mem_filter.1 (List.mem_of_find?_eq_some hfind)
    obtain ⟨hname', -⟩ : c'.name = source.name ∧ c'.typeName = source.typeName := by
      simpa using List.find?_some hfind
    -- A board has one column of a name, so the one that is found is the one that matches.
    obtain rfl : c' = c := List.inj_on_of_nodup_map hkeyed.names hc' hc
      (Prod.ext ((beq_iff_eq.1 hboard').trans hboard.symm) (hname'.trans hname.symm))
    rw [carried?, hcolumn, Option.bind_some, hfind, Option.map_some]

variable (hs : s.Coherent) (hkeyed : s.KeyedColumns) (ht : t ∈ s.tasks)

include hs hkeyed ht

/-- The column of a row is on the board of the task. -/
theorem column_of_mem_valuesOf (hv : v ∈ s.valuesOf t.id) :
    ∃ source, s.column? v.columnId = some source ∧ source ∈ s.columns ∧ source.boardId = t.boardId
      ∧ source.id = v.columnId := by
  obtain ⟨hv, hown⟩ := List.mem_filter.1 hv
  obtain ⟨source, hsource, hid, hboard⟩ := hs.valued v hv t ht (beq_iff_eq.1 hown).symm
  exact ⟨source, hid ▸ find?_key BoardColumn.id hkeyed.ids hsource, hsource, hboard, hid⟩

theorem mapM_movedValue? : (s.valuesOf t.id).mapM
      (movedValue? s (s.columns.filter (·.boardId == boardId)))
    = .ok ((s.valuesOf t.id).map (s.carried? boardId)) := by
  rw [mapM_congr_mem _ (g := fun v => pure (s.carried? boardId v))]
  · exact List.mapM_pure
  · intro v hv
    obtain ⟨source, hsource, -⟩ := column_of_mem_valuesOf hs hkeyed ht hv
    rw [movedValue?, carried?, hsource]
    rfl

/-- No two rows of a task are carried to one column. -/
theorem nodup_carried :
    (((s.valuesOf t.id).filterMap (s.carried? boardId)).map (·.columnId)).Nodup := by
  have hrows : (s.valuesOf t.id).Pairwise fun v w => v.columnId ≠ w.columnId := by
    have hkeys : s.values.Pairwise fun v w => (v.taskId, v.columnId) ≠ (w.taskId, w.columnId) :=
      List.pairwise_map.1 hs.unique
    refine (hkeys.filter _).imp_of_mem fun hv hw hne heq => hne ?_
    have hown {v : FieldValue} (hv : v ∈ s.valuesOf t.id) : v.taskId = t.id := by
      simpa using (List.mem_filter.1 hv).2
    rw [hown hv, hown hw, heq]
  rw [List.Nodup, List.pairwise_map, List.pairwise_filterMap]
  refine hrows.imp_of_mem fun {v w} hv hw hne v' hv' w' hw' heq => hne ?_
  obtain ⟨source, hsource, c, hc, hid, hboard, hname, -, rfl⟩ := (carried?_eq_some hkeyed).1 hv'
  obtain ⟨source', hsource', c', hc', hid', -, hname', -, rfl⟩ := (carried?_eq_some hkeyed).1 hw'
  obtain rfl := List.inj_on_of_nodup_map hkeyed.ids hc hc' heq
  have honBoard {v : FieldValue} (hv : v ∈ s.valuesOf t.id) {source : BoardColumn}
      (hsource : source ∈ s.columns) (hid : source.id = v.columnId) :
      source.boardId = t.boardId := by
    obtain ⟨own, -, hown, hboard, hid'⟩ := column_of_mem_valuesOf hs hkeyed ht hv
    rwa [List.inj_on_of_nodup_map hkeyed.ids hsource hown (hid.trans hid'.symm)]
  have hsame : source = source' := List.inj_on_of_nodup_map hkeyed.names hsource hsource'
    (Prod.ext ((honBoard hv hsource hid).trans (honBoard hw hsource' hid').symm)
      (hname.symm.trans hname'))
  rw [← hid, ← hid', hsame]

end Rows

/-! ## One move -/

/-- The store after a task has been moved to a board. -/
def moved (s : Store) (now : Moment) (t : Task) (target : Board) : Store :=
  (s.replaceValues t.id ((s.valuesOf t.id).filterMap (s.carried? target.id))).updateTask now t.id
    fun t => { t with boardId := target.id, position := nextPosition s target.id }

section Moved

variable {s : Store} {now : Moment} {t : Task} {target : Board} {m : Int}

/-- A move of a task of a store in order fails only where its place cannot be stored. -/
theorem moveTask_eq (now : Moment) (target : Board) (hs : s.Coherent) (hkeyed : s.KeyedColumns)
    (ht : t ∈ s.tasks) :
    moveTask now s t target (s.columns.filter (·.boardId == target.id))
      = if fitsInteger (nextPosition s target.id) then .ok (s.moved now t target)
        else .error (.fault .outOfRange) := by
  have hrows : ((s.valuesOf t.id).map (s.carried? target.id)).filterMap id
      = (s.valuesOf t.id).filterMap (s.carried? target.id) := by
    rw [List.filterMap_map]
    rfl
  have hdistinct : (distinct (((s.valuesOf t.id).filterMap (s.carried? target.id)).map
      (·.columnId))).length = ((s.valuesOf t.id).filterMap (s.carried? target.id)).length := by
    rw [distinct_of_nodup (nodup_carried hs hkeyed ht), List.length_map]
  rw [moveTask, mapM_movedValue? hs hkeyed ht]
  simp only [orFault, Except.mapError, ok_bind, hrows, hdistinct, bne_self_eq_false]
  rcases fitsInteger (nextPosition s target.id) with _ | _ <;> rfl

theorem tasks_moved (now : Moment) (hs : (s.tasks.map (·.id)).Nodup) (ht : t ∈ s.tasks)
    (hother : t.boardId ≠ target.id) (hlast : s.LastPosition target.id m) :
    (s.moved now t target).tasks.filter (·.id == t.id)
      = [{ t with boardId := target.id, position := m + 1, updatedAt := .ofClock now }] := by
  have hid (u : Task) : ({ u with boardId := target.id, position := nextPosition s target.id } :
      Task).id = u.id := rfl
  have hfound : (s.replaceValues t.id
      ((s.valuesOf t.id).filterMap (s.carried? target.id))).tasks.filter (·.id == t.id) = [t] :=
    filter_key_eq_singleton Task.id hs ht
  rw [moved, filter_updateTask_self hid, hfound, List.map_singleton, if_neg,
    nextPosition_of_last hlast]
  exact fun hsame => hother (congrArg Task.boardId hsame).symm

theorem valuesOf_moved (hkeyed : s.KeyedColumns) :
    (s.moved now t target).valuesOf t.id
      = (s.valuesOf t.id).filterMap (s.carried? target.id) := by
  refine valuesOf_replaceValues_self fun v' hv' => ?_
  obtain ⟨v, hv, hcarried⟩ := List.mem_filterMap.1 hv'
  obtain ⟨-, -, c, -, -, -, -, -, rfl⟩ := (carried?_eq_some hkeyed).1 hcarried
  simpa using (List.mem_filter.1 hv).2

theorem lastPosition_moved (hs : (s.tasks.map (·.id)).Nodup) (ht : t ∈ s.tasks)
    (hother : t.boardId ≠ target.id) (hlast : s.LastPosition target.id m) :
    (s.moved now t target).LastPosition target.id (m + 1) := by
  have hself := tasks_moved now hs ht hother hlast
  have hmem := List.mem_of_mem_filter (hself.symm ▸ List.mem_singleton_self _)
  refine .inr ⟨⟨_, hmem, rfl, rfl⟩, fun u hu hboard => ?_⟩
  rcases mem_moveTask hs ht hu with ⟨hid, -, -⟩ | ⟨hid, hold⟩
  · have hsingle : u ∈ (s.moved now t target).tasks.filter (·.id == t.id) :=
      List.mem_filter.2 ⟨hu, by simpa using hid⟩
    rw [hself, List.mem_singleton] at hsingle
    rw [hsingle]
  · rcases hlast with ⟨rfl, hnone⟩ | ⟨-, hmost⟩
    · exact absurd hboard (hnone u hold)
    · exact (hmost u hold hboard).trans (by omega)

/-- The tasks that are moved later come behind the first, and leave it where it is. -/
theorem MovesTo.cons {s' : Store} {tasks : List Task} (hs : s.Coherent) (hkeyed : s.KeyedColumns)
    (ht : t ∈ s.tasks) (hother : t.boardId ≠ target.id) (hlast : s.LastPosition target.id m)
    (hnew : t.id ∉ tasks.map (·.id)) (hframe : ∀ key ≠ t.id, s.SameTask key (s.moved now t target))
    (h : (s.moved now t target).MovesTo s' now target (m + 1) tasks) :
    s.MovesTo s' now target m (t :: tasks) := by
  have hrest (u : Task) (hu : u ∈ tasks) : s.SameTask u.id (s.moved now t target) :=
    hframe u.id fun hid => hnew (List.mem_map.2 ⟨u, hu, hid⟩)
  have hself := h.others t.id hnew
  refine ⟨fun i u hu => ?_, fun u hu v' => ?_, fun u hu => ?_, fun id hid => ?_⟩
  · rcases i with _ | i
    · obtain rfl := Option.some.inj hu
      rw [hself.tasks, tasks_moved now hs.taskIds ht hother hlast]
      simp
    · rw [h.placed i u hu, show m + 1 + 1 + (i : Int) = m + 1 + (i + 1 : Nat) by push_cast; ring]
  · rcases List.mem_cons.1 hu with rfl | hu
    · rw [hself.values, valuesOf_moved hkeyed, List.mem_filterMap]
      exact exists_congr fun v => and_congr_right fun _ => carried?_eq_some hkeyed
    · rw [h.rows u hu, (hrest u hu).values]
      exact exists_congr fun v => and_congr_right fun _ => (hrest u hu).carriedTo_iff
  · rcases List.mem_cons.1 hu with rfl | hu
    · rw [hself.values, valuesOf_moved hkeyed]
      exact nodup_carried hs hkeyed ht
    · exact h.once u hu
  · rw [List.map_cons, List.mem_cons, not_or] at hid
    exact (hframe id hid.1).trans (h.others id hid.2)

end Moved

end Store

/-! ## A run of moves -/

/-- Whether a run on the tasks of a board has come to some that are still to be moved, behind a
position of another board. -/
structure BulkRun.AwaitsMoves (run : BulkRun) (start : Store) (b target : Board) (m : Int)
    (tasks : List Task) : Prop where
  schema : start.SameSchema run.store
  coherent : run.store.Coherent
  nodup : (tasks.map (·.id)).Nodup
  waiting : ∀ t ∈ tasks, t ∈ run.store.tasks ∧ t.boardId = b.id
  last : run.store.LastPosition target.id m

section Runs

variable {start : Store} {now : Moment} {b target : Board}

theorem Store.SameSchema.keyedColumns {s s' : Store} (h : s.SameSchema s')
    (hkeyed : s.KeyedColumns) : s'.KeyedColumns := by
  constructor <;> rw [h.columns]
  · exact hkeyed.ids
  · exact hkeyed.names

/-- The change that moves tasks to a board. -/
def Store.moveTo (s : Store) (target : Board) : TaskChange :=
  .board target (s.columns.filter (·.boardId == target.id))

section Step

variable {run : BulkRun} {m : Int} {t : Task} {tasks : List Task}

theorem BulkRun.AwaitsMoves.applyChange_eq (h : run.AwaitsMoves start b target m (t :: tasks))
    (now : Moment) (hkeyed : start.KeyedColumns) :
    applyChange (start.surroundings now) run.store t (start.moveTo target)
      = if fitsInteger (m + 1) then .ok (run.store.moved now t target)
        else .error (.fault .outOfRange) := by
  have hmove := Store.moveTask_eq now target h.coherent
    (h.schema.keyedColumns hkeyed) (h.waiting t List.mem_cons_self).1
  rwa [Store.nextPosition_of_last h.last, h.schema.columns] at hmove

/-- The task that is moved is the last one of the other board then, and the others still wait. -/
theorem BulkRun.AwaitsMoves.next (h : run.AwaitsMoves start b target m (t :: tasks))
    (hb : b ∈ start.boards) (hconcerns : (start.moveTo target).Concerns start b)
    (happlied : Applied start now b run.store t (run.store.moved now t target)) :
    (BulkRun.mk (run.store.moved now t target) (run.succeeded ++ [t.id]) run.failed).AwaitsMoves
      start b target (m + 1) tasks := by
  obtain ⟨ht, hboard⟩ := h.waiting t List.mem_cons_self
  have hnodup := h.nodup
  rw [List.map_cons, List.nodup_cons] at hnodup
  refine ⟨h.schema.trans happlied.sameSchema, happlied.coherent h.coherent h.schema hb ht hboard,
    hnodup.2, fun u hu => ?_, ?_⟩
  · have hne : u.id ≠ t.id := fun hid => hnodup.1 (List.mem_map.2 ⟨u, hu, hid⟩)
    obtain ⟨hmem, honBoard⟩ := h.waiting u (List.mem_cons_of_mem t hu)
    exact ⟨((happlied.sameTask hne).mem_tasks rfl).2 hmem, honBoard⟩
  · exact Store.lastPosition_moved h.coherent.taskIds ht (hboard ▸ hconcerns.1.symm) h.last

end Step

variable (now) (hb : b ∈ start.boards) (hkeyed : start.KeyedColumns)
  (hconcerns : (start.moveTo target).Concerns start b)

include hb hkeyed hconcerns

/-- Tasks that are moved one after another come to stand one after another. -/
theorem foldlM_step_moves :
    (tasks : List Task) → {run : BulkRun} → {m : Int} → run.AwaitsMoves start b target m tasks →
    (∀ i < tasks.length, fitsInteger (m + 1 + i) = true) →
    ∃ s', tasks.foldlM (BulkRun.step (start.surroundings now) (start.moveTo target)) run
        = .ok ⟨s', run.succeeded ++ tasks.map (·.id), run.failed⟩
      ∧ run.store.MovesTo s' now target m tasks
  | [], run, m, _, _ => by
    refine ⟨run.store, by simp [pure, Except.pure], by simp, by simp, by simp, fun id _ => ?_⟩
    exact .refl id _
  | t :: tasks, run, m, hawaits, hroom => by
    have happly := hawaits.applyChange_eq now hkeyed
    have hfits : fitsInteger (m + 1) = true := by simpa using hroom 0 (by simp)
    rw [if_pos hfits] at happly
    have happlied := applyChange_applied hconcerns happly
    obtain ⟨s', hrun, hmoves⟩ := foldlM_step_moves tasks (hawaits.next hb hconcerns happlied)
      fun i hi => by
        have hlater := hroom (i + 1) (by simpa using hi)
        rwa [show m + 1 + ((i + 1 : Nat) : Int) = m + 1 + 1 + i by push_cast; ring] at hlater
    obtain ⟨ht, hboard⟩ := hawaits.waiting t List.mem_cons_self
    have hnew : t.id ∉ tasks.map (·.id) := (List.nodup_cons.1 hawaits.nodup).1
    refine ⟨s', ?_, hmoves.cons hawaits.coherent (hawaits.schema.keyedColumns hkeyed) ht
      (hboard ▸ hconcerns.1.symm) hawaits.last hnew fun key => happlied.sameTask⟩
    rw [List.foldlM_cons, BulkRun.step, happly, ok_bind, hrun, List.append_assoc]
    rfl

/-- One place that cannot be stored ends a run of moves. -/
theorem foldlM_step_moves_beyond :
    (tasks : List Task) → {run : BulkRun} → {m : Int} → run.AwaitsMoves start b target m tasks →
    (∃ i < tasks.length, fitsInteger (m + 1 + i) = false) →
    tasks.foldlM (BulkRun.step (start.surroundings now) (start.moveTo target)) run
      = .error (.fault .outOfRange)
  | [], _, _, _, hbeyond => by simp at hbeyond
  | t :: tasks, run, m, hawaits, hbeyond => by
    have happly := hawaits.applyChange_eq now hkeyed
    rw [List.foldlM_cons, BulkRun.step, happly]
    by_cases hfits : fitsInteger (m + 1) = true
    · rw [if_pos hfits] at happly ⊢
      rw [ok_bind]
      refine foldlM_step_moves_beyond tasks
        (hawaits.next hb hconcerns (applyChange_applied hconcerns happly)) ?_
      obtain ⟨i, hi, hlarge⟩ := hbeyond
      rcases i with _ | i
      · exact absurd hfits (by simpa using hlarge)
      · refine ⟨i, by simpa using hi, ?_⟩
        rwa [show m + 1 + ((i + 1 : Nat) : Int) = m + 1 + 1 + i by push_cast; ring] at hlarge
    · rw [if_neg hfits]
      rfl

end Runs

/-! ## Requests -/

theorem prepareBulk_move (now : Moment) {s : Store} {b target : Board} {params : Json}
    (hs : (s.boards.map (·.id)).Nodup) (htarget : target ∈ s.boards)
    (hworkspace : target.workspaceId = b.workspaceId) (hother : target.id ≠ b.id)
    (hparams : bulkParameter params "target_board_id" = .ok (.str target.id)) :
    prepareBulk now s b (.str "move") params = .ok (.move, s.moveTo target) := by
  have hop : BulkOperation.ofJson (.str "move") = .ok .move := rfl
  have hid : boardIdValue (.str target.id) = .ok (.str target.id) := by
    rw [boardIdValue, Json.orElse]
    split_ifs with hname
    · rfl
    · have hempty : target.id = "" := by simpa [Json.truthy] using hname
      rw [hempty]
  have hfind : s.board? target.id = some target := Store.find?_key Board.id hs htarget
  have hfound : ((some target.id).bind s.board?).filter
      (·.workspaceId == (s.schema b).workspaceId) = some target := by
    simp [hfind, Store.schema, hworkspace]
  have hmove : prepareMove s (s.schema b) (.str target.id) = .ok (s.moveTo target) := by
    rw [prepareMove, hid]
    simp only [orFault, Except.mapError, ok_bind, Json.isNull, Bool.false_eq_true, if_false,
      lookupText, hfound]
    rw [if_neg (by simpa [Store.schema] using hother)]
    rfl
  rw [prepareBulk, hop, ok_bind]
  simp only [prepareChange, hparams, orFault, Except.mapError, ok_bind, hmove]
  rfl

/-- A move to another board of the workspace puts its tasks there one after another, behind all that
are there, and takes along the values for which the board has a column with their name and type, if
their places can be stored. The tasks that are there already stay as they are. -/
theorem move_appends {c : Settings} {now : Moment} {s : Store} {r : Request} {board : String}
    {b target : Board} {u : User} {params ids filters : Json} {targets : Targets} {m : Int}
    (hs : s.Coherent) (hkeyed : s.KeyedColumns)
    (hr : r.AsksFor board ⟨.str "move", params, ids, filters⟩) (hboard : s.board? board = some b)
    (hu : authorize s r b = .ok u)
    (hparams : bulkParameter params "target_board_id" = .ok (.str target.id))
    (htarget : target ∈ s.boards) (hworkspace : target.workspaceId = b.workspaceId)
    (hother : target.id ≠ b.id)
    (htargets : selectTargets now s (s.schema b) false c.bulkTasks ids filters = .ok targets)
    (hlast : s.LastPosition target.id m)
    (hroom : ∀ i < targets.tasks.length, fitsInteger (m + 1 + i) = true) :
    ∃ s', handle c now s r = (bulkReply .move
        ⟨s', targets.tasks.map (·.id), targets.missing.map notReached⟩, s')
      ∧ s.MovesTo s' now target m targets.tasks
      ∧ ∀ t ∈ s.tasks, t.boardId = target.id → s'.tasks.filter (·.id == t.id) = [t] := by
  have hprepared := prepareBulk_move now hs.boardIds htarget hworkspace hother hparams
  have hscope := targets_onBoard htargets
  have hawaits : (BulkRun.mk s [] (targets.missing.map notReached)).AwaitsMoves s b target m
      targets.tasks := ⟨.refl s, hs, targets_nodup hs.taskIds htargets, hscope, hlast⟩
  obtain ⟨s', hrun, hmoves⟩ := foldlM_step_moves now (List.mem_of_find?_eq_some hboard) hkeyed
    (prepareBulk_concerns hprepared) targets.tasks hawaits hroom
  refine ⟨s', ?_, hmoves, fun t ht hthere => ?_⟩
  · have hbulk := runBulk_eq (c := c) (q := ⟨.str "move", params, ids, filters⟩) hprepared htargets
    rw [hrun] at hbulk
    rw [handle_bulk c now hr hboard hu, hbulk]
    rfl
  · have hnew : t.id ∉ targets.tasks.map (·.id) := fun hid => by
      obtain ⟨v, hv, hsame⟩ := List.mem_map.1 hid
      obtain ⟨hmem, hplaced⟩ := hscope v hv
      obtain rfl := List.inj_on_of_nodup_map hs.taskIds hmem ht hsame
      exact hother (hthere.symm.trans hplaced)
    rw [(hmoves.others t.id hnew).tasks]
    exact Store.filter_key_eq_singleton Task.id hs.taskIds ht

section Example

open Sample

/-- The other board. -/
def Sample.otherBoard : Board := ⟨"other", board.workspaceId, "Other"⟩

theorem coherent_twoBoards : twoBoards.Coherent :=
  ⟨by decide, by decide, by decide, by decide, by decide, by decide⟩

theorem keyedColumns_twoBoards : twoBoards.KeyedColumns := ⟨by decide, by decide⟩

/-- The task comes to the first place of the other board, and its stage to the stage there. -/
theorem move_appends_first :
    twoBoards.KeyedColumns ∧ twoBoards.LastPosition "other" (-1)
    ∧ ∃ s', handle .usual Moment.first twoBoards moveRequest = (bulkReply .move ⟨s', ["t"], []⟩, s')
      ∧ twoBoards.MovesTo s' Moment.first otherBoard (-1) [task "t"] := by
  have hlast : twoBoards.LastPosition "other" (-1) := .inl ⟨rfl, by decide⟩
  obtain ⟨u, hu⟩ : ∃ u, authorize twoBoards moveRequest board = .ok u := authorize_twoBoards
  have htargets : selectTargets Moment.first twoBoards (twoBoards.schema board) false
      Settings.usual.bulkTasks (.arr [.str "t"]) .null = .ok ⟨[task "t"], []⟩ := rfl
  have hparams : bulkParameter (.obj [("target_board_id", .str "other")]) "target_board_id"
      = .ok (.str otherBoard.id) := rfl
  obtain ⟨s', hhandle, hmoves, -⟩ := move_appends coherent_twoBoards keyedColumns_twoBoards
    moveRequest_asksFor rfl hu hparams (by decide) rfl (by decide) htargets hlast (by decide)
  exact ⟨keyedColumns_twoBoards, hlast, s', hhandle, hmoves⟩

/-- The other board has a task in the last place that can be stored. -/
def Sample.fullBoard : Store :=
  { twoBoards with
    tasks := [task "t",
      { task "last" with boardId := otherBoard.id, position := 9223372036854775807 }] }

/-- There is no place behind the last one, and the task is not moved. -/
theorem move_beyond_last :
    fullBoard.Coherent ∧ fullBoard.KeyedColumns
    ∧ fullBoard.LastPosition otherBoard.id 9223372036854775807
    ∧ moveRequest.AsksFor "board"
      ⟨.str "move", .obj [("target_board_id", .str otherBoard.id)], .arr [.str "t"], .null⟩
    ∧ otherBoard ∈ fullBoard.boards ∧ otherBoard.workspaceId = board.workspaceId
    ∧ selectTargets Moment.first fullBoard (fullBoard.schema board) false
      Settings.usual.bulkTasks (.arr [.str "t"]) .null = .ok ⟨[task "t"], []⟩
    ∧ (handle .usual Moment.first fullBoard moveRequest).1.status = 500
    ∧ ¬ fullBoard.MovesTo (handle .usual Moment.first fullBoard moveRequest).2 Moment.first
      otherBoard 9223372036854775807 [task "t"] := by
  refine ⟨⟨by decide, by decide, by decide, by decide, by decide, by decide⟩,
    ⟨keyedColumns_twoBoards.ids, keyedColumns_twoBoards.names⟩, .inr ⟨by decide, by decide⟩,
    moveRequest_asksFor, by decide, rfl, rfl, by decide +kernel, fun hmoves => ?_⟩
  have hboards : ((handle .usual Moment.first fullBoard moveRequest).2.tasks.filter
      (·.id == "t")).map (·.boardId) = ["board"] := by decide +kernel
  have hplaced := hmoves.placed 0 (task "t") rfl
  rw [show (task "t").id = "t" from rfl] at hplaced
  rw [hplaced] at hboards
  exact absurd hboards (by decide)

end Example

end BoardQuery
