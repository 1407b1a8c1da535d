import BoardQuery.Proofs.Api.Admission
import BoardQuery.Proofs.Api.BulkPreviews
import BoardQuery.Proofs.Api.FilterRuns
import BoardQuery.Proofs.Service.BatchOutcomes

/-!
# What a bulk operation leaves alone

A bulk operation that is answered has touched the tasks that it tells as successful, and nothing
else (`bulk_touches_only`). Of such a task it has changed the fields of the operation, the time of
the last change if one of them came out different, and the rows that the operation is about
(`TaskChange.Touches`). A step is shown to do so for each kind of change, and the tasks of a batch
meet the change as they were before it.
-/

namespace BoardQuery

/-! ## The fields of an operation -/

/-- The operation that a change is of. -/
def TaskChange.operation : TaskChange → BulkOperation
  | .status _ => .setStatus
  | .priority _ => .setPriority
  | .assignee _ => .assign
  | .dueDate _ => .setDueDate
  | .board _ _ => .move
  | .archive => .archive
  | .unarchive => .unarchive
  | .delete => .delete
  | .addLabels _ _ => .addLabels
  | .removeLabels _ _ => .removeLabels
  | .field _ _ => .setField

/-- A task with the fields that an operation is about taken from another. -/
def BulkOperation.overwrite (op : BulkOperation) (t t' : Task) : Task :=
  match op with
  | .setStatus => { t with status := t'.status, completedAt := t'.completedAt }
  | .setPriority => { t with priority := t'.priority }
  | .assign => { t with assignee := t'.assignee }
  | .setDueDate => { t with dueDate := t'.dueDate }
  | .move => { t with boardId := t'.boardId, position := t'.position }
  | .archive | .unarchive => { t with archivedAt := t'.archivedAt }
  | .delete | .addLabels | .removeLabels | .setField => t

/-- Whether a task comes out of an operation different in the fields of the operation only, and with
a new time of change if one of them is different. -/
structure BulkOperation.Revises (op : BulkOperation) (now : Moment) (t t' : Task) : Prop where
  fields : t' = { op.overwrite t t' with updatedAt := t'.updatedAt }
  stamp : t'.updatedAt = if op.overwrite t t' = t then t.updatedAt else .ofClock now

/-- Whether a task comes to a status, completed if that is to be done, and then at the earlier time
if there was one. -/
structure Task.Attains (t : Task) (name : String) (t' : Task) : Prop where
  status : t'.status = name
  completed : t'.completedAt.isSome = true ↔ name = "done"
  kept : name = "done" → ∀ m, t.completedAt = some m → t'.completedAt = some m

/-- Whether a change may write the row of a task for a column, or take it away. -/
def TaskChange.mayWrite (change : TaskChange) (columnId : String) : Bool :=
  match change with
  | .board _ _ | .delete => true
  | .addLabels c _ | .removeLabels c _ | .field c _ => columnId == c.id
  | .status _ | .priority _ | .assignee _ | .dueDate _ | .archive | .unarchive => false

/-- Whether a task and its rows differ between two stores only in what a change is about. -/
structure TaskChange.Touches (change : TaskChange) (now : Moment) (t : Task) (s s' : Store) :
    Prop where
  remains : change.operation ≠ .delete → ∃ t', s'.tasks.filter (·.id == t.id) = [t']
    ∧ change.operation.Revises now t t' ∧ ∀ name, change = .status name → t.Attains name t'
  gone : change.operation = .delete →
    s'.tasks.filter (·.id == t.id) = [] ∧ s'.valuesOf t.id = []
  rows : (s'.valuesOf t.id).filter (fun v => !change.mayWrite v.columnId)
    = (s.valuesOf t.id).filter fun v => !change.mayWrite v.columnId

namespace BulkOperation

variable {op : BulkOperation} {now : Moment} {t t' : Task}

theorem overwrite_self (op : BulkOperation) (t : Task) : op.overwrite t t = t := by
  cases op <;> rfl

theorem overwrite_stamped (op : BulkOperation) (t t' : Task) (stamp : Stamp) :
    op.overwrite t { t' with updatedAt := stamp } = op.overwrite t t' := by
  cases op <;> rfl

theorem revises_self (op : BulkOperation) (now : Moment) (t : Task) : op.Revises now t t where
  fields := by rw [op.overwrite_self]
  stamp := by rw [if_pos (op.overwrite_self t)]

/-- What a store makes of a change of the fields of an operation. -/
theorem revises_of_overwrite (h : op.overwrite t t' = t') :
    op.Revises now t (if t' = t then t else { t' with updatedAt := .ofClock now }) := by
  split_ifs with hsame
  · exact op.revises_self now t
  · refine ⟨?_, ?_⟩
    · rw [overwrite_stamped, h]
    · rw [overwrite_stamped, h, if_neg hsame]

end BulkOperation

theorem Task.Attains.stored {t t' : Task} {name : String} (h : t.Attains name t') (stamp : Stamp) :
    t.Attains name (if t' = t then t else { t' with updatedAt := stamp }) := by
  split_ifs with hsame
  · exact hsame ▸ h
  · exact ⟨h.status, h.completed, h.kept⟩

theorem Task.attains_withStatus (now : Moment) (name : String) (t : Task) :
    t.Attains name (t.withStatus now name) where
  status := rfl
  completed := by
    simp only [Task.withStatus]
    split_ifs with hdone
    · simpa using hdone
    · simpa using hdone
  kept := by
    rintro rfl m hm
    simp [Task.withStatus, hm]

theorem operation_of_prepareChange {env : Surroundings} {s : Store} {schema : BoardSchema}
    {op : BulkOperation} {params : Json} {change : TaskChange}
    (h : prepareChange env s schema op params = .ok change) : change.operation = op := by
  have hchange := prepareChange_eq_ok h
  cases op with
  | setStatus | setPriority | assign | setDueDate =>
    obtain ⟨_, rfl⟩ := hchange
    rfl
  | move =>
    obtain ⟨target, -, -, -, rfl⟩ := hchange
    rfl
  | archive | unarchive | delete =>
    rw [show change = _ from hchange]
    rfl
  | addLabels | removeLabels | setField =>
    obtain ⟨c, -, _, rfl⟩ := hchange
    rfl

/-! ## One change -/

section Steps

variable {env : Surroundings} {now : Moment} {s s' : Store} {t : Task} {change : TaskChange}

/-- Only the task and its own rows matter for whether it is touched. -/
theorem TaskChange.Touches.congr {s₁ s₂ : Store} (h : change.Touches now t s₁ s₂)
    (hbefore : s.SameTask t.id s₁) (hafter : s₂.SameTask t.id s') : change.Touches now t s s' where
  remains hop := by
    rw [hafter.tasks]
    exact h.remains hop
  gone hop := by
    rw [hafter.tasks, hafter.values]
    exact h.gone hop
  rows := by
    rw [hafter.values, h.rows, hbefore.values]

/-- A change of the fields of an operation, with what it does to the rows. -/
theorem touches_of_update {f : Task → Task} (hfound : s.tasks.filter (·.id == t.id) = [t])
    (htasks : s'.tasks = (s.updateTask now t.id f).tasks) (hid : ∀ t, (f t).id = t.id)
    (hop : change.operation ≠ .delete) (hfields : change.operation.overwrite t (f t) = f t)
    (hstatus : ∀ name, change = .status name → t.Attains name (f t))
    (hrows : (s'.valuesOf t.id).filter (fun v => !change.mayWrite v.columnId)
      = (s.valuesOf t.id).filter fun v => !change.mayWrite v.columnId) :
    change.Touches now t s s' where
  remains _ := by
    rw [htasks, Store.filter_updateTask_self hid, hfound]
    exact ⟨_, rfl, BulkOperation.revises_of_overwrite hfields,
      fun name hname => (hstatus name hname).stored _⟩
  gone h := absurd h hop
  rows := hrows

/-- A value that is written leaves the task alone, and all rows but its own. -/
theorem touches_of_write {c : BoardColumn} {v : Json}
    (hfound : s.tasks.filter (·.id == t.id) = [t]) (hop : change.operation ≠ .delete)
    (hstatus : ∀ name, change ≠ .status name)
    (hcolumn : ∀ columnId, change.mayWrite columnId = (columnId == c.id)) :
    change.Touches now t s (s.putValue t.id c.id v) where
  remains _ := by
    rw [s.tasks_putValue]
    exact ⟨t, hfound, BulkOperation.revises_self .., fun name h => absurd h (hstatus name)⟩
  gone h := absurd h hop
  rows := by
    simp only [hcolumn]
    exact Store.filter_valuesOf_putValue c.id v

/-- A change that is carried out touches what it is about, whatever the change. -/
theorem touches_of_applyChange (hfound : s.tasks.filter (·.id == t.id) = [t])
    (h : applyChange env s t change = .ok s') : change.Touches env.now t s s' := by
  cases change with
  | status name =>
    obtain rfl := Except.ok.inj h
    refine touches_of_update hfound rfl (fun _ => rfl) (by simp [TaskChange.operation]) rfl ?_ rfl
    rintro _ ⟨⟩
    exact t.attains_withStatus env.now name
  | priority | assignee | dueDate | archive | unarchive =>
    obtain rfl := Except.ok.inj h
    exact touches_of_update hfound rfl (fun _ => rfl) (by simp [TaskChange.operation]) rfl (by simp)
      rfl
  | board target columns =>
    simp only [applyChange, moveTask, bind_eq_ok, error_bind, ite_error_eq_ok, pure_eq_ok] at h
    obtain ⟨rows, -, -, -, rfl⟩ := h
    refine touches_of_update hfound rfl ?_ (by simp [TaskChange.operation]) rfl (by simp)
      (by simp [TaskChange.mayWrite])
    exact fun _ => rfl
  | delete =>
    obtain rfl := Except.ok.inj h
    refine ⟨fun hop => absurd rfl hop, fun _ => ⟨?_, ?_⟩, by simp [TaskChange.mayWrite]⟩
    · simp [Store.eraseTask, List.filter_filter]
    · simp [Store.eraseTask, Store.valuesOf, List.filter_filter]
  | addLabels c labels =>
    simp only [applyChange, bind_eq_ok] at h
    obtain ⟨current, -, h⟩ := h
    obtain ⟨v, -, rfl⟩ := setValue_eq_ok h
    exact touches_of_write hfound (by simp [TaskChange.operation]) (by simp) fun _ => rfl
  | removeLabels c labels =>
    simp only [applyChange, bind_eq_ok] at h
    obtain ⟨current, -, rest, -, h⟩ := h
    obtain ⟨v, -, rfl⟩ := setValue_eq_ok h
    exact touches_of_write hfound (by simp [TaskChange.operation]) (by simp) fun _ => rfl
  | field c raw =>
    obtain ⟨v, -, rfl⟩ := setValue_eq_ok h
    exact touches_of_write hfound (by simp [TaskChange.operation]) (by simp) fun _ => rfl

theorem TaskChange.CarriedOut.touches (h : change.CarriedOut env t s s')
    (hs : (s.tasks.map (·.id)).Nodup) (ht : t ∈ s.tasks) : change.Touches env.now t s s' := by
  obtain ⟨s₁, s₂, hbefore, happly, hafter⟩ := h
  have hfound : s₁.tasks.filter (·.id == t.id) = [t] := by
    rw [hbefore.tasks]
    exact Store.filter_key_eq_singleton Task.id hs ht
  exact (touches_of_applyChange hfound happly).congr hbefore hafter

end Steps

/-! ## A whole operation -/

/-- Whether two stores differ only in the tasks of some ids and their rows, each of them a task of a
board, and in these only in what a change is about. -/
structure TaskChange.TouchesOnly (change : TaskChange) (now : Moment) (b : Board)
    (ids : List String) (s s' : Store) : Prop where
  schema : s.SameSchema s'
  filters : s'.filters = s.filters ∧ s'.filtersWritten = s.filtersWritten
  others : ∀ id ∉ ids, s.SameTask id s'
  touched : ∀ id ∈ ids, ∃ t ∈ s.tasks, t.id = id ∧ t.boardId = b.id ∧ change.Touches now t s s'

section Operations

variable {c : Settings} {now : Moment} {s : Store} {r : Request} {board : String} {b : Board}
  {q : BulkRequest} {op : BulkOperation} {run : BulkRun}

theorem runBulk_touchesOnly (hs : (s.tasks.map (·.id)).Nodup)
    (h : runBulk c now s (s.schema b) q = .ok (op, run)) :
    ∃ change, prepareBulk now s b q.operation q.params = .ok (op, change)
      ∧ change.operation = op ∧ change.TouchesOnly now b run.succeeded s run.store := by
  obtain ⟨plan, refused, hplan, rfl, hsettles⟩ := runBulk_settles hs h
  obtain ⟨hchange, htargets⟩ := planBulk_eq_ok hplan
  have hupto := runBulk_upto h
  refine ⟨plan.change, prepareBulk_of_planBulk hplan, operation_of_prepareChange hchange, ?_,
    hupto.sameFilters, hsettles.kept, fun id hid => ?_⟩
  · exact hupto.preserves (P := s.SameSchema)
      (fun _ _ _ _ _ hs happlied => hs.trans happlied.sameSchema) (.refl s)
  · obtain ⟨t, ht, rfl⟩ := List.mem_map.1 (hsettles.mem_ids hid)
    obtain ⟨hmem, hboard⟩ := targets_onBoard htargets t ht
    exact ⟨t, hmem, rfl, hboard, (hsettles.carriedOut t ht hid).touches hs hmem⟩

/-- A bulk operation that is answered has come to its end. -/
theorem handle_bulk_answered (hr : r.AsksFor board q) (h : (handle c now s r).1.status = 200) :
    ∃ b u op run, s.board? board = some b ∧ authorize s r b = .ok u
      ∧ runBulk c now s (s.schema b) q = .ok (op, run)
      ∧ handle c now s r = (bulkReply op run, run.store) := by
  have hplain : r.Plain := by simp [hr.method]
  have haccepts : (Route.bulk board).accepts r.method = true := by
    rw [hr.method]
    rfl
  have hroute {reply : Reply} (herror : handleRoute c now s r (.bulk board) = .error reply) :
      reply.status = 200 := by
    rwa [handle_of_error hplain hr.route haccepts herror] at h
  have hchecks : (s.board? board = none ∧ handleRoute c now s r (.bulk board)
        = .error (.error 404 "Board not found"))
      ∨ ∃ b, s.board? board = some b ∧ handleRoute c now s r (.bulk board)
        = authorize s r b >>= fun _ => handleBulk c now s r b := onBoard_checks _ hplain
  rcases hchecks with ⟨-, hnone⟩ | ⟨b, hboard, hchecks⟩
  · exact absurd (hroute hnone) (by decide)
  · rcases hu : authorize s r b with reply | u
    · rw [hu] at hchecks
      exact absurd (hroute hchecks) (authorize_status hu)
    · have hhandle := handle_bulk c now hr hboard hu
      rcases hrun : runBulk c now s (s.schema b) q with e | ⟨op, run⟩ <;> rw [hrun] at hhandle
      · rw [hhandle] at h
        exact absurd h (ofRefusal_status e (by decide))
      · exact ⟨b, u, op, run, hboard, hu, hrun, hhandle⟩

end Operations

/-- A bulk operation that is answered has touched the tasks that it tells as successful, each in the
fields and the rows of the operation, and nothing else in the store. -/
theorem bulk_touches_only {c : Settings} {now : Moment} {s : Store} {r : Request} {board : String}
    {q : BulkRequest} (hs : (s.tasks.map (·.id)).Nodup) (hr : r.AsksFor board q)
    (hok : (handle c now s r).1.status = 200) :
    ∃ b op change run, s.board? board = some b
      ∧ prepareBulk now s b q.operation q.params = .ok (op, change) ∧ change.operation = op
      ∧ handle c now s r = (bulkReply op run, run.store)
      ∧ change.TouchesOnly now b run.succeeded s (handle c now s r).2 := by
  obtain ⟨b, u, op, run, hboard, -, hrun, hhandle⟩ := handle_bulk_answered hr hok
  obtain ⟨change, hprepared, hop, htouches⟩ := runBulk_touchesOnly hs hrun
  rw [hhandle]
  exact ⟨b, op, change, run, hboard, hprepared, hop, rfl, htouches⟩

section Example

open Sample

theorem moveRequest_asksFor : moveRequest.AsksFor "board"
    ⟨.str "move", .obj [("target_board_id", .str "other")], .arr [.str "t"], .null⟩ where
  route := archiveRequest_asksFor.route
  method := rfl
  operation := rfl
  params := rfl
  taskIds := rfl
  filters := rfl

/-- One of two tasks is moved, and only that one is touched. -/
theorem bulk_touches_only_moved :
    (Sample.twoReviews.tasks.map (·.id)).Nodup
    ∧ moveRequest.AsksFor "board"
      ⟨.str "move", .obj [("target_board_id", .str "other")], .arr [.str "t"], .null⟩
    ∧ (handle .usual Moment.first Sample.twoReviews moveRequest).1.status = 200
    ∧ ∃ (change : TaskChange) (run : BulkRun), change.operation = .move
      ∧ handle .usual Moment.first Sample.twoReviews moveRequest = (bulkReply .move run, run.store)
      ∧ change.TouchesOnly Moment.first board run.succeeded Sample.twoReviews
        (handle .usual Moment.first Sample.twoReviews moveRequest).2 := by
  have hs : (Sample.twoReviews.tasks.map (·.id)).Nodup := by decide
  have hok : (handle .usual Moment.first Sample.twoReviews moveRequest).1.status = 200 := by
    decide +kernel
  obtain ⟨b, op, change, run, hboard, hprepared, hop, hhandle, htouches⟩ :=
    bulk_touches_only hs moveRequest_asksFor hok
  obtain rfl : board = b := Option.some.inj hboard
  obtain rfl : BulkOperation.move = op := by
    simp only [prepareBulk, bind_eq_ok, pure_eq_ok, Prod.mk.injEq] at hprepared
    obtain ⟨op', hop', -, -, rfl, -⟩ := hprepared
    exact Except.ok.inj hop'
  exact ⟨hs, moveRequest_asksFor, hok, change, run, hop, hhandle, htouches⟩

end Example

end BoardQuery
