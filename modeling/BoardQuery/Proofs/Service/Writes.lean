import BoardQuery.Proofs.Outcome
import BoardQuery.Proofs.Value.Distinct
import Mathlib.Data.List.Basic

/-!
# Writes to the store

What one change of one task can do (`Applied`), and what a bulk operation keeps because each of
its changes does (`BulkRun.Upto.preserves`), also if a fault ends it midway. No write touches the
users, the members, the boards or the columns.
-/

namespace BoardQuery

/-- What a change of a task has done to the store, when it was prepared for the tasks of a board in
some store before. -/
inductive Applied (start : Store) (now : Moment) (b : Board) (s : Store) (t : Task) : Store → Prop
  /-- Attributes were changed, but not the id, the board, the workspace, the position or the
  stamps. -/
  | updated (change : Task → Task) (hid : ∀ t, (change t).id = t.id)
    (hboard : ∀ t, (change t).boardId = t.boardId)
    (hposition : ∀ t, (change t).position = t.position)
    (hworkspace : ∀ t, (change t).workspaceId = t.workspaceId)
    (hstamps : ∀ t, (change t).createdAt = t.createdAt ∧ (change t).updatedAt = t.updatedAt) :
    Applied start now b s t (s.updateTask now t.id change)
  /-- The task was moved to another board, and its rows with it. -/
  | moved (target : Board) (rows : List (Option FieldValue)) (htarget : target.id ≠ b.id)
    (hrows : (s.valuesOf t.id).mapM (movedValue? s (start.columns.filter (·.boardId == target.id)))
      = .ok rows)
    (hposition : fitsInteger (nextPosition s target.id) = true) (hmem : target ∈ start.boards)
    (hworkspace : target.workspaceId = b.workspaceId)
    (hdistinct : ((rows.filterMap id).map (·.columnId)).Nodup) :
    Applied start now b s t ((s.replaceValues t.id (rows.filterMap id)).updateTask now t.id
      fun t => { t with boardId := target.id, position := nextPosition s target.id })
  | erased : Applied start now b s t (s.eraseTask t.id)
  /-- A value was validated for a column of the board and written. -/
  | wrote (c : BoardColumn) (raw v : Json) (hc : c ∈ (start.schema b).columns)
    (hv : validateFor (start.surroundings now) c c.name raw = .ok v) :
    Applied start now b s t (s.putValue t.id c.id v)

/-- Whether a change stays with the columns of a board, or moves tasks to another board of its
workspace and to the columns there. -/
def TaskChange.Concerns (start : Store) (b : Board) : TaskChange → Prop
  | .board target columns =>
    target.id ≠ b.id ∧ columns = start.columns.filter (·.boardId == target.id)
      ∧ target ∈ start.boards ∧ target.workspaceId = b.workspaceId
  | .addLabels c _ => c ∈ (start.schema b).columns
  | .removeLabels c _ => c ∈ (start.schema b).columns
  | .field c _ => c ∈ (start.schema b).columns
  | _ => True

theorem BoardSchema.mem_of_find? {schema : BoardSchema} {name : String} {c : BoardColumn}
    (h : schema.find? name = some c) : c ∈ schema.columns := by
  simp only [BoardSchema.find?, Option.orElse_eq_orElse, Option.orElse_eq_or,
    Option.or_eq_some_iff] at h
  rcases h with h | ⟨-, h | ⟨-, h⟩⟩ <;> exact List.mem_of_find?_eq_some h

section Preparation

variable {env : Surroundings} {now : Moment} {s : Store} {schema : BoardSchema}
  {change : TaskChange}

theorem mem_of_namedColumn {v : Json} {c : BoardColumn}
    (h : namedColumn schema v = .ok (some c)) : c ∈ schema.columns := by
  unfold namedColumn at h
  split at h
  · exact BoardSchema.mem_of_find? (Except.ok.inj h)
  · exact absurd h (by simp)

/-- Labels are prepared for a labels column, in the form that the column gives them. -/
theorem prepareLabels_eq_ok {name labels : Json} {make : BoardColumn → List String → TaskChange} :
    prepareLabels env schema name labels make = .ok change
      ↔ ∃ c v l ls, namedColumn schema name = .ok (some c) ∧ c.columnType = .ok .labels
        ∧ validateFor env c "labels" labels = .ok v ∧ (v.strings?).getD [] = l :: ls
        ∧ make c (l :: ls) = change := by
  constructor
  · intro h
    simp only [prepareLabels, bind_eq_ok, orFault_eq_ok] at h
    obtain ⟨column?, hcolumn, h⟩ := h
    rcases column? with _ | c
    · exact absurd h refuse_ne_ok
    · simp only [refuse_bind, bind_eq_ok, ite_refuse_eq_ok, orFault_eq_ok] at h
      obtain ⟨t, ht, hlabels, v, hv, h⟩ := h
      obtain rfl : t = .labels := by simpa using hlabels
      rcases hlist : (v.strings?).getD [] with _ | ⟨l, ls⟩ <;> rw [hlist] at h
      · exact absurd h refuse_ne_ok
      · exact ⟨c, v, l, ls, hcolumn, ht, hv, hlist, pure_eq_ok.1 h⟩
  · rintro ⟨c, v, l, ls, hcolumn, ht, hv, hlist, rfl⟩
    rw [prepareLabels, hcolumn]
    simp only [orFault, Except.mapError, ok_bind, ht, hv]
    rw [hlist]
    rfl

/-- A move is prepared to another board of the workspace. -/
theorem prepareMove_eq_ok {v : Json} (h : prepareMove s schema v = .ok change) :
    ∃ target ∈ s.boards, target.workspaceId = schema.workspaceId ∧ target.id ≠ schema.boardId
      ∧ change = .board target (s.columns.filter (·.boardId == target.id)) := by
  rw [prepareMove, bind_eq_ok] at h
  obtain ⟨id, -, h⟩ := h
  split_ifs at h
  all_goals
    obtain ⟨key, -, h⟩ := bind_eq_ok.1 h
    beta_reduce at h
    split at h
    · exact absurd h refuse_ne_ok
    · rename_i target htarget
      obtain ⟨hfound, hworkspace⟩ := Option.filter_eq_some_iff.1 htarget
      obtain ⟨id, -, hfind⟩ := Option.bind_eq_some_iff.1 hfound
      obtain ⟨hother, h⟩ := ite_refuse_eq_ok.1 h
      exact ⟨target, List.mem_of_find?_eq_some hfind, by simpa using hworkspace,
        by simpa using hother, (pure_eq_ok.1 h).symm⟩

theorem prepareAssignee_eq_ok {workspaceId : String} {v : Json}
    (h : prepareAssignee s workspaceId v = .ok change) : ∃ id, change = .assignee id := by
  rw [prepareAssignee] at h
  split_ifs at h
  · exact ⟨none, (pure_eq_ok.1 h).symm⟩
  · obtain ⟨id?, -, h⟩ := bind_eq_ok.1 h
    split at h
    · split_ifs at h
      · exact ⟨_, (pure_eq_ok.1 h).symm⟩
      · exact absurd h refuse_ne_ok
    · exact absurd h refuse_ne_ok

theorem prepareDueDate_eq_ok {v : Json} (h : prepareDueDate now v = .ok change) :
    ∃ d, change = .dueDate d := by
  rw [prepareDueDate] at h
  split_ifs at h
  · exact ⟨none, (pure_eq_ok.1 h).symm⟩
  · obtain ⟨m, -, h⟩ := bind_eq_ok.1 h
    split at h
    · exact ⟨_, (pure_eq_ok.1 h).symm⟩
    · exact absurd h refuse_ne_ok

/-- What each operation is prepared to. -/
theorem prepareChange_eq_ok {op : BulkOperation} {params : Json}
    (h : prepareChange env s schema op params = .ok change) :
    match op with
    | .setStatus => ∃ name, change = .status name
    | .setPriority => ∃ name, change = .priority name
    | .assign => ∃ id, change = .assignee id
    | .setDueDate => ∃ d, change = .dueDate d
    | .move => ∃ target ∈ s.boards, target.workspaceId = schema.workspaceId
        ∧ target.id ≠ schema.boardId
        ∧ change = .board target (s.columns.filter (·.boardId == target.id))
    | .archive => change = .archive
    | .unarchive => change = .unarchive
    | .delete => change = .delete
    | .addLabels => ∃ c ∈ schema.columns, ∃ labels, change = .addLabels c labels
    | .removeLabels => ∃ c ∈ schema.columns, ∃ labels, change = .removeLabels c labels
    | .setField => ∃ c ∈ schema.columns, ∃ raw, change = .field c raw := by
  cases op with
  | setStatus | setPriority =>
    obtain ⟨v, -, h⟩ := bind_eq_ok.1 h
    split at h
    · exact ⟨_, (pure_eq_ok.1 h).symm⟩
    · exact absurd h refuse_ne_ok
  | assign =>
    obtain ⟨v, -, h⟩ := bind_eq_ok.1 h
    exact prepareAssignee_eq_ok h
  | setDueDate =>
    obtain ⟨v, -, h⟩ := bind_eq_ok.1 h
    exact prepareDueDate_eq_ok h
  | move =>
    obtain ⟨v, -, h⟩ := bind_eq_ok.1 h
    exact prepareMove_eq_ok h
  | archive | unarchive | delete => exact (pure_eq_ok.1 h).symm
  | addLabels | removeLabels =>
    simp only [prepareChange, bind_eq_ok] at h
    obtain ⟨name, -, labels, -, h⟩ := h
    obtain ⟨c, v, l, ls, hc, -, -, -, rfl⟩ := prepareLabels_eq_ok.1 h
    exact ⟨c, mem_of_namedColumn hc, l :: ls, rfl⟩
  | setField =>
    simp only [prepareChange, bind_eq_ok, orFault_eq_ok] at h
    obtain ⟨name, -, column?, hcolumn, h⟩ := h
    rcases column? with _ | c
    · exact absurd h refuse_ne_ok
    · obtain ⟨raw, -, h⟩ := bind_eq_ok.1 h
      exact ⟨c, mem_of_namedColumn hcolumn, raw, (pure_eq_ok.1 h).symm⟩

theorem prepareChange_concerns {start : Store} {b : Board} {op : BulkOperation} {params : Json}
    (h : prepareChange (start.surroundings now) start (start.schema b) op params = .ok change) :
    change.Concerns start b := by
  have hchange := prepareChange_eq_ok h
  cases op with
  | setStatus | setPriority | assign | setDueDate =>
    obtain ⟨_, rfl⟩ := hchange
    trivial
  | move =>
    obtain ⟨target, hmem, hworkspace, hother, rfl⟩ := hchange
    exact ⟨hother, rfl, hmem, hworkspace⟩
  | archive | unarchive | delete =>
    rw [show change = _ from hchange]
    trivial
  | addLabels | removeLabels | setField =>
    obtain ⟨c, hc, _, rfl⟩ := hchange
    exact hc

end Preparation

section Steps

variable {start : Store} {now : Moment} {b : Board} {s s' : Store} {t : Task}

theorem setValue_eq_ok {env : Surroundings} {c : BoardColumn} {raw : Json}
    (h : setValue env s t c raw = .ok s') :
    ∃ v, validateFor env c c.name raw = .ok v ∧ s' = s.putValue t.id c.id v := by
  simp only [setValue, refuse_bind, ite_refuse_eq_ok, bind_eq_ok, pure_eq_ok] at h
  obtain ⟨-, v, hv, rfl⟩ := h
  exact ⟨v, hv, rfl⟩

theorem setValue_applied {c : BoardColumn} {raw : Json} (hc : c ∈ (start.schema b).columns)
    (h : setValue (start.surroundings now) s t c raw = .ok s') : Applied start now b s t s' := by
  obtain ⟨v, hv, rfl⟩ := setValue_eq_ok h
  exact .wrote c raw v hc hv

theorem moveTask_applied {target : Board} (htarget : target.id ≠ b.id)
    (hmem : target ∈ start.boards) (hworkspace : target.workspaceId = b.workspaceId)
    (h : moveTask now s t target (start.columns.filter (·.boardId == target.id)) = .ok s') :
    Applied start now b s t s' := by
  simp only [moveTask, bind_eq_ok, orFault_eq_ok, error_bind, ite_error_eq_ok, pure_eq_ok] at h
  obtain ⟨rows, hrows, hposition, hdistinct, rfl⟩ := h
  have hlength : (distinct ((rows.filterMap id).map (·.columnId))).length
      = ((rows.filterMap id).map (·.columnId)).length := by
    rw [List.length_map]
    simpa using hdistinct
  exact .moved target rows htarget hrows (by simpa using hposition) hmem hworkspace
    (nodup_of_length_distinct hlength)

theorem applyChange_applied {change : TaskChange} (hconcerns : change.Concerns start b)
    (h : applyChange (start.surroundings now) s t change = .ok s') :
    Applied start now b s t s' := by
  cases change with
  | status name =>
    obtain rfl := Except.ok.inj h
    exact .updated _ (fun _ => rfl) (fun _ => rfl) (fun _ => rfl) (fun _ => rfl)
      (fun _ => ⟨rfl, rfl⟩)
  | priority name =>
    obtain rfl := Except.ok.inj h
    exact .updated _ (fun _ => rfl) (fun _ => rfl) (fun _ => rfl) (fun _ => rfl)
      (fun _ => ⟨rfl, rfl⟩)
  | assignee id =>
    obtain rfl := Except.ok.inj h
    exact .updated _ (fun _ => rfl) (fun _ => rfl) (fun _ => rfl) (fun _ => rfl)
      (fun _ => ⟨rfl, rfl⟩)
  | dueDate d =>
    obtain rfl := Except.ok.inj h
    exact .updated _ (fun _ => rfl) (fun _ => rfl) (fun _ => rfl) (fun _ => rfl)
      (fun _ => ⟨rfl, rfl⟩)
  | board target columns =>
    obtain ⟨htarget, rfl, hmem, hworkspace⟩ := hconcerns
    exact moveTask_applied htarget hmem hworkspace h
  | archive =>
    obtain rfl := Except.ok.inj h
    exact .updated _ (fun _ => rfl) (fun _ => rfl) (fun _ => rfl) (fun _ => rfl)
      (fun _ => ⟨rfl, rfl⟩)
  | unarchive =>
    obtain rfl := Except.ok.inj h
    exact .updated _ (fun _ => rfl) (fun _ => rfl) (fun _ => rfl) (fun _ => rfl)
      (fun _ => ⟨rfl, rfl⟩)
  | delete =>
    obtain rfl := Except.ok.inj h
    exact .erased
  | addLabels c labels =>
    simp only [applyChange, bind_eq_ok] at h
    obtain ⟨current, -, h⟩ := h
    exact setValue_applied hconcerns h
  | removeLabels c labels =>
    simp only [applyChange, bind_eq_ok] at h
    obtain ⟨current, -, rest, -, h⟩ := h
    exact setValue_applied hconcerns h
  | field c raw => exact setValue_applied hconcerns h

end Steps

/-! ## Bulk operations -/

section Bulk

variable {env : Surroundings} {change : TaskChange}

theorem step_eq_ok {run run' : BulkRun} {t : Task}
    (h : BulkRun.step env change run t = .ok run') :
    run'.store = run.store ∨ applyChange env run.store t change = .ok run'.store := by
  unfold BulkRun.step at h
  split at h
  case h_1 s hs =>
    obtain rfl := Except.ok.inj h
    exact .inr hs
  case h_2 r hr =>
    split at h
    · obtain rfl := Except.ok.inj h
      exact .inl rfl
    · exact absurd h (by simp)

/-- What each change keeps, the whole run keeps. -/
theorem foldlM_step_preserves {P : Store → Prop} :
    (tasks : List Task) →
    (∀ s s' t, t ∈ tasks → P s → applyChange env s t change = .ok s' → P s') →
    {run run' : BulkRun} → P run.store →
    tasks.foldlM (BulkRun.step env change) run = .ok run' → P run'.store
  | [], _, _, _, h0, h => by
    obtain rfl := pure_eq_ok.1 h
    exact h0
  | t :: tasks, hstep, run, run', h0, h => by
    rw [List.foldlM_cons, bind_eq_ok] at h
    obtain ⟨next, hnext, h⟩ := h
    refine foldlM_step_preserves tasks (fun s s' u hu => hstep s s' u (List.mem_cons_of_mem t hu))
      ?_ h
    rcases step_eq_ok hnext with heq | happly
    · rw [heq]
      exact h0
    · exact hstep _ _ t List.mem_cons_self h0 happly

/-- Only a change that fails without a text ends a run. -/
theorem foldlM_step_eq_error {e : Refusal} :
    (tasks : List Task) → {run : BulkRun} →
    tasks.foldlM (BulkRun.step env change) run = .error e →
    failureText? e = none ∧ ∃ s' t, applyChange env s' t change = .error e
  | [], _, h => absurd h (by simp [pure, Except.pure])
  | t :: tasks, run, h => by
    rw [List.foldlM_cons] at h
    rcases hstep : BulkRun.step env change run t with e' | next <;> rw [hstep] at h
    · obtain rfl := Except.error.inj h
      unfold BulkRun.step at hstep
      split at hstep
      · exact absurd hstep (by simp)
      · rename_i r hr
        split at hstep
        · exact absurd hstep (by simp)
        · obtain rfl := Except.error.inj hstep
          exact ⟨‹_›, run.store, t, hr⟩
    · exact foldlM_step_eq_error tasks h

theorem targets_inScope {now : Moment} {s : Store} {schema : BoardSchema} {archived : Bool}
    {limit : Int} {ids filters : Json} {targets : Targets}
    (h : selectTargets now s schema archived limit ids filters = .ok targets) :
    ∀ t ∈ targets.tasks, t ∈ s.tasks ∧ inScope schema archived t = true := by
  simp only [selectTargets, ite_refuse_eq_ok] at h
  obtain ⟨-, h⟩ := h
  split_ifs at h
  · simp only [targetsByFilter, bind_eq_ok, refuse_bind, ite_refuse_eq_ok, pure_eq_ok] at h
    obtain ⟨tree, -, -, rfl⟩ := h
    intro t ht
    rw [List.mem_mergeSort, selectTasks, List.mem_filter, Bool.and_eq_true] at ht
    exact ⟨ht.1, ht.2.1⟩
  · unfold targetsById at h
    split at h
    · exact absurd h refuse_ne_ok
    · simp only [refuse_bind, ite_refuse_eq_ok, pure_eq_ok] at h
      obtain ⟨-, rfl⟩ := h
      intro t ht
      obtain ⟨id, -, hid⟩ := List.mem_filterMap.1 ht
      obtain ⟨hfind, hscope⟩ := Option.filter_eq_some_iff.1 hid
      exact ⟨List.mem_of_find?_eq_some hfind, hscope⟩

theorem boardId_of_inScope {schema : BoardSchema} {archived : Bool} {t : Task}
    (h : inScope schema archived t = true) : t.boardId = schema.boardId := by
  simp only [inScope, Bool.and_eq_true, beq_iff_eq] at h
  exact h.1.1

/-- An operation on a board reaches tasks of the board only. -/
theorem targets_onBoard {now : Moment} {s : Store} {b : Board} {archived : Bool} {limit : Int}
    {ids filters : Json} {targets : Targets}
    (h : selectTargets now s (s.schema b) archived limit ids filters = .ok targets) :
    ∀ t ∈ targets.tasks, t ∈ s.tasks ∧ t.boardId = b.id := by
  intro t ht
  obtain ⟨hmem, hscope⟩ := targets_inScope h t ht
  exact ⟨hmem, boardId_of_inScope hscope⟩

/-- What a bulk operation has come to after some of its tasks, from the first one on. -/
def BulkRun.Upto (c : Settings) (now : Moment) (s : Store) (schema : BoardSchema)
    (r : BulkRequest) (run : BulkRun) : Prop :=
  ∃ plan done, planBulk c now s schema r = .ok plan ∧ done <+: plan.targets.tasks
    ∧ done.foldlM (BulkRun.step (s.surroundings now) plan.change) (plan.start s) = .ok run

section Upto

variable {c : Settings} {now : Moment} {s : Store} {b : Board} {schema : BoardSchema}
  {r : BulkRequest} {op : BulkOperation} {run : BulkRun} {plan : BulkPlan}

theorem runBulk_upto (h : runBulk c now s schema r = .ok (op, run)) :
    run.Upto c now s schema r := by
  simp only [runBulk, bind_eq_ok, pure_eq_ok, Prod.mk.injEq] at h
  obtain ⟨plan, hplan, run', hrun, -, rfl⟩ := h
  exact ⟨plan, plan.targets.tasks, hplan, List.prefix_rfl, hrun⟩

theorem changeUntilFailure_upto :
    (tasks : List Task) → (run : BulkRun) → ∃ done run', done <+: tasks
      ∧ done.foldlM (BulkRun.step env change) run = .ok run'
      ∧ run'.store = changeUntilFailure env change run.store tasks
  | [], run => ⟨[], run, List.prefix_rfl, rfl, rfl⟩
  | t :: tasks, run => by
    rw [changeUntilFailure]
    rcases happly : applyChange env run.store t change with e | s
    · exact ⟨[], run, List.nil_prefix, rfl, rfl⟩
    · obtain ⟨done, run', hdone, hrun, hstore⟩ :=
        changeUntilFailure_upto tasks { run with store := s, succeeded := run.succeeded ++ [t.id] }
      refine ⟨t :: done, run', List.cons_prefix_cons.2 ⟨rfl, hdone⟩, ?_, hstore⟩
      rw [List.foldlM_cons, BulkRun.step, happly]
      exact hrun

theorem bulkLeftover_of_plan (h : planBulk c now s schema r = .ok plan) :
    ∃ run : BulkRun, run.Upto c now s schema r ∧ run.store = bulkLeftover c now s schema r := by
  obtain ⟨done, run, hdone, hrun, hstore⟩ :=
    changeUntilFailure_upto plan.targets.tasks (plan.start s)
  rw [bulkLeftover, h]
  exact ⟨run, ⟨plan, done, h, hdone, hrun⟩, hstore⟩

theorem planBulk_eq_ok (h : planBulk c now s schema r = .ok plan) :
    prepareChange (s.surroundings now) s schema plan.operation r.params = .ok plan.change
      ∧ selectTargets now s schema plan.operation.reachesArchived c.bulkTasks r.taskIds r.filters
        = .ok plan.targets := by
  simp only [planBulk, bind_eq_ok, pure_eq_ok] at h
  obtain ⟨op, -, change, hchange, targets, htargets, rfl⟩ := h
  exact ⟨hchange, htargets⟩

/-- A property that every change of a task in scope keeps is kept by a bulk operation. -/
theorem BulkRun.Upto.preserves {P : Store → Prop} (h : run.Upto c now s (s.schema b) r)
    (hstep : ∀ s₁ s₂ t, t ∈ s.tasks → t.boardId = b.id → P s₁ → Applied s now b s₁ t s₂ → P s₂)
    (h0 : P s) : P run.store := by
  obtain ⟨plan, done, hplan, hdone, hrun⟩ := h
  obtain ⟨hchange, htargets⟩ := planBulk_eq_ok hplan
  refine foldlM_step_preserves done (fun s₁ s₂ t ht h₁ happly => ?_) h0 hrun
  obtain ⟨hmem, hboard⟩ := targets_onBoard htargets t (hdone.subset ht)
  exact hstep s₁ s₂ t hmem hboard h₁
    (applyChange_applied (prepareChange_concerns hchange) happly)

end Upto

end Bulk

/-! ## What no write touches -/

/-- Whether two stores have the users, the members, the boards and the columns in common. -/
structure Store.SameSchema (s s' : Store) : Prop where
  users : s'.users = s.users
  members : s'.members = s.members
  boards : s'.boards = s.boards
  columns : s'.columns = s.columns

namespace Store.SameSchema

theorem refl (s : Store) : s.SameSchema s := ⟨rfl, rfl, rfl, rfl⟩

theorem trans {s₁ s₂ s₃ : Store} (h : s₁.SameSchema s₂) (h' : s₂.SameSchema s₃) :
    s₁.SameSchema s₃ :=
  ⟨h'.users.trans h.users, h'.members.trans h.members, h'.boards.trans h.boards,
    h'.columns.trans h.columns⟩

theorem putValue (s : Store) (taskId columnId : String) (v : Json) :
    s.SameSchema (s.putValue taskId columnId v) := by
  unfold Store.putValue
  split_ifs <;> exact ⟨rfl, rfl, rfl, rfl⟩

theorem schema_eq {s s' : Store} (h : s.SameSchema s') (b : Board) : s'.schema b = s.schema b := by
  simp only [schema, columnsOf, h.columns]

theorem surroundings_eq {s s' : Store} (h : s.SameSchema s') (now : Moment) :
    s'.surroundings now = s.surroundings now := by
  have hexists : s'.userExists = s.userExists := by
    funext id
    rw [userExists, userExists, user?, user?, h.users]
  rw [surroundings, surroundings, hexists]

end Store.SameSchema

theorem Store.tasks_putValue (s : Store) (taskId columnId : String) (v : Json) :
    (s.putValue taskId columnId v).tasks = s.tasks := by
  unfold Store.putValue
  split_ifs <;> rfl

theorem Store.mem_putValue {s : Store} {taskId columnId : String} {v : Json} {row : FieldValue}
    (h : row ∈ (s.putValue taskId columnId v).values) :
    row ∈ s.values ∨ row = ⟨taskId, columnId, v⟩ := by
  unfold putValue at h
  split_ifs at h
  · obtain ⟨old, hold, rfl⟩ := List.mem_map.1 h
    split_ifs with hkey
    · obtain ⟨htask, hcolumn⟩ : old.taskId = taskId ∧ old.columnId = columnId := by simpa using hkey
      exact .inr (by rw [← htask, ← hcolumn])
    · exact .inl hold
  · simpa using h

/-- A value that is written is not seen in the other rows. -/
theorem Store.filter_putValue {s : Store} {taskId columnId : String} {v : Json}
    {p : FieldValue → Bool} (hp : ∀ w, p ⟨taskId, columnId, w⟩ = false) :
    (s.putValue taskId columnId v).values.filter p = s.values.filter p := by
  have hkey (row : FieldValue) (h : (row.taskId == taskId && row.columnId == columnId) = true) :
      p row = false ∧ p { row with value := v } = false := by
    obtain ⟨rfl, rfl⟩ : row.taskId = taskId ∧ row.columnId = columnId := by simpa using h
    exact ⟨hp row.value, hp v⟩
  unfold putValue
  split_ifs
  · rw [List.filter_map]
    have hsame : p ∘ (fun row : FieldValue => if row.taskId == taskId && row.columnId == columnId
        then { row with value := v } else row) = p := by
      funext row
      rw [Function.comp_apply]
      split_ifs with h
      · rw [(hkey row h).1, (hkey row h).2]
      · rfl
    rw [hsame]
    refine (List.map_congr_left fun row hrow => ?_).trans (List.map_id _)
    rw [if_neg fun h => ?_, id]
    exact absurd ((hkey row h).1.symm.trans (List.mem_filter.1 hrow).2) (by simp)
  · simp [List.filter_append, hp]

theorem Store.ids_updateTask (s : Store) {now : Moment} {id : String} {change : Task → Task}
    (hid : ∀ t, (change t).id = t.id) :
    (s.updateTask now id change).tasks.map (·.id) = s.tasks.map (·.id) := by
  simp only [Store.updateTask, List.map_map]
  refine List.map_congr_left fun t _ => ?_
  simp only [Function.comp_apply]
  split_ifs
  · exact hid t
  · rfl

theorem Applied.sameSchema {start : Store} {now : Moment} {b : Board} {s s' : Store} {t : Task}
    (h : Applied start now b s t s') : s.SameSchema s' := by
  cases h with
  | updated => exact ⟨rfl, rfl, rfl, rfl⟩
  | moved => exact ⟨rfl, rfl, rfl, rfl⟩
  | erased => exact ⟨rfl, rfl, rfl, rfl⟩
  | wrote => exact .putValue ..

/-! ## Sets of values -/

/-- What is kept by every write of a value that a column accepts is kept by a set of them. -/
theorem writeChecked_preserves {P : Store → Prop} {t : Task} :
    (checks : List KeyCheck) → {s : Store} →
    (∀ c v, .accepted c v ∈ checks → ∀ s, P s → P (s.putValue t.id c.id v)) → P s →
    P (writeChecked s t checks)
  | [], _, _, h0 => h0
  | .accepted c v :: checks, s, hput, h0 =>
    writeChecked_preserves checks (fun c v h => hput c v (List.mem_cons_of_mem _ h))
      (hput c v List.mem_cons_self s h0)
  | .rejected _ _ :: checks, _, hput, h0 =>
    writeChecked_preserves checks (fun c v h => hput c v (List.mem_cons_of_mem _ h)) h0

theorem mem_of_mapM_eq_ok {ε α β : Type} {f : α → Except ε β} :
    {xs : List α} → {ys : List β} → xs.mapM f = .ok ys → {y : β} →
    (y ∈ ys ↔ ∃ x ∈ xs, f x = .ok y)
  | [], ys, h, y => by
    obtain rfl := pure_eq_ok.1 h
    simp
  | x :: xs, ys, h, y => by
    simp only [List.mapM_cons, bind_eq_ok, pure_eq_ok] at h
    obtain ⟨z, hz, rest, hrest, rfl⟩ := h
    rw [List.mem_cons, List.exists_mem_cons_iff, mem_of_mapM_eq_ok hrest, hz, Except.ok.injEq,
      eq_comm]

/-- A set of values is written value by value, each of them validated for its column. -/
theorem setValues_eq_ok {env : Surroundings} {s s' : Store} {t : Task} {schema : BoardSchema}
    {values : Json} (h : setValues env s t schema values = .ok s') :
    ∃ checks, s' = writeChecked s t checks ∧ ∀ c v, .accepted c v ∈ checks →
      c ∈ schema.columns ∧ ∃ raw, validateFor env c c.name raw = .ok v := by
  unfold setValues at h
  split at h
  case h_1 f rest =>
    simp only [bind_eq_ok] at h
    obtain ⟨checks, hchecks, h⟩ := h
    split at h
    · obtain rfl := pure_eq_ok.1 h
      refine ⟨checks, rfl, fun c v hcv => ?_⟩
      obtain ⟨p, -, hp⟩ := (mem_of_mapM_eq_ok hchecks).1 hcv
      unfold checkKey at hp
      split at hp
      · exact absurd hp (by simp)
      · rename_i c' hc'
        split at hp
        · rename_i w hw
          simp only [Except.ok.injEq, KeyCheck.accepted.injEq] at hp
          obtain ⟨rfl, rfl⟩ := hp
          exact ⟨BoardSchema.mem_of_find? hc', p.2, hw⟩
        · exact absurd hp (by simp)
        · exact absurd hp (by simp)
    · exact absurd h (by simp)
  case h_2 => exact absurd h refuse_ne_ok

end BoardQuery
