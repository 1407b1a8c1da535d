import BoardQuery.Proofs.Service.OneTask

/-!
# Workspaces

What of a store belongs to a workspace (`Store.within`), in a store whose tasks and values keep to
the workspaces of their boards (`Store.Separated`). What is read of a workspace is found in its part
of the store. A write to a task is the same write to the part of its workspace, and it leaves the
parts of all others alone.
-/

namespace BoardQuery

namespace Store

/-- Whether an id is that of a board of a workspace. -/
def hasBoard (s : Store) (workspace id : String) : Bool :=
  s.boards.any fun b => b.id == id && b.workspaceId == workspace

/-- Whether an id is that of a task of a workspace. -/
def hasTask (s : Store) (workspace id : String) : Bool :=
  s.tasks.any fun t => t.id == id && t.workspaceId == workspace

/-- The users, and everything that belongs to a workspace but the saved filters of its boards. -/
def within (s : Store) (workspace : String) : Store where
  users := s.users
  members := s.members.filter (·.workspaceId == workspace)
  boards := s.boards.filter (·.workspaceId == workspace)
  columns := s.columns.filter fun c => s.hasBoard workspace c.boardId
  tasks := s.tasks.filter (·.workspaceId == workspace)
  values := s.values.filter fun v => s.hasTask workspace v.taskId
  filters := []
  filtersWritten := 0

/-- The saved filters of the boards of a workspace. -/
def filtersWithin (s : Store) (workspace : String) : List SavedFilter :=
  s.filters.filter fun f => s.hasBoard workspace f.boardId

end Store

/-- The id of the filter that is the n-th to be written. -/
def filterId (n : Nat) : String :=
  "saved-" ++ toString n

/-- Whether ids are those of one row each, the workspace of every task is that of its board, and
every value is in a column of the board of its task. An id that is still to be given to a filter is
not yet in use. -/
structure Store.Separated (s : Store) : Prop where
  boardIds : (s.boards.map (·.id)).Nodup
  columnIds : (s.columns.map (·.id)).Nodup
  taskIds : (s.tasks.map (·.id)).Nodup
  filterIds : (s.filters.map (·.id)).Nodup
  unwritten : ∀ f ∈ s.filters, ∀ n, s.filtersWritten < n → f.id ≠ filterId n
  placed : ∀ t ∈ s.tasks, ∃ b ∈ s.boards, b.id = t.boardId ∧ b.workspaceId = t.workspaceId
  valued : ∀ v ∈ s.values, ∀ t ∈ s.tasks, ∀ c ∈ s.columns, t.id = v.taskId → c.id = v.columnId →
    c.boardId = t.boardId

theorem filter_filter_of_imp {α : Type} {p q : α → Bool} {xs : List α}
    (h : ∀ x ∈ xs, q x = true → p x = true) : (xs.filter p).filter q = xs.filter q := by
  rw [List.filter_filter]
  refine List.filter_congr fun x hx => ?_
  by_cases hq : q x = true
  · rw [hq, h x hx hq, Bool.and_true]
  · rw [Bool.eq_false_of_not_eq_true hq, Bool.false_and]

section Keys

variable {α : Type} (key : α → String) {p : α → Bool}

theorem find?_filter_key : {xs : List α} → (xs.map key).Nodup → (k : String) →
    (xs.filter p).find? (key · == k) = (xs.find? (key · == k)).filter p
  | [], _, _ => rfl
  | x :: xs, hnodup, k => by
    rw [List.map_cons, List.nodup_cons] at hnodup
    have hrest := find?_filter_key hnodup.2 k
    by_cases hx : key x = k
    · -- No other element has the key, so that what is left out is missing.
      have hnone : (xs.filter p).find? (key · == k) = none := by
        rw [List.find?_eq_none]
        intro y hy hkey
        refine hnodup.1 (List.mem_map.2 ⟨y, List.mem_of_mem_filter hy, ?_⟩)
        exact (beq_iff_eq.1 hkey).trans hx.symm
      rw [List.filter_cons, List.find?_cons_of_pos (by simpa using hx)]
      split_ifs with hp
      · rw [List.find?_cons_of_pos (by simpa using hx), Option.filter_some, if_pos hp]
      · rw [Option.filter_some, if_neg hp, hnone]
    · rw [List.filter_cons, List.find?_cons_of_neg (by simpa using hx), ← hrest]
      split_ifs
      · exact List.find?_cons_of_neg (by simpa using hx)
      · rfl

theorem any_key {xs : List α} (hnodup : (xs.map key).Nodup) {x : α} (hx : x ∈ xs) :
    (xs.any fun y => key y == key x && p y) = p x := by
  rw [Bool.eq_iff_iff, List.any_eq_true]
  constructor
  · rintro ⟨y, hy, h⟩
    obtain ⟨hkey, hp⟩ := Bool.and_eq_true_iff.1 h
    rwa [← List.inj_on_of_nodup_map hnodup hy hx (beq_iff_eq.1 hkey)]
  · intro hp
    exact ⟨x, hx, by simp [hp]⟩

end Keys

namespace Store

variable {s s' : Store} {W V id : String}

/-! ## Reads -/

theorem hasBoard_eq_true :
    s.hasBoard W id = true ↔ ∃ b ∈ s.boards, b.id = id ∧ b.workspaceId = W := by
  simp [hasBoard]

theorem hasTask_eq_true : s.hasTask W id = true ↔ ∃ t ∈ s.tasks, t.id = id ∧ t.workspaceId = W := by
  simp [hasTask]

theorem hasBoard_within (s : Store) (W : String) : (s.within W).hasBoard W = s.hasBoard W := by
  funext id
  rw [hasBoard, hasBoard, within, List.any_filter]
  exact congrArg (List.any s.boards) (funext fun b => by cases b.workspaceId == W <;> simp)

theorem hasTask_within (s : Store) (W : String) : (s.within W).hasTask W = s.hasTask W := by
  funext id
  rw [hasTask, hasTask, within, List.any_filter]
  exact congrArg (List.any s.tasks) (funext fun t => by cases t.workspaceId == W <;> simp)

theorem SameSchema.hasBoard_eq (h : s.SameSchema s') : s'.hasBoard W = s.hasBoard W := by
  funext id
  rw [hasBoard, hasBoard, h.boards]

theorem hasTask_congr (h : s'.tasks = s.tasks) : s'.hasTask W = s.hasTask W := by
  funext id
  rw [hasTask, hasTask, h]

theorem isMember_within (userId : String) :
    (s.within W).isMember userId W = s.isMember userId W := by
  rw [Bool.eq_iff_iff, isMember, isMember, List.contains_iff_mem, List.contains_iff_mem, within,
    List.mem_filter]
  simp

theorem columns_within (h : s.hasBoard W id = true) :
    (s.within W).columns.filter (·.boardId == id) = s.columns.filter (·.boardId == id) :=
  filter_filter_of_imp fun c _ hc => by
    rw [beq_iff_eq.1 hc, h]

theorem columnsOf_within (h : s.hasBoard W id = true) :
    (s.within W).columnsOf id = s.columnsOf id := by
  rw [columnsOf, columnsOf, columns_within h]

theorem valuesOf_within (h : s.hasTask W id = true) : (s.within W).valuesOf id = s.valuesOf id := by
  refine filter_filter_of_imp fun v _ hv => ?_
  rw [beq_iff_eq.1 hv, h]

theorem value?_within (h : s.hasTask W id = true) (columnId : String) :
    (s.within W).value? id columnId = s.value? id columnId := by
  rw [value?, value?, ← List.head?_filter, ← List.head?_filter, within, filter_filter_of_imp]
  intro v _ hv
  rw [beq_iff_eq.1 (Bool.and_eq_true_iff.1 hv).1, h]

namespace Separated

variable (hs : s.Separated)

include hs

theorem hasBoard_id {b : Board} (hb : b ∈ s.boards) :
    s.hasBoard W b.id = (b.workspaceId == W) :=
  any_key Board.id hs.boardIds hb

theorem hasTask_id {t : Task} (ht : t ∈ s.tasks) : s.hasTask W t.id = (t.workspaceId == W) :=
  any_key Task.id hs.taskIds ht

theorem hasBoard_of_task {t : Task} (ht : t ∈ s.tasks) :
    s.hasBoard W t.boardId = (t.workspaceId == W) := by
  obtain ⟨b, hb, hid, hworkspace⟩ := hs.placed t ht
  rw [← hid, hs.hasBoard_id hb, hworkspace]

theorem hasBoard_other (h : s.hasBoard W id = true) (hne : V ≠ W) : s.hasBoard V id = false := by
  obtain ⟨b, hb, rfl, rfl⟩ := hasBoard_eq_true.1 h
  rw [hs.hasBoard_id hb]
  simpa using hne.symm

theorem hasTask_other (h : s.hasTask W id = true) (hne : V ≠ W) : s.hasTask V id = false := by
  obtain ⟨t, ht, rfl, rfl⟩ := hasTask_eq_true.1 h
  rw [hs.hasTask_id ht]
  simpa using hne.symm

theorem board?_eq {b : Board} (hb : b ∈ s.boards) : s.board? b.id = some b :=
  find?_key Board.id hs.boardIds hb

theorem board?_within (id : String) :
    (s.within W).board? id = (s.board? id).filter (·.workspaceId == W) :=
  find?_filter_key Board.id hs.boardIds id

theorem task?_within (id : String) :
    (s.within W).task? id = (s.task? id).filter (·.workspaceId == W) :=
  find?_filter_key Task.id hs.taskIds id

theorem column?_within (id : String) :
    (s.within W).column? id = (s.column? id).filter fun c => s.hasBoard W c.boardId :=
  find?_filter_key BoardColumn.id hs.columnIds id

theorem board?_within_of (h : s.hasBoard W id = true) : (s.within W).board? id = s.board? id := by
  obtain ⟨b, hb, rfl, hworkspace⟩ := hasBoard_eq_true.1 h
  rw [hs.board?_within, hs.board?_eq hb, Option.filter_some, if_pos (by simpa using hworkspace)]

theorem tasksOf_within (h : s.hasBoard W id = true) :
    (s.within W).tasks.filter (·.boardId == id) = s.tasks.filter (·.boardId == id) := by
  refine filter_filter_of_imp fun t ht hid => ?_
  rw [← hs.hasBoard_of_task ht, beq_iff_eq.1 hid, h]

end Separated

section Selection

variable {schema : BoardSchema} {b : Board} {t : Task}

theorem schema_within (h : s.hasBoard W b.id = true) : (s.within W).schema b = s.schema b := by
  rw [schema, schema, columnsOf_within h]

theorem eval_within (h : s.hasTask W t.id = true) :
    (c : Condition) → c.eval (s.within W) t = c.eval s t
  | .always _ => rfl
  | .onAttribute .. => rfl
  | .onValue columnId test => by
    rw [Condition.eval, Condition.eval, within, List.any_filter]
    refine congrArg (fun p => Truth.ofBool (List.any s.values p)) (funext fun v => ?_)
    by_cases hv : v.taskId = t.id
    · simp [hv, h]
    · simp [hv]
  | .not c => by rw [Condition.eval, Condition.eval, eval_within h c]
  | .and c d => by rw [Condition.eval, Condition.eval, eval_within h c, eval_within h d]
  | .or c d => by rw [Condition.eval, Condition.eval, eval_within h c, eval_within h d]

theorem workspaceId_of_inScope {archived : Bool} (h : inScope schema archived t = true) :
    t.workspaceId = schema.workspaceId := by
  simp only [inScope, Bool.and_eq_true, beq_iff_eq] at h
  exact h.1.2

theorem Separated.selectTasks_within (hs : s.Separated) (hschema : schema.workspaceId = W)
    (archived : Bool) (c : Option Condition) :
    selectTasks (s.within W) schema archived c = selectTasks s schema archived c := by
  rw [selectTasks, selectTasks, within, List.filter_filter]
  refine List.filter_congr fun t ht => ?_
  rcases hin : inScope schema archived t with _ | _
  · rfl
  · have hworkspace : t.workspaceId = W := (workspaceId_of_inScope hin).trans hschema
    have hhas : s.hasTask W t.id = true := by
      rw [hs.hasTask_id ht, hworkspace, beq_self_eq_true]
    have hselects : (fun c : Condition => c.selects (s.within W) t) = fun c => c.selects s t :=
      funext fun c => congrArg Truth.isYes (eval_within hhas c)
    have hkept : (t.workspaceId == W) = true := beq_iff_eq.2 hworkspace
    rw [hkept, Bool.and_true]
    exact congrArg (fun p => true && c.all p) hselects

end Selection

/-! ## Writes -/

section Writes

variable {now : Moment} {change : Task → Task}

theorem hasTask_updateTask (hid : ∀ t, (change t).id = t.id)
    (hworkspace : ∀ t, (change t).workspaceId = t.workspaceId) (taskId : String) :
    (s.updateTask now taskId change).hasTask W = s.hasTask W := by
  funext id
  rw [hasTask, hasTask, updateTask, List.any_map]
  refine congrArg (List.any s.tasks) (funext fun t => ?_)
  rw [Function.comp_apply]
  split_ifs
  · simp only [hid, hworkspace]
  · rfl

theorem hasTask_eraseTask (taskId : String) :
    (s.eraseTask taskId).hasTask W id = (s.hasTask W id && id != taskId) := by
  rw [Bool.eq_iff_iff, Bool.and_eq_true, hasTask_eq_true, hasTask_eq_true, eraseTask, bne_iff_ne]
  constructor
  · rintro ⟨t, ht, rfl, hworkspace⟩
    obtain ⟨ht, hne⟩ := List.mem_filter.1 ht
    exact ⟨⟨t, ht, rfl, hworkspace⟩, by simpa using hne⟩
  · rintro ⟨⟨t, ht, rfl, hworkspace⟩, hne⟩
    exact ⟨t, List.mem_filter.2 ⟨ht, by simpa using hne⟩, rfl, hworkspace⟩

theorem within_updateTask (hid : ∀ t, (change t).id = t.id)
    (hworkspace : ∀ t, (change t).workspaceId = t.workspaceId) (taskId : String) :
    (s.updateTask now taskId change).within W = (s.within W).updateTask now taskId change := by
  rw [within, hasTask_updateTask hid hworkspace]
  simp only [updateTask, within, mk.injEq, true_and, and_true]
  refine ⟨rfl, ?_⟩
  rw [List.filter_map]
  refine congrArg (List.map _) (List.filter_congr fun t _ => ?_)
  rw [Function.comp_apply]
  split_ifs
  · simp only [hworkspace]
  · rfl

theorem updateTask_of_not (h : ∀ t ∈ s.tasks, t.id ≠ id) : s.updateTask now id change = s := by
  have htasks : s.tasks.map (fun t =>
      if t.id == id && change t != t then { change t with updatedAt := .ofClock now } else t)
        = s.tasks := by
    refine (List.map_congr_left fun t ht => ?_).trans (List.map_id _)
    exact if_neg (by simp [h t ht])
  rw [updateTask, htasks]

theorem ne_of_mem_within (h : s.hasTask V id = false) : ∀ t ∈ (s.within V).tasks, t.id ≠ id := by
  intro t ht hid
  obtain ⟨ht, hworkspace⟩ := List.mem_filter.1 ht
  have hfound := hasTask_eq_true.2 ⟨t, ht, hid, beq_iff_eq.1 hworkspace⟩
  exact absurd (hfound.symm.trans h) (by simp)

theorem ne_of_mem_values_within (h : s.hasTask V id = false) :
    ∀ v ∈ (s.within V).values, v.taskId ≠ id := by
  intro v hv hid
  have hfound := (List.mem_filter.1 hv).2
  rw [hid, h] at hfound
  exact absurd hfound (by simp)

theorem updateTask_outside (hid : ∀ t, (change t).id = t.id)
    (hworkspace : ∀ t, (change t).workspaceId = t.workspaceId) (h : s.hasTask V id = false) :
    (s.updateTask now id change).within V = s.within V := by
  rw [within_updateTask hid hworkspace, updateTask_of_not (ne_of_mem_within h)]

theorem within_eraseTask (taskId : String) :
    (s.eraseTask taskId).within W = (s.within W).eraseTask taskId := by
  have hhas : (s.eraseTask taskId).hasTask W = fun id => s.hasTask W id && id != taskId :=
    funext fun _ => hasTask_eraseTask taskId
  rw [within, hhas]
  simp only [eraseTask, within, mk.injEq, true_and, and_true]
  refine ⟨rfl, ?_, ?_⟩
  · rw [List.filter_filter, List.filter_filter]
    exact List.filter_congr fun t _ => Bool.and_comm ..
  · rw [List.filter_filter, List.filter_filter]
    refine List.filter_congr fun v _ => ?_
    cases s.hasTask W v.taskId <;> simp

theorem eraseTask_of_not (htasks : ∀ t ∈ s.tasks, t.id ≠ id)
    (hvalues : ∀ v ∈ s.values, v.taskId ≠ id) : s.eraseTask id = s := by
  have hkept : s.tasks.filter (·.id != id) = s.tasks :=
    List.filter_eq_self.2 fun t ht => by simpa using htasks t ht
  have hrows : s.values.filter (·.taskId != id) = s.values :=
    List.filter_eq_self.2 fun v hv => by simpa using hvalues v hv
  rw [eraseTask, hkept, hrows]

theorem eraseTask_outside (h : s.hasTask V id = false) :
    (s.eraseTask id).within V = s.within V := by
  rw [within_eraseTask, eraseTask_of_not (ne_of_mem_within h) (ne_of_mem_values_within h)]

/-- A change of values is one of the values of a workspace, if no value comes to another task. -/
theorem within_values {values : List FieldValue} :
    ({ s with values } : Store).within W
      = { s.within W with values := values.filter fun v => s.hasTask W v.taskId } := rfl

theorem filter_map_value (p : String → Bool) (taskId columnId : String) (value : Json)
    (rows : List FieldValue) :
    (rows.map fun v =>
        if v.taskId == taskId && v.columnId == columnId then { v with value } else v).filter
      (fun v => p v.taskId) = (rows.filter fun v => p v.taskId).map fun v =>
        if v.taskId == taskId && v.columnId == columnId then { v with value } else v := by
  rw [List.filter_map]
  refine congrArg (List.map _) (List.filter_congr fun v _ => ?_)
  rw [Function.comp_apply]
  split_ifs <;> rfl

theorem within_putValue (h : s.hasTask W id = true) (columnId : String) (value : Json) :
    (s.putValue id columnId value).within W = (s.within W).putValue id columnId value := by
  rw [putValue, putValue, value?_within h]
  split_ifs
  · rw [within_values, filter_map_value]
    rfl
  · rw [within_values, List.filter_append]
    simp only [List.filter_cons, h, if_true, List.filter_nil]
    rfl

theorem putValue_outside (h : s.hasTask V id = false) (columnId : String) (value : Json) :
    (s.putValue id columnId value).within V = s.within V := by
  rw [putValue]
  split_ifs
  · rw [within_values, filter_map_value]
    have hrows : ((s.within V).values.map fun v =>
        if v.taskId == id && v.columnId == columnId then { v with value } else v)
          = (s.within V).values := by
      refine (List.map_congr_left fun v hv => ?_).trans (List.map_id _)
      exact if_neg (by simp [ne_of_mem_values_within h v hv])
    exact congrArg (fun values => { s.within V with values }) hrows
  · rw [within_values, List.filter_append]
    simp only [List.filter_cons, h, Bool.false_eq_true, if_false, List.filter_nil, List.append_nil]
    rfl

theorem within_eraseValue (taskId columnId : String) :
    (s.eraseValue taskId columnId).within W = (s.within W).eraseValue taskId columnId := by
  rw [eraseValue, eraseValue, within_values, List.filter_filter]
  refine congrArg (fun values => { s.within W with values }) ?_
  rw [within, List.filter_filter]
  exact List.filter_congr fun v _ => Bool.and_comm ..

theorem eraseValue_outside (h : s.hasTask V id = false) (columnId : String) :
    (s.eraseValue id columnId).within V = s.within V := by
  have hrows : (s.within V).values.filter (fun v => !(v.taskId == id && v.columnId == columnId))
      = (s.within V).values :=
    List.filter_eq_self.2 fun v hv => by simp [ne_of_mem_values_within h v hv]
  rw [within_eraseValue, eraseValue, hrows]

theorem within_replaceValues {rows : List FieldValue} (hrows : ∀ v ∈ rows, v.taskId = id)
    (h : s.hasTask W id = true) :
    (s.replaceValues id rows).within W = (s.within W).replaceValues id rows := by
  have hall : rows.filter (fun v => s.hasTask W v.taskId) = rows :=
    List.filter_eq_self.2 fun v hv => by rw [hrows v hv, h]
  rw [replaceValues, replaceValues, within_values, List.filter_append, hall, List.filter_filter]
  refine congrArg (fun values => { s.within W with values := values ++ rows }) ?_
  rw [within, List.filter_filter]
  exact List.filter_congr fun v _ => Bool.and_comm ..

theorem replaceValues_outside {rows : List FieldValue} (hrows : ∀ v ∈ rows, v.taskId = id)
    (h : s.hasTask V id = false) : (s.replaceValues id rows).within V = s.within V := by
  have hnone : rows.filter (fun v => s.hasTask V v.taskId) = [] :=
    List.filter_eq_nil_iff.2 fun v hv => by rw [hrows v hv, h]; simp
  rw [replaceValues, within_values, List.filter_append, hnone, List.append_nil, List.filter_filter]
  refine congrArg (fun values => { s.within V with values }) (List.filter_congr fun v _ => ?_)
  by_cases hv : v.taskId = id
  · simp [hv, h]
  · simp [hv]

end Writes

end Store

end BoardQuery
