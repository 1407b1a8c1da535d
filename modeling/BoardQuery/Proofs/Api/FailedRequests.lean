import BoardQuery.Proofs.Api.Runs
import BoardQuery.Proofs.Sample

/-!
# Failed requests

A request that fails leaves the store as it was, and later requests find what they would have found
without it. There is one exception: a bulk operation that has changed a task before a fault ends it
(`failed_request_keeps`).
-/

namespace BoardQuery

/-- Whether a handler that does not leave the store as it was answers no failure. -/
def Handled.Succeeds (h : Handled) : Prop :=
  ∀ reply s', h = .ok (reply, s') → reply.status < 400

namespace Handled.Succeeds

theorem answer {status : Nat} {body : Option Json} {s : Store} (h : status < 400) :
    Handled.Succeeds (.ok (⟨status, body⟩, s)) := by
  intro reply s' heq
  obtain ⟨rfl, -⟩ := Prod.mk.inj (Except.ok.inj heq)
  exact h

theorem error (reply : Reply) : Handled.Succeeds (.error reply) :=
  fun _ _ h => absurd h (by simp)

theorem bind {α : Type} {x : Except Reply α} {f : α → Handled} (h : ∀ a, (f a).Succeeds) :
    Handled.Succeeds (x >>= f) := by
  intro reply s' heq
  obtain ⟨a, -, ha⟩ := bind_eq_ok.1 heq
  exact h a reply s' ha

variable {s : Store} {r : Request}

theorem onBoard {id : String} {act : Board → User → Handled} (h : ∀ b u, (act b u).Succeeds) :
    (onBoard s r id act).Succeeds := by
  intro reply s' heq
  rcases onBoard_eq_ok heq with ⟨-, heq⟩ | ⟨b, u, -, -, -, hact⟩
  · rw [(Prod.mk.inj heq).1]
    decide
  · exact h b u reply s' hact

theorem onLimitedBoard {id : String} {act : Board → User → Handled}
    (h : ∀ b u, (act b u).Succeeds) : (onLimitedBoard s r id act).Succeeds :=
  fun reply s' heq => onBoard h reply s' (onLimitedBoard_eq_ok heq)

theorem onTask {id : String} {act : Task → Board → Handled} (h : ∀ t b, (act t b).Succeeds) :
    (onTask s r id act).Succeeds := by
  intro reply s' heq
  rcases onTask_eq_ok heq with heq | ⟨t, b, -, -, hact⟩
  · rw [(Prod.mk.inj heq).1]
    decide
  · exact h t b reply s' hact

theorem onService {act : Handled} (h : act.Succeeds) : (onService s r act).Succeeds := by
  intro reply s' heq
  rcases onService_eq_ok heq with heq | hact
  · rw [(Prod.mk.inj heq).1]
    decide
  · exact h reply s' hact

end Handled.Succeeds

section

variable {c : Settings} {now : Moment} {s s' : Store} {r : Request} {reply : Reply}

theorem handleTaskList_succeeds (b : Board) (u : User) :
    (handleTaskList c now s r b u).Succeeds := by
  refine .bind fun parameters => ?_
  cases parameters with
  | invalid errors => exact .error _
  | valid q => exact .bind fun _ => .answer (by decide)

theorem handleFilterCheck_succeeds (b : Board) : (handleFilterCheck c now s r b).Succeeds := by
  refine .bind fun raw => ?_
  split
  · exact .answer (by decide)
  · exact .error _
  · exact .error _

theorem handleSaveFilter_succeeds (b : Board) (u : User) :
    (handleSaveFilter now s r b u).Succeeds :=
  .bind fun _ => .bind fun _ => .bind fun _ => .bind fun _ => .bind fun _ => .bind fun _ =>
    .answer (by decide)

theorem handleClearValue_succeeds (t : Task) (b : Board) (column : String) :
    (handleClearValue s t b column).Succeeds := by
  unfold handleClearValue
  split
  · exact .bind fun _ => .answer (by decide)
  · exact .error _

/-- Only a bulk operation can answer a failure and leave another store. -/
theorem handleRoute_succeeds {route : Route} (hbulk : ∀ board, route ≠ .bulk board) :
    (handleRoute c now s r route).Succeeds := by
  cases route with
  | columnTypes => exact .onService (.bind fun _ => .answer (by decide))
  | columnType name =>
    refine .onService ?_
    unfold handleColumnType
    split
    · exact .bind fun _ => .answer (by decide)
    · exact .error _
  | taskList board => exact .onLimitedBoard handleTaskList_succeeds
  | filterColumns board => exact .onBoard fun _ _ => .answer (by decide)
  | filterCheck board => exact .onBoard fun b _ => handleFilterCheck_succeeds b
  | savedFilters board =>
    refine .onBoard fun b u => ?_
    split_ifs
    · exact handleSaveFilter_succeeds b u
    · exact .answer (by decide)
  | defaultFilter board id => exact .onBoard fun _ _ => .bind fun _ => .answer (by decide)
  | savedFilter board id => exact .onBoard fun _ _ => .bind fun _ => .answer (by decide)
  | bulk board => exact absurd rfl (hbulk board)
  | fieldValues task =>
    rw [handleRoute]
    refine .onTask fun t b => ?_
    split_ifs
    · exact .bind fun _ => .bind fun _ => .answer (by decide)
    · exact .answer (by decide)
  | fieldValue task column =>
    rw [handleRoute]
    exact .onTask fun t b => handleClearValue_succeeds t b column

/-- A bulk operation that is answered as a failure has been refused, or a fault has ended it. -/
theorem handleBulk_failed {b : Board} (h : handleBulk c now s r b = .ok (reply, s'))
    (hfailed : 400 ≤ reply.status) : ∃ q e, runBulk c now s (s.schema b) q = .error e
      ∧ s' = bulkLeftover c now s (s.schema b) q := by
  simp only [handleBulk, bind_eq_ok] at h
  obtain ⟨operation, -, params, -, ids, -, filters, -, h⟩ := h
  split at h
  · obtain ⟨rfl, -⟩ := Prod.mk.inj (pure_eq_ok.1 h)
    exact absurd hfailed (Nat.not_le.2 (show 200 < 400 by decide))
  · rename_i e hrun
    obtain ⟨-, rfl⟩ := Prod.mk.inj (pure_eq_ok.1 h)
    exact ⟨_, e, hrun, rfl⟩

/-! ## Operations that a fault ends -/

/-- Whether a request is a bulk operation that a fault ends after it has changed its first task.
What it leaves is what it had come to at the first task that failed. -/
def EndedMidway (c : Settings) (now : Moment) (s : Store) (r : Request) (s' : Store) : Prop :=
  ∃ board b q plan first rest s₁ e, Route.ofSegments? r.segments = some (.bulk board)
    ∧ s.board? board = some b ∧ planBulk c now s (s.schema b) q = .ok plan
    ∧ runBulk c now s (s.schema b) q = .error e ∧ failureText? e = none
    ∧ plan.targets.tasks = first :: rest
    ∧ applyChange (s.surroundings now) s first plan.change = .ok s₁
    ∧ s' = changeUntilFailure (s.surroundings now) plan.change s₁ rest

theorem bulkLeftover_of_error {schema : BoardSchema} {q : BulkRequest} {e : Refusal}
    (h : runBulk c now s schema q = .error e) :
    bulkLeftover c now s schema q = s ∨ ∃ plan first rest s₁,
      planBulk c now s schema q = .ok plan ∧ failureText? e = none
        ∧ plan.targets.tasks = first :: rest
        ∧ applyChange (s.surroundings now) s first plan.change = .ok s₁
        ∧ bulkLeftover c now s schema q
          = changeUntilFailure (s.surroundings now) plan.change s₁ rest := by
  unfold bulkLeftover
  rcases hplan : planBulk c now s schema q with e' | plan
  · exact .inl rfl
  · have hsteps : plan.targets.tasks.foldlM (BulkRun.step (s.surroundings now) plan.change)
        (plan.start s) = .error e := by
      rw [runBulk, hplan, ok_bind] at h
      rcases hrun : plan.targets.tasks.foldlM (BulkRun.step (s.surroundings now) plan.change)
        (plan.start s) with e' | run <;> rw [hrun] at h
      · rw [Except.error.inj h]
      · exact absurd h (by simp [pure, Except.pure])
    obtain ⟨htext, -⟩ := foldlM_step_eq_error _ hsteps
    rcases htasks : plan.targets.tasks with _ | ⟨first, rest⟩
    · exact .inl (by simp only [htasks, changeUntilFailure])
    · rcases happly : applyChange (s.surroundings now) s first plan.change with e' | s₁
      · exact .inl (by simp only [htasks, changeUntilFailure, happly])
      · exact .inr ⟨plan, first, rest, s₁, rfl, htext, htasks, happly, by
          simp only [htasks, changeUntilFailure, happly]⟩

theorem handleRoute_failed {route : Route} (hroute : Route.ofSegments? r.segments = some route)
    (h : handleRoute c now s r route = .ok (reply, s')) (hfailed : 400 ≤ reply.status) :
    s' = s ∨ EndedMidway c now s r s' := by
  by_cases hbulk : ∃ board, route = .bulk board
  · obtain ⟨board, rfl⟩ := hbulk
    rcases onBoard_eq_ok h with ⟨-, heq⟩ | ⟨b, u, -, hboard, -, h⟩
    · exact .inl (Prod.mk.inj heq).2
    · obtain ⟨q, e, hrun, rfl⟩ := handleBulk_failed h hfailed
      rcases bulkLeftover_of_error hrun with hsame | ⟨plan, first, rest, s₁, hplan, htext, htasks,
        happly, hleft⟩
      · exact .inl hsame
      · exact .inr ⟨board, b, q, plan, first, rest, s₁, e, hroute, hboard, hplan, hrun, htext,
          htasks, happly, hleft⟩
  · have hsucceeds := handleRoute_succeeds (not_exists.1 hbulk) reply s' h
    omega

end

/-- A request that fails leaves the store as it was, and later requests find what they would have
found without it, unless it is a bulk operation that has changed a task before a fault ends it. -/
theorem failed_request_keeps {c : Settings} {now : Moment} {s : Store} {r : Request}
    (hfailed : 400 ≤ (handle c now s r).1.status) :
    ((handle c now s r).2 = s
      ∧ ∀ later, serve c s ((now, r) :: later) = serve c s later)
    ∨ EndedMidway c now s r (handle c now s r).2 := by
  suffices hkeeps : (handle c now s r).2 = s ∨ EndedMidway c now s r (handle c now s r).2 from
    hkeeps.imp_left fun hsame => ⟨hsame, fun later => by rw [serve_cons, hsame]⟩
  unfold handle at hfailed ⊢
  split at hfailed
  · exact .inl rfl
  · rename_i route hroute
    split_ifs at hfailed ⊢
    · rcases hanswer : handleRoute c now s r route with reply | ⟨reply, s'⟩
      · exact .inl rfl
      · rw [hanswer] at hfailed
        exact handleRoute_failed hroute hanswer hfailed
    · rcases hanswer : handleRoute c now s r route with reply | ⟨reply, s'⟩
      · exact .inl rfl
      · rw [hanswer] at hfailed
        exact handleRoute_failed hroute hanswer hfailed
    · exact .inl rfl

/-- The board with a saved filter. -/
def Sample.savedOpen : Store :=
  { twoBoards with
    filters := [⟨"mine", "u", board.id, "Mine", none, .arr [], false, false, 0, none,
      Moment.first⟩] }

/-- The request to list tasks by the saved filter, which is empty, and to save a copy of it. -/
def Sample.copyRequest : Request where
  method := "POST"
  path := "/api/boards/board/tasks/filter"
  authorization := some "Bearer token"
  query := []
  body := .document (.obj [("saved_filter_id", .str "mine"), ("save_filter", .bool true),
    ("filter_name", .str "Copy")])

/-- The use of the filter is not counted, since an empty filter cannot be saved. -/
theorem failed_request_keeps_uses :
    (handle .usual Moment.first Sample.savedOpen Sample.copyRequest).1.status = 400
    ∧ (handle .usual Moment.first Sample.savedOpen Sample.copyRequest).2
      = Sample.savedOpen := by
  have hstatus : (handle .usual Moment.first Sample.savedOpen
      Sample.copyRequest).1.status = 400 := by decide +kernel
  refine ⟨hstatus, ?_⟩
  rcases failed_request_keeps (Nat.le_of_eq hstatus.symm) with ⟨hsame, -⟩ | ⟨board, hended⟩
  · exact hsame
  · obtain ⟨-, -, -, -, -, -, -, hroute, -⟩ := hended
    have hlist : Route.ofSegments? Sample.copyRequest.segments = some (.taskList "board") := by
      decide +kernel
    rw [hlist] at hroute
    exact absurd hroute (by simp)

/-! ## A label that is no list -/

/-- A column that has become one of labels, with a number in it from before. -/
def Sample.relabelled : Store :=
  { store (column "tags" .labels []) [task "s", task "t"] [("t", .int 5)] with
    users := [⟨"u", "u@example.com", none, "token", true⟩]
    members := [⟨"u", board.workspaceId⟩] }

/-- The request to add a label to both tasks. -/
def Sample.labelRequest : Request where
  method := "POST"
  path := "/api/boards/board/tasks/bulk"
  authorization := some "Bearer token"
  query := []
  body := .document (.obj [("operation", .str "add_labels"),
    ("params", .obj [("column", .str "tags"), ("labels", .arr [.str "a"])]),
    ("task_ids", .arr [.str "s", .str "t"])])

/-- The label of the first task is stored, although the request fails on the second. -/
theorem failed_request_not_kept :
    400 ≤ (handle .usual Moment.first Sample.relabelled Sample.labelRequest).1.status
    ∧ (handle .usual Moment.first Sample.relabelled Sample.labelRequest).2
      ≠ Sample.relabelled := by
  refine ⟨by decide +kernel, fun h => ?_⟩
  have hcount : (handle .usual Moment.first Sample.relabelled Sample.labelRequest).2.values.length
      = 2 := by decide +kernel
  rw [h] at hcount
  exact absurd hcount (by decide)

end BoardQuery
