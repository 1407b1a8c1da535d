import BoardQuery.Proofs.Service.Writes

/-!
# Changes under savepoints

A bulk operation makes each change under a savepoint and commits at its end. A savepoint that is the
first of a connection opens a transaction, and releasing it closes that again, which stores the
change for good. One that is rolled back to stays, and so does its transaction. Therefore an
operation that comes to its end stores what its run has come to (`changeAll_commit`), and one that
a fault ends leaves what it had come to at the first change that failed (`changeAll_close`).
-/

namespace BoardQuery

/-- A connection at work on a store: what is stored for good, what the connection sees, and whether
a transaction is open. -/
structure Connection where
  stored : Store
  seen : Store
  inTransaction : Bool

namespace Connection

/-- A connection that has not written anything. -/
def on (s : Store) : Connection := ⟨s, s, false⟩

/-- What has been seen is stored for good. -/
def commit (x : Connection) : Connection := on x.seen

/-- What has not been stored for good is dropped. -/
def close (x : Connection) : Connection := on x.stored

/-- The savepoint of a change is released. -/
def release (x : Connection) (s : Store) : Connection :=
  if x.inTransaction then { x with seen := s } else on s

/-- A change is rolled back to its savepoint. -/
def rollBack (x : Connection) : Connection := { x with inTransaction := true }

/-- Makes a change of one task after another, each under a savepoint, until a fault ends it all. -/
def changeAll (env : Surroundings) (change : TaskChange) : Connection → List Task → Connection
  | x, [] => x
  | x, t :: tasks =>
    match applyChange env x.seen t change with
    | .ok s => changeAll env change (x.release s) tasks
    | .error r =>
      if (failureText? r).isSome then changeAll env change x.rollBack tasks else x.rollBack

@[simp]
theorem seen_release (x : Connection) (s : Store) : (x.release s).seen = s := by
  unfold release
  split_ifs <;> rfl

@[simp]
theorem seen_rollBack (x : Connection) : x.rollBack.seen = x.seen := rfl

variable {env : Surroundings} {change : TaskChange}

theorem seen_changeAll : (tasks : List Task) → (x : Connection) → (run : BulkRun) →
    {run' : BulkRun} → run.store = x.seen → tasks.foldlM (BulkRun.step env change) run = .ok run' →
    (changeAll env change x tasks).seen = run'.store
  | [], x, run, _, hstore, h => by
    obtain rfl := pure_eq_ok.1 h
    exact hstore.symm
  | t :: tasks, x, run, run', hstore, h => by
    rw [List.foldlM_cons, bind_eq_ok] at h
    obtain ⟨next, hnext, h⟩ := h
    rw [BulkRun.step, hstore] at hnext
    rw [changeAll]
    rcases happly : applyChange env x.seen t change with r | s <;>
      simp only [happly] at hnext ⊢
    · rcases htext : failureText? r with _ | text <;> simp only [htext] at hnext
      · exact absurd hnext (by simp)
      · obtain rfl := Except.ok.inj hnext
        exact seen_changeAll tasks x.rollBack _ rfl h
    · obtain rfl := Except.ok.inj hnext
      exact seen_changeAll tasks (x.release s) _ (seen_release x s).symm h

/-- Once a transaction is open, nothing is stored for good before it is committed. -/
theorem stored_changeAll_open : (tasks : List Task) → (x : Connection) → x.inTransaction = true →
    (changeAll env change x tasks).stored = x.stored
  | [], _, _ => rfl
  | t :: tasks, x, hopen => by
    rw [changeAll]
    split
    · rename_i s _
      have hrelease : x.release s = { x with seen := s } := if_pos hopen
      rw [hrelease, stored_changeAll_open tasks { x with seen := s } hopen]
    · split_ifs
      · exact stored_changeAll_open tasks x.rollBack rfl
      · rfl

theorem stored_changeAll : (tasks : List Task) → (s : Store) →
    (changeAll env change (on s) tasks).stored = changeUntilFailure env change s tasks
  | [], _ => rfl
  | t :: tasks, s => by
    rw [changeAll, changeUntilFailure]
    have hseen : (on s).seen = s := rfl
    rw [hseen]
    rcases applyChange env s t change with r | s'
    · dsimp only
      split_ifs
      · exact stored_changeAll_open tasks (on s).rollBack rfl
      · rfl
    · exact stored_changeAll tasks s'

end Connection

section

variable {c : Settings} {now : Moment} {s : Store} {schema : BoardSchema} {r : BulkRequest}
  {op : BulkOperation} {run : BulkRun} {plan : BulkPlan}

open Connection

/-- An operation that comes to its end and commits stores what its run has come to. -/
theorem changeAll_commit (hplan : planBulk c now s schema r = .ok plan)
    (h : runBulk c now s schema r = .ok (op, run)) :
    (changeAll (s.surroundings now) plan.change (on s) plan.targets.tasks).commit.stored
      = run.store := by
  rw [runBulk, hplan] at h
  simp only [ok_bind, bind_eq_ok, pure_eq_ok, Prod.mk.injEq] at h
  obtain ⟨run', hrun, -, rfl⟩ := h
  exact seen_changeAll plan.targets.tasks (on s) _ rfl hrun

/-- An operation that ends without committing leaves what it had come to before a change failed. -/
theorem changeAll_close (hplan : planBulk c now s schema r = .ok plan) :
    (changeAll (s.surroundings now) plan.change (on s) plan.targets.tasks).close.stored
      = bulkLeftover c now s schema r := by
  rw [bulkLeftover, hplan]
  exact stored_changeAll plan.targets.tasks s

end

end BoardQuery
