import BoardQuery.Proofs.Service.OneByOne

/-!
# What comes of each task of a batch

A bulk operation comes to each of its tasks once, and what it does to one task is not seen by the
others. So every task meets the change as it was before the batch: the change is carried out of it,
or it stays as it was and is told as failed (`foldlM_step_settles`). The batch comes to its end
unless the change of a task fails without a text, and whether it does can be told from the task as
it was before the batch (`foldlM_step_ends_iff`).
-/

namespace BoardQuery

/-- Whether a task is changed between two stores, and nothing else happens to it. -/
def TaskChange.CarriedOut (change : TaskChange) (env : Surroundings) (t : Task) (s s' : Store) :
    Prop :=
  ∃ s₁ s₂, s.SameTask t.id s₁ ∧ applyChange env s₁ t change = .ok s₂ ∧ s₂.SameTask t.id s'

/-- Whether the change of a task, as it is in a store, fails with a text. -/
def TaskChange.FailsWith (change : TaskChange) (env : Surroundings) (t : Task) (s : Store)
    (text : String) : Prop :=
  ∃ s₁ e, s.SameTask t.id s₁ ∧ applyChange env s₁ t change = .error e ∧ failureText? e = some text

/-- Whether an outcome is a failure without a text, so that it cannot be told. -/
def Untold {α : Type} (x : Outcome α) : Prop :=
  ∃ e, x = .error e ∧ failureText? e = none

/-- Whether the change of a task fails without a text. -/
def TaskChange.Escapes (change : TaskChange) (env : Surroundings) (t : Task) (s : Store) : Prop :=
  Untold (applyChange env s t change)

/-- What came of some tasks between two states of a run: the ids for which the change was carried
out, and those that failed, each with a text. -/
structure BulkRun.Settles (run run' : BulkRun) (env : Surroundings) (change : TaskChange)
    (tasks : List Task) (done : List String) (refused : List (String × String)) : Prop where
  succeeded : run'.succeeded = run.succeeded ++ done
  failed : run'.failed = run.failed ++ refused
  once : (done ++ refused.map (·.1)).Perm (tasks.map (·.id))
  kept : ∀ key ∉ done, run.store.SameTask key run'.store
  carriedOut : ∀ t ∈ tasks, t.id ∈ done → change.CarriedOut env t run.store run'.store
  told : ∀ entry ∈ refused, ∃ t ∈ tasks, t.id = entry.1 ∧ change.FailsWith env t run.store entry.2

theorem BulkRun.Settles.mem_ids {run run' : BulkRun} {env : Surroundings} {change : TaskChange}
    {tasks : List Task} {done : List String} {refused : List (String × String)}
    (h : run.Settles run' env change tasks done refused) {key : String} (hkey : key ∈ done) :
    key ∈ tasks.map (·.id) :=
  h.once.subset (List.mem_append_left _ hkey)

section Steps

variable {start : Store} {now : Moment} {b : Board} {change : TaskChange} {t : Task} {s s' : Store}

theorem TaskChange.CarriedOut.before {env : Surroundings} (h : change.CarriedOut env t s s')
    {s₀ : Store} (hsame : s₀.SameTask t.id s) : change.CarriedOut env t s₀ s' := by
  obtain ⟨s₁, s₂, hbefore, happly, hafter⟩ := h
  exact ⟨s₁, s₂, hsame.trans hbefore, happly, hafter⟩

theorem TaskChange.FailsWith.before {env : Surroundings} {text : String}
    (h : change.FailsWith env t s text) {s₀ : Store} (hsame : s₀.SameTask t.id s) :
    change.FailsWith env t s₀ text := by
  obtain ⟨s₁, e, hbefore, happly, htext⟩ := h
  exact ⟨s₁, e, hsame.trans hbefore, happly, htext⟩

/-- A step carries the change out or tells of its failure. -/
theorem step_cases {env : Surroundings} {run next : BulkRun}
    (h : BulkRun.step env change run t = .ok next) :
    (∃ s, applyChange env run.store t change = .ok s
      ∧ next = { run with store := s, succeeded := run.succeeded ++ [t.id] })
    ∨ ∃ e text, applyChange env run.store t change = .error e ∧ failureText? e = some text
      ∧ next = { run with failed := run.failed ++ [(t.id, text)] } := by
  unfold BulkRun.step at h
  split at h
  · rename_i s happly
    exact .inl ⟨s, happly, (Except.ok.inj h).symm⟩
  · rename_i e happly
    split at h
    · rename_i text htext
      exact .inr ⟨e, text, happly, htext, (Except.ok.inj h).symm⟩
    · exact absurd h (by simp)

theorem step_error_iff {env : Surroundings} {run : BulkRun} :
    (∃ e, BulkRun.step env change run t = .error e) ↔ change.Escapes env t run.store := by
  unfold BulkRun.step TaskChange.Escapes Untold
  rcases applyChange env run.store t change with e | s
  · rcases htext : failureText? e with _ | text <;> simp [htext]
  · simp

/-- Every task of a run meets the change as it was before the run. -/
theorem foldlM_step_settles (hconcerns : change.Concerns start b) :
    (tasks : List Task) → (tasks.map (·.id)).Nodup → {run run' : BulkRun} →
    tasks.foldlM (BulkRun.step (start.surroundings now) change) run = .ok run' →
    ∃ done refused, run.Settles run' (start.surroundings now) change tasks done refused
  | [], _, run, _, h => by
    obtain rfl := pure_eq_ok.1 h
    exact ⟨[], [], by simp, by simp, .refl _, fun key _ => .refl key _, by simp, by simp⟩
  | t :: tasks, hnodup, run, run', h => by
    rw [List.foldlM_cons, bind_eq_ok] at h
    obtain ⟨next, hnext, h⟩ := h
    rw [List.map_cons, List.nodup_cons] at hnodup
    obtain ⟨done, refused, hlater⟩ := foldlM_step_settles hconcerns tasks hnodup.2 h
    have hother (u : Task) (hu : u ∈ tasks) : u.id ≠ t.id :=
      fun hid => hnodup.1 (List.mem_map.2 ⟨u, hu, hid⟩)
    have hnever : t.id ∉ done := fun hid => hnodup.1 (hlater.mem_ids hid)
    rcases step_cases hnext with ⟨s, happly, rfl⟩ | ⟨e, text, happly, htext, rfl⟩
    · have hframe (key : String) (hne : key ≠ t.id) : run.store.SameTask key s :=
        (applyChange_applied hconcerns happly).sameTask hne
      refine ⟨t.id :: done, refused, ?_, hlater.failed, hlater.once.cons _, fun key hkey => ?_,
        fun u hu hid => ?_, fun entry hentry => ?_⟩
      · rw [hlater.succeeded, List.append_assoc]
        rfl
      · rw [List.mem_cons, not_or] at hkey
        exact (hframe key hkey.1).trans (hlater.kept key hkey.2)
      · rcases List.mem_cons.1 hu with rfl | hu
        · exact ⟨_, s, .refl _ _, happly, hlater.kept _ hnever⟩
        · have hdone := (List.mem_cons.1 hid).resolve_left (hother u hu)
          exact (hlater.carriedOut u hu hdone).before (hframe u.id (hother u hu))
      · obtain ⟨u, hu, hid, hfails⟩ := hlater.told entry hentry
        exact ⟨u, List.mem_cons_of_mem t hu, hid, hfails.before (hframe u.id (hother u hu))⟩
    · refine ⟨done, (t.id, text) :: refused, hlater.succeeded, ?_,
        List.perm_middle.trans (hlater.once.cons _), hlater.kept, fun u hu hid => ?_,
        fun entry hentry => ?_⟩
      · rw [hlater.failed, List.append_assoc]
        rfl
      · rcases List.mem_cons.1 hu with rfl | hu
        · exact absurd hid hnever
        · exact hlater.carriedOut u hu hid
      · rcases List.mem_cons.1 hentry with rfl | hentry
        · exact ⟨t, List.mem_cons_self, rfl, _, e, .refl _ _, happly, htext⟩
        · obtain ⟨u, hu, hfails⟩ := hlater.told entry hentry
          exact ⟨u, List.mem_cons_of_mem t hu, hfails⟩

/-- Where a change asks about nothing but the task, a run comes to its end unless it escapes on a
task as it was before the run. -/
theorem foldlM_step_ends_iff (hconcerns : change.Concerns start b) :
    (tasks : List Task) → (tasks.map (·.id)).Nodup → {run : BulkRun} →
    (∀ t ∈ tasks, ∀ s, run.store.SameTask t.id s →
      (change.Escapes (start.surroundings now) t s
        ↔ change.Escapes (start.surroundings now) t run.store)) →
    ((∃ run', tasks.foldlM (BulkRun.step (start.surroundings now) change) run = .ok run')
      ↔ ∀ t ∈ tasks, ¬ change.Escapes (start.surroundings now) t run.store)
  | [], _, run, _ => by simp [pure, Except.pure]
  | t :: tasks, hnodup, run, hlocal => by
    rw [List.map_cons, List.nodup_cons] at hnodup
    rw [List.foldlM_cons, List.forall_mem_cons]
    rcases hstep : BulkRun.step (start.surroundings now) change run t with e | next
    · have hescapes := step_error_iff.1 ⟨e, hstep⟩
      exact iff_of_false (by simp) fun h => h.1 hescapes
    · have hstays : ¬ change.Escapes (start.surroundings now) t run.store := by
        rw [← step_error_iff, hstep]
        simp
      have hframe (u : Task) (hu : u ∈ tasks) : run.store.SameTask u.id next.store := by
        have hne : u.id ≠ t.id := fun hid => hnodup.1 (List.mem_map.2 ⟨u, hu, hid⟩)
        rcases step_eq_ok hstep with heq | happly
        · rw [heq]
          exact .refl _ _
        · exact (applyChange_applied hconcerns happly).sameTask hne
      have hlater (u : Task) (hu : u ∈ tasks) (s : Store) (hs : run.store.SameTask u.id s) :=
        hlocal u (List.mem_cons_of_mem t hu) s hs
      rw [and_iff_right hstays, ok_bind,
        foldlM_step_ends_iff hconcerns tasks hnodup.2 fun u hu s hs =>
          (hlater u hu s ((hframe u hu).trans hs)).trans (hlater u hu _ (hframe u hu)).symm]
      exact forall₂_congr fun u hu => not_congr (hlater u hu _ (hframe u hu))

end Steps

/-- An operation that is prepared is the run of its change over the tasks that are selected. -/
theorem runBulk_eq {c : Settings} {now : Moment} {s : Store} {b : Board} {q : BulkRequest}
    {op : BulkOperation} {change : TaskChange} {targets : Targets}
    (hprepared : prepareBulk now s b q.operation q.params = .ok (op, change))
    (htargets : selectTargets now s (s.schema b) op.reachesArchived c.bulkTasks q.taskIds q.filters
      = .ok targets) :
    runBulk c now s (s.schema b) q
      = (targets.tasks.foldlM (BulkRun.step (s.surroundings now) change)
        ⟨s, [], targets.missing.map notReached⟩).map (op, ·) := by
  simp only [prepareBulk, bind_eq_ok, pure_eq_ok, Prod.mk.injEq] at hprepared
  obtain ⟨op', hop, change', hchange, rfl, rfl⟩ := hprepared
  have hplan : planBulk c now s (s.schema b) q = .ok ⟨op', change', targets⟩ := by
    rw [planBulk, hop, ok_bind, hchange, ok_bind, htargets]
    rfl
  have hrun : runBulk c now s (s.schema b) q
      = targets.tasks.foldlM (BulkRun.step (s.surroundings now) change')
        ⟨s, [], targets.missing.map notReached⟩ >>= fun run => pure (op', run) := by
    rw [runBulk, hplan]
    rfl
  rw [hrun]
  rcases targets.tasks.foldlM (BulkRun.step (s.surroundings now) change')
    ⟨s, [], targets.missing.map notReached⟩ with e | run <;> rfl

/-- What a bulk operation is planned from was prepared before its tasks were selected. -/
theorem prepareBulk_of_planBulk {c : Settings} {now : Moment} {s : Store} {b : Board}
    {q : BulkRequest} {plan : BulkPlan} (h : planBulk c now s (s.schema b) q = .ok plan) :
    prepareBulk now s b q.operation q.params = .ok (plan.operation, plan.change) := by
  simp only [planBulk, bind_eq_ok, pure_eq_ok] at h
  obtain ⟨op, hop, change, hprepare, _, -, rfl⟩ := h
  rw [prepareBulk, hop, ok_bind, hprepare]
  rfl

/-- What came of the tasks of a bulk operation that has come to its end. -/
theorem runBulk_settles {c : Settings} {now : Moment} {s : Store} {b : Board} {q : BulkRequest}
    {op : BulkOperation} {run : BulkRun} (hs : (s.tasks.map (·.id)).Nodup)
    (h : runBulk c now s (s.schema b) q = .ok (op, run)) :
    ∃ plan refused, planBulk c now s (s.schema b) q = .ok plan ∧ op = plan.operation
      ∧ (plan.start s).Settles run (s.surroundings now) plan.change plan.targets.tasks
        run.succeeded refused := by
  simp only [runBulk, bind_eq_ok, pure_eq_ok, Prod.mk.injEq] at h
  obtain ⟨plan, hplan, run', hrun, rfl, rfl⟩ := h
  obtain ⟨hchange, htargets⟩ := planBulk_eq_ok hplan
  obtain ⟨done, refused, hsettles⟩ := foldlM_step_settles (prepareChange_concerns hchange)
    plan.targets.tasks (targets_nodup hs htargets) hrun
  obtain rfl : run'.succeeded = done := hsettles.succeeded
  exact ⟨plan, refused, hplan, rfl, hsettles⟩

end BoardQuery
