import BoardQuery.Api.Reply
import BoardQuery.Proofs.Sample
import BoardQuery.Proofs.Service.OneTask

/-!
# Bulk operations one task at a time

A bulk operation on tasks that are named by their ids is prepared once, for all of them. It comes to
what the same operation comes to if it is carried out for one task after another, in the order
named, and is prepared and finds its task anew each time (`runBulk_oneByOne`). For preparation asks
only about what no write touches, and a step that changes one task leaves the others as they were.
-/

namespace BoardQuery

/-- An operation on the tasks with some ids. -/
def BulkRequest.naming (operation params : Json) (ids : List String) : BulkRequest :=
  ⟨operation, params, .ofStrings ids, .null⟩

/-- An operation on one task after another, and what came of it for each id. -/
def runOneByOne (c : Settings) (now : Moment) (b : Board) (operation params : Json) :
    Store → List String → Outcome (Store × List (String × BulkRun))
  | s, [] => .ok (s, [])
  | s, id :: ids => do
    let (_, run) ← runBulk c now s (s.schema b) (.naming operation params [id])
    let (last, runs) ← runOneByOne c now b operation params run.store ids
    return (last, (id, run) :: runs)

/-- An operation with its parameters, before it is known which tasks it is for. -/
def prepareBulk (now : Moment) (s : Store) (b : Board) (operation params : Json) :
    Outcome (BulkOperation × TaskChange) := do
  let op ← BulkOperation.ofJson operation
  return (op, ← prepareChange (s.surroundings now) s (s.schema b) op params)

/-- The task that an operation on a board finds under an id. -/
def Store.target? (s : Store) (b : Board) (op : BulkOperation) (id : String) : Option Task :=
  (s.task? id).filter (inScope (s.schema b) op.reachesArchived)

/-- How an id fails that names no task in reach. -/
def notReached (id : String) : String × String :=
  (id, "Task not found on this board.")

section

variable {c : Settings} {now : Moment} {b : Board} {operation params : Json} {s s' : Store}
  {op : BulkOperation} {change : TaskChange}

/-- Preparation asks about nothing that a write touches. -/
theorem Store.SameSchema.prepareBulk_eq (h : s.SameSchema s') :
    prepareBulk now s' b operation params = prepareBulk now s b operation params := by
  have hmember : s'.isMember = s.isMember := by
    funext userId workspaceId
    rw [isMember, isMember, h.members]
  have hboard : s'.board? = s.board? := by
    funext id
    rw [board?, board?, h.boards]
  have hchange (op : BulkOperation) :
      prepareChange (s.surroundings now) s' (s.schema b) op params
        = prepareChange (s.surroundings now) s (s.schema b) op params := by
    cases op <;> simp only [prepareChange, prepareAssignee, prepareMove, hmember, hboard, h.columns]
  simp only [prepareBulk, h.schema_eq, h.surroundings_eq, hchange]

theorem Store.SameTask.target?_eq {id : String} (h : s.SameTask id s') :
    s'.target? b op id = s.target? b op id := by
  have hfind : s'.task? id = s.task? id := by
    rw [task?, task?, ← List.head?_filter, ← List.head?_filter, h.tasks]
  rw [target?, target?, hfind, h.schema_eq]

/-- Ids select the tasks in reach that they name, and those that name none are missing. -/
theorem selectTargets_ofStrings {ids : List String} (hmost : (distinct ids).length ≤ c.bulkTasks)
    (op : BulkOperation) :
    selectTargets now s (s.schema b) op.reachesArchived c.bulkTasks (.ofStrings ids) .null
      = .ok ⟨(distinct ids).filterMap (s.target? b op),
        (distinct ids).filter fun id => (s.target? b op id).isNone⟩ := by
  have hlimit : ¬ c.bulkTasks < (distinct ids).length := by omega
  simp only [selectTargets, targetsById, strings?_ofStrings, if_neg hlimit]
  rfl

/-- An operation that names its tasks is prepared, and then its steps are taken one by one. -/
theorem runBulk_naming {ids : List String} (hmost : (distinct ids).length ≤ c.bulkTasks) :
    runBulk c now s (s.schema b) (.naming operation params ids) = do
      let (op, change) ← prepareBulk now s b operation params
      let run ← ((distinct ids).filterMap (s.target? b op)).foldlM
        (BulkRun.step (s.surroundings now) change)
        ⟨s, [], ((distinct ids).filter fun id => (s.target? b op id).isNone).map notReached⟩
      return (op, run) := by
  simp only [runBulk, planBulk, BulkRequest.naming, prepareBulk, bind_assoc, pure_bind,
    selectTargets_ofStrings hmost, ok_bind]
  rfl

/-- A step adds to what a run has come to, and asks only for its store. -/
theorem step_from (env : Surroundings) (run : BulkRun) (t : Task) :
    BulkRun.step env change run t = (BulkRun.step env change ⟨run.store, [], []⟩ t).map fun one =>
      ⟨one.store, run.succeeded ++ one.succeeded, run.failed ++ one.failed⟩ := by
  unfold BulkRun.step
  rcases applyChange env run.store t change with r | s
  · dsimp only
    rcases failureText? r with _ | text
    · rfl
    · simp [Except.map]
  · simp [Except.map]

/-- What an operation on one task comes to. -/
inductive BulkRun.OfOne (id : String) : BulkRun → Prop
  | succeeded (s : Store) : OfOne id ⟨s, [id], []⟩
  | failed (s : Store) (text : String) : OfOne id ⟨s, [], [(id, text)]⟩

theorem step_ofOne {env : Surroundings} {t : Task} {run : BulkRun}
    (h : BulkRun.step env change ⟨s, [], []⟩ t = .ok run) : run.OfOne t.id := by
  unfold BulkRun.step at h
  split at h
  · obtain rfl := Except.ok.inj h
    exact .succeeded _
  · split at h
    · obtain rfl := Except.ok.inj h
      exact .failed _ _
    · exact absurd h (by simp)

theorem Store.target?_eq_some {id : String} {t : Task} (h : s.target? b op id = some t) :
    t.id = id := by
  simpa using List.find?_some (Option.filter_eq_some_iff.1 h).1

/-- The operation on one task, in a store in which the task is as it was at first. -/
theorem Store.SameTask.runBulk_one {id : String} (h : s.SameTask id s')
    (hone : 1 ≤ c.bulkTasks) (hprepared : prepareBulk now s b operation params = .ok (op, change)) :
    runBulk c now s' (s'.schema b) (.naming operation params [id])
      = ((match s.target? b op id with
          | some t => BulkRun.step (s.surroundings now) change ⟨s', [], []⟩ t
          | none => .ok ⟨s', [], [notReached id]⟩).map (op, ·)) := by
  rw [runBulk_naming (by exact_mod_cast hone), h.prepareBulk_eq, hprepared, ok_bind,
    h.surroundings_eq]
  have hdistinct : distinct [id] = [id] := rfl
  simp only [hdistinct, List.filterMap_cons, List.filterMap_nil, List.filter_cons, List.filter_nil,
    h.target?_eq]
  rcases s.target? b op id with _ | t
  · rfl
  · simp only [List.foldlM_cons, List.foldlM_nil, bind_pure, Option.isNone_some,
      Bool.false_eq_true, if_false, List.map_nil]
    rcases BulkRun.step (s.surroundings now) change ⟨s', [], []⟩ t <;> rfl

/-- A step on one task leaves every other task as it was. -/
theorem step_sameTask {key : String} {run : BulkRun} {t : Task}
    (hconcerns : change.Concerns s b) (hne : key ≠ t.id)
    (h : BulkRun.step (s.surroundings now) change ⟨s', [], []⟩ t = .ok run) :
    s'.SameTask key run.store := by
  rcases step_eq_ok h with heq | happly
  · rw [heq]
    exact .refl key _
  · exact (applyChange_applied hconcerns happly).sameTask hne

theorem prepareBulk_concerns (h : prepareBulk now s b operation params = .ok (op, change)) :
    change.Concerns s b := by
  simp only [prepareBulk, bind_eq_ok, pure_eq_ok, Prod.mk.injEq] at h
  obtain ⟨op', -, change', hchange, rfl, rfl⟩ := h
  exact prepareChange_concerns hchange

/-- The steps of an operation come to what the operation comes to on one task after another. The
tasks that are still to come are as they were when the operation was prepared. -/
theorem foldlM_step_oneByOne (hone : 1 ≤ c.bulkTasks)
    (hprepared : prepareBulk now s b operation params = .ok (op, change)) :
    (ids : List String) → ids.Nodup → (run : BulkRun) →
    (∀ id ∈ ids, s.SameTask id run.store) →
    (ids.filterMap (s.target? b op)).foldlM (BulkRun.step (s.surroundings now) change) run
      = (runOneByOne c now b operation params run.store ids).map fun (last, runs) =>
        ⟨last, run.succeeded ++ runs.flatMap (·.2.succeeded), run.failed ++
          (runs.filter fun one => (s.target? b op one.1).isSome).flatMap (·.2.failed)⟩
  | [], _, run, _ => by simp [runOneByOne, Except.map, pure, Except.pure]
  | id :: ids, hnodup, run, hsame => by
    rw [List.nodup_cons] at hnodup
    have hlater (key : String) (hkey : key ∈ ids) := hsame key (List.mem_cons_of_mem id hkey)
    rw [runOneByOne, (hsame id List.mem_cons_self).runBulk_one hone hprepared]
    rcases htarget : s.target? b op id with _ | t
    · -- The task is not reached, and its single run only tells so.
      rw [List.filterMap_cons_none htarget,
        foldlM_step_oneByOne hone hprepared ids hnodup.2 run hlater]
      simp only [Except.map, ok_bind]
      rcases runOneByOne c now b operation params run.store ids with e | ⟨last, runs⟩
      · rfl
      · simp [htarget]
    · obtain rfl := Store.target?_eq_some htarget
      rw [List.filterMap_cons_some htarget, List.foldlM_cons, step_from]
      dsimp only
      rcases hstep : BulkRun.step (s.surroundings now) change ⟨run.store, [], []⟩ t with e | one
      · rfl
      · have hrest : ∀ key ∈ ids, s.SameTask key one.store := fun key hkey =>
          (hlater key hkey).trans (step_sameTask (prepareBulk_concerns hprepared)
            (fun heq => hnodup.1 (heq ▸ hkey)) hstep)
        simp only [Except.map, ok_bind]
        rw [foldlM_step_oneByOne hone hprepared ids hnodup.2
          ⟨one.store, run.succeeded ++ one.succeeded, run.failed ++ one.failed⟩ hrest]
        rcases runOneByOne c now b operation params one.store ids with e | ⟨last, runs⟩
        · rfl
        · simp [Except.map, htarget]

/-- What the runs come to one by one: each is about its own task, and tells of one that is not
reached. -/
theorem runOneByOne_each (hone : 1 ≤ c.bulkTasks)
    (hprepared : prepareBulk now s b operation params = .ok (op, change)) :
    (ids : List String) → ids.Nodup → {s₁ last : Store} → {runs : List (String × BulkRun)} →
    (∀ id ∈ ids, s.SameTask id s₁) →
    runOneByOne c now b operation params s₁ ids = .ok (last, runs) →
    runs.map (·.1) = ids ∧ ∀ one ∈ runs, one.2.OfOne one.1
      ∧ (s.target? b op one.1 = none → one.2.failed = [notReached one.1])
  | [], _, s₁, last, runs, _, h => by
    obtain ⟨rfl, rfl⟩ := Prod.mk.inj (Except.ok.inj h)
    exact ⟨rfl, fun one hone => absurd hone List.not_mem_nil⟩
  | id :: ids, hnodup, s₁, last, runs, hsame, h => by
    rw [List.nodup_cons] at hnodup
    simp only [runOneByOne, (hsame id List.mem_cons_self).runBulk_one hone hprepared, bind_eq_ok,
      pure_eq_ok, map_eq_ok] at h
    obtain ⟨-, ⟨one, hrun, rfl⟩, ⟨last', rest⟩, hrest, h⟩ := h
    obtain ⟨rfl, rfl⟩ := Prod.mk.inj h
    have hfirst : one.OfOne id ∧ (s.target? b op id = none → one.failed = [notReached id])
        ∧ ∀ key ∈ ids, s.SameTask key one.store := by
      have hlater (key : String) (hkey : key ∈ ids) := hsame key (List.mem_cons_of_mem id hkey)
      rcases htarget : s.target? b op id with _ | t <;> rw [htarget] at hrun
      · obtain rfl := Except.ok.inj hrun
        exact ⟨.failed _ _, fun _ => rfl, hlater⟩
      · obtain rfl := Store.target?_eq_some htarget
        exact ⟨step_ofOne hrun, fun h => absurd h (by simp), fun key hkey =>
          (hlater key hkey).trans (step_sameTask (prepareBulk_concerns hprepared)
            (fun heq => hnodup.1 (heq ▸ hkey)) hrun)⟩
    obtain ⟨hids, heach⟩ := runOneByOne_each hone hprepared ids hnodup.2 hfirst.2.2 hrest
    refine ⟨by rw [List.map_cons, hids], fun one' hone' => ?_⟩
    rcases List.mem_cons.1 hone' with rfl | hone'
    · exact ⟨hfirst.1, hfirst.2.1⟩
    · exact heach one' hone'

/-- Whether a run is what the runs for one task after another come to together. -/
structure BulkRun.Gathers (run : BulkRun) (reached : String → Bool) (last : Store)
    (runs : List (String × BulkRun)) : Prop where
  store : run.store = last
  ofOne : ∀ one ∈ runs, one.2.OfOne one.1
  succeeded : run.succeeded = runs.flatMap (·.2.succeeded)
  failed : run.failed = (runs.filter fun one => !reached one.1).flatMap (·.2.failed)
    ++ (runs.filter fun one => reached one.1).flatMap (·.2.failed)
  split : (run.succeeded ++ run.failed.map (·.1)).Perm (runs.map (·.1))

theorem BulkRun.OfOne.ids_eq {id : String} {run : BulkRun} (h : run.OfOne id) :
    run.succeeded ++ run.failed.map (·.1) = [id] := by
  cases h <;> rfl

/-- Every id comes out once, whichever of the runs are taken first. -/
theorem perm_of_ofOne (reached : String → Bool) (runs : List (String × BulkRun))
    (h : ∀ one ∈ runs, one.2.OfOne one.1) :
    (runs.flatMap (·.2.succeeded) ++ ((runs.filter fun one => !reached one.1).flatMap (·.2.failed)
      ++ (runs.filter fun one => reached one.1).flatMap (·.2.failed)).map (·.1)).Perm
      (runs.map (·.1)) := by
  have hids : runs.map (·.1)
      = runs.flatMap fun one => one.2.succeeded ++ one.2.failed.map (·.1) := by
    rw [List.map_eq_flatMap]
    exact List.flatMap_congr fun one hone => (h one hone).ids_eq.symm
  have hparts : ((runs.filter fun one => !reached one.1)
      ++ runs.filter fun one => reached one.1).Perm runs := by
    simpa using List.filter_append_perm (fun one : String × BulkRun => !reached one.1) runs
  rw [← List.flatMap_append, List.map_flatMap, hids]
  exact ((hparts.flatMap_right _).append_left _).trans (List.flatMap_append_perm ..)

/-- The ids that are not reached fail as they do in runs of their own. -/
theorem map_notReached (reached : String → Bool) :
    (runs : List (String × BulkRun)) →
    (∀ one ∈ runs, reached one.1 = false → one.2.failed = [notReached one.1]) →
    ((runs.map (·.1)).filter fun id => !reached id).map notReached
      = (runs.filter fun one => !reached one.1).flatMap (·.2.failed)
  | [], _ => rfl
  | one :: runs, h => by
    have hrest := map_notReached reached runs fun other hother =>
      h other (List.mem_cons_of_mem one hother)
    rcases hone : reached one.1 with _ | _
    · simp [hone, hrest, h one List.mem_cons_self hone]
    · simp [hone, hrest]

theorem runBulk_refused {ids : List String} {e : Refusal}
    (hmost : (distinct ids).length ≤ c.bulkTasks) (hs : s.SameSchema s')
    (he : prepareBulk now s b operation params = .error e) :
    runBulk c now s' (s'.schema b) (.naming operation params ids) = .error e := by
  rw [runBulk_naming hmost, hs.prepareBulk_eq, he]
  rfl

theorem runOneByOne_refused {ids : List String} {e : Refusal} (hids : ids ≠ [])
    (hone : 1 ≤ c.bulkTasks) (he : prepareBulk now s b operation params = .error e) :
    runOneByOne c now b operation params s ids = .error e := by
  obtain ⟨id, rest, rfl⟩ := List.exists_cons_of_ne_nil hids
  rw [runOneByOne, runBulk_refused (by exact_mod_cast hone) (.refl s) he]
  rfl

/-- An operation that is prepared comes to what its runs for one task after another come to. -/
theorem runBulk_prepared {ids : List String} (hone : 1 ≤ c.bulkTasks)
    (hmost : (distinct ids).length ≤ c.bulkTasks)
    (hprepared : prepareBulk now s b operation params = .ok (op, change)) :
    runBulk c now s (s.schema b) (.naming operation params ids)
      = (runOneByOne c now b operation params s (distinct ids)).map fun (last, runs) =>
        (op, ⟨last, runs.flatMap (·.2.succeeded),
          ((distinct ids).filter fun id => (s.target? b op id).isNone).map notReached ++
            (runs.filter fun one => (s.target? b op one.1).isSome).flatMap (·.2.failed)⟩) := by
  rw [runBulk_naming hmost, hprepared, ok_bind]
  dsimp only
  rw [foldlM_step_oneByOne hone hprepared (distinct ids) (nodup_distinct ids)
    ⟨s, [], _⟩ fun id _ => .refl id s]
  rcases runOneByOne c now b operation params s (distinct ids) with e | ⟨last, runs⟩ <;> rfl

/-- An operation on tasks that are named comes to what it comes to on one of them after another, in
the order in which they are first named. Parameters that are refused are refused alike for one and
for many, whatever has been changed before. -/
theorem runBulk_oneByOne {ids : List String} (hids : ids ≠ [])
    (hmost : (distinct ids).length ≤ c.bulkTasks) :
    (∀ e, prepareBulk now s b operation params = .error e → ∀ s', s.SameSchema s' →
      runBulk c now s' (s'.schema b) (.naming operation params ids) = .error e
        ∧ ∀ id, runBulk c now s' (s'.schema b) (.naming operation params [id]) = .error e)
    ∧ match runOneByOne c now b operation params s (distinct ids) with
      | .error e => runBulk c now s (s.schema b) (.naming operation params ids) = .error e
        ∧ (prepareBulk now s b operation params = .error e
          ∨ failureText? e = none ∧ ∃ op change s' t,
            prepareBulk now s b operation params = .ok (op, change)
              ∧ applyChange (s.surroundings now) s' t change = .error e)
      | .ok (last, runs) => ∃ op run,
        runBulk c now s (s.schema b) (.naming operation params ids) = .ok (op, run)
          ∧ runs.map (·.1) = distinct ids
          ∧ run.Gathers (fun id => (s.target? b op id).isSome) last runs
          ∧ ∃ outcome, bulkReply op run = .data (.obj outcome)
            ∧ Fields.get outcome "successful_count" = .int run.succeeded.length
            ∧ Fields.get outcome "failed_count" = .int run.failed.length := by
  have hsome : distinct ids ≠ [] := by
    obtain ⟨id, hid⟩ := List.exists_mem_of_ne_nil ids hids
    exact List.ne_nil_of_mem (mem_distinct.2 hid)
  have hone : 1 ≤ c.bulkTasks := by
    have := List.length_pos_iff.2 hsome
    omega
  have hsingle (id : String) : (distinct [id]).length ≤ c.bulkTasks := by exact_mod_cast hone
  refine ⟨fun e he s' hs => ⟨runBulk_refused hmost hs he, fun id =>
    runBulk_refused (hsingle id) hs he⟩, ?_⟩
  rcases hprepared : prepareBulk now s b operation params with e | ⟨op, change⟩
  · rw [runOneByOne_refused hsome hone hprepared]
    exact ⟨runBulk_refused hmost (.refl s) hprepared, .inl rfl⟩
  · have hrun := runBulk_prepared hone hmost hprepared
    rcases hruns : runOneByOne c now b operation params s (distinct ids) with e | ⟨last, runs⟩
    · rw [hruns] at hrun
      refine ⟨hrun, .inr ?_⟩
      have hsteps := foldlM_step_oneByOne hone hprepared (distinct ids) (nodup_distinct ids)
        ⟨s, [], []⟩ fun id _ => .refl id s
      rw [hruns] at hsteps
      obtain ⟨htext, s', t, happly⟩ := foldlM_step_eq_error _ hsteps
      exact ⟨htext, op, change, s', t, rfl, happly⟩
    · rw [hruns] at hrun
      obtain ⟨hnames, heach⟩ := runOneByOne_each hone hprepared (distinct ids)
        (nodup_distinct ids) (fun id _ => .refl id s) hruns
      have hofOne (one : String × BulkRun) (h : one ∈ runs) : one.2.OfOne one.1 := (heach one h).1
      have hmissing := map_notReached (fun id => (s.target? b op id).isSome) runs
        fun one hmem hnone => (heach one hmem).2 (by simpa using hnone)
      simp only [hnames, Option.not_isSome] at hmissing
      refine ⟨op, _, hrun, hnames, ⟨rfl, hofOne, rfl, ?_, ?_⟩, _, rfl, rfl, rfl⟩
      · simp only [hmissing, Option.not_isSome]
      · simp only [hmissing]
        simpa only [Option.not_isSome] using
          perm_of_ofOne (fun id => (s.target? b op id).isSome) runs hofOne

end

/-- An id that is repeated counts once, and one that is not reached fails alone. -/
theorem runBulk_oneByOne_repeated : ∃ last runs op run,
    runOneByOne Settings.usual Moment.first Sample.board (.str "set_status")
        (.obj [("status", .str "done")]) Sample.twoBoards (distinct ["t", "ghost", "t"])
      = .ok (last, runs)
    ∧ runBulk Settings.usual Moment.first Sample.twoBoards (Sample.twoBoards.schema Sample.board)
        (.naming (.str "set_status") (.obj [("status", .str "done")]) ["t", "ghost", "t"])
      = .ok (op, run)
    ∧ run.store = last ∧ run.succeeded = ["t"] ∧ run.failed = [notReached "ghost"] := by
  have hruns : ∃ last one other, runOneByOne Settings.usual Moment.first Sample.board
      (.str "set_status") (.obj [("status", .str "done")]) Sample.twoBoards
      (distinct ["t", "ghost", "t"]) = .ok (last, [("t", one), ("ghost", other)])
      ∧ one.succeeded = ["t"] ∧ one.failed = [] ∧ other.succeeded = []
      ∧ other.failed = [notReached "ghost"] := ⟨_, _, _, rfl, rfl, rfl, rfl, rfl⟩
  obtain ⟨last, one, other, hruns, h⟩ := hruns
  have hmatch := (@runBulk_oneByOne Settings.usual Moment.first Sample.board (.str "set_status")
    (.obj [("status", .str "done")]) Sample.twoBoards ["t", "ghost", "t"] (by simp) (by decide)).2
  rw [hruns] at hmatch
  obtain ⟨op, run, hrun, -, hgathers, -⟩ := hmatch
  refine ⟨last, _, op, run, hruns, hrun, hgathers.store, ?_, ?_⟩
  · rw [hgathers.succeeded]
    simp [h]
  · have ht : Sample.twoBoards.target? Sample.board op "t" = some (Sample.task "t") := by
      cases op <;> rfl
    have hghost : Sample.twoBoards.target? Sample.board op "ghost" = none := rfl
    rw [hgathers.failed]
    simp [h, ht, hghost]

end BoardQuery
