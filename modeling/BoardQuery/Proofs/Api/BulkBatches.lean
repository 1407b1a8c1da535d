import BoardQuery.Proofs.Api.BulkMoves
import BoardQuery.Proofs.Api.FailedRequests
import BoardQuery.Proofs.Service.Labels
import BoardQuery.Proofs.Value.Faults

/-!
# Batches that carry on

A task that fails does not keep a batch from its other tasks: every id is told as successful or as
failed, a task that fails is left as it was, and the operation is carried out of every other task
(`batch_carries_on`). But this is so only as long as every failure has a text. One without a text
ends the batch without an answer, and whether there is one can be told beforehand, from the change
and from what the tasks hold (`TaskChange.Copes`): a column that has become one of labels may hold
a number, which lists no labels (`batch_not_carried_on`).
-/

namespace BoardQuery

/-! ## Failures without a text -/

section Untold

variable {α β : Type} {x : Outcome α}

theorem untold_bind {f : α → Outcome β} :
    Untold (x >>= f) ↔ Untold x ∨ ∃ a, x = .ok a ∧ Untold (f a) := by
  rcases x with e | a <;> simp [Untold]

theorem untold_map {f : α → β} : Untold (x.map f) ↔ Untold x := by
  rcases x with e | a <;> simp [Untold, Except.map]

theorem not_untold_ok {a : α} : ¬ Untold (.ok a : Outcome α) := by
  simp [Untold]

/-- What a value is rejected for is told, so only a fault can be untold. -/
theorem fault_of_rejected {x : Except Rejection α} {path : String} {e : Refusal}
    (h : x.mapError (Refusal.ofRejection path) = .error e) (htext : failureText? e = none) :
    ∃ f, e = .fault f ∧ x = .error (.fault f) := by
  rcases x with rejection | a
  · obtain rfl := Except.error.inj h
    cases rejection with
    | problems ps => exact absurd htext nofun
    | fault f => exact ⟨f, rfl, rfl⟩
  · exact absurd h nofun

theorem fault_of_untold {env : Surroundings} {c : BoardColumn} {t : ColumnType} {path : String}
    {raw : Json} (hc : c.columnType = .ok t) (h : Untold (validateFor env c path raw)) :
    EndsIn Rejection.fault (validate env t (c.effectiveOptions t) raw) := by
  obtain ⟨e, he, htext⟩ := h
  rw [validateFor, hc] at he
  obtain ⟨f, -, hfault⟩ := fault_of_rejected he htext
  exact ⟨f, hfault⟩

end Untold

/-! ## Failures of a change -/

section Failures

variable {env : Surroundings} {s : Store} {t : Task} {change : TaskChange} {e : Refusal}

theorem eq_fault_of_orFault {α : Type} {x : Except Fault α} (h : orFault x = .error e) :
    ∃ f, e = .fault f := by
  obtain ⟨f, -, rfl⟩ := orFault_eq_error.1 h
  exact ⟨f, rfl⟩

theorem eq_fault_of_setValue {c : BoardColumn} {raw : Json}
    (h : setValue env s t c raw = .error e) (htext : failureText? e = none) :
    ∃ f, e = .fault f := by
  rw [setValue] at h
  split_ifs at h
  · obtain rfl := Except.error.inj h
    exact absurd htext (by simp [failureText?, Refusal.text?])
  · obtain hvalid | ⟨v, -, h⟩ := bind_eq_error.1 h
    · rw [validateFor] at hvalid
      obtain htype | ⟨type, -, hvalid⟩ := bind_eq_error.1 hvalid
      · exact eq_fault_of_orFault htype
      · obtain ⟨f, hf, -⟩ := fault_of_rejected hvalid htext
        exact ⟨f, hf⟩
    · exact absurd h (by simp [pure, Except.pure])

/-- A change that fails without a text has met a fault. -/
theorem eq_fault_of_applyChange (h : applyChange env s t change = .error e)
    (htext : failureText? e = none) : ∃ f, e = .fault f := by
  cases change with
  | status | priority | assignee | dueDate | archive | unarchive | delete =>
    exact absurd h (by simp [applyChange])
  | board target columns =>
    rw [applyChange, moveTask] at h
    obtain hrows | ⟨rows, -, h⟩ := bind_eq_error.1 h
    · exact eq_fault_of_orFault hrows
    · simp only [error_bind] at h
      split_ifs at h
      · exact ⟨.outOfRange, (Except.error.inj h).symm⟩
      · exact ⟨.refused, (Except.error.inj h).symm⟩
      · exact absurd h (by simp [pure, Except.pure])
  | addLabels c labels =>
    rw [applyChange] at h
    obtain hread | ⟨current, -, h⟩ := bind_eq_error.1 h
    · exact eq_fault_of_orFault hread
    · exact eq_fault_of_setValue h htext
  | removeLabels c labels =>
    rw [applyChange] at h
    obtain hread | ⟨current, -, h⟩ := bind_eq_error.1 h
    · exact eq_fault_of_orFault hread
    · obtain hrest | ⟨rest, -, h⟩ := bind_eq_error.1 h
      · exact eq_fault_of_orFault hrest
      · exact eq_fault_of_setValue h htext
  | field c raw => exact eq_fault_of_setValue h htext

/-- A refusal of which there is nothing to tell is answered by a crash. -/
theorem ofRefusal_fault {f : Fault} (htext : failureText? (.fault f) = none) :
    Reply.ofRefusal 400 (.fault f) = .crash := by
  cases f with
  | unreadable | refused => exact absurd htext nofun
  | outOfRange | wrongShape | noFields => rfl

end Failures

/-! ## What labels are read off -/

namespace Json

/-- Whether labels can be read off a value: it is no number and no truth value, but for those that
count as nothing. -/
def listsLabels (v : Json) : Bool :=
  match v with
  | .bool _ | .int _ | .num _ => !v.truthy
  | _ => true

/-- Whether labels can be taken out of what is read off a value: it holds no array and no object. -/
def shedsLabels (v : Json) : Bool :=
  match v with
  | .arr items => items.all isScalar
  | v => v.listsLabels

variable {v : Json}

/-- What cannot be taken apart has no text for it. -/
theorem untold_elements : Untold (orFault v.elements) ↔ ∃ f, v.elements = .error f := by
  cases v <;> simp [elements, orFault, Except.mapError, Untold, failureText?, Refusal.text?]

/-- What is read off a value: nothing if it counts as nothing. -/
theorem elements_orElse : (v.orElse (.arr [])).elements
    = if v.truthy then v.elements else .ok [] := by
  rw [orElse]
  split_ifs <;> rfl

theorem elements_orElse_fails_iff :
    (∃ f, (v.orElse (.arr [])).elements = .error f) ↔ v.listsLabels = false := by
  rw [elements_orElse]
  cases v <;> simp [elements, listsLabels] <;> split_ifs <;> simp_all [truthy]

theorem all_isScalar_texts {α : Type} (f : α → String) (xs : List α) :
    (xs.map fun x => Json.str (f x)).all isScalar = true := by
  rw [List.all_map]
  exact List.all_eq_true.2 fun _ _ => rfl

theorem shedsLabels_iff : v.shedsLabels = true
    ↔ ∃ items, (v.orElse (.arr [])).elements = .ok items ∧ items.all isScalar = true := by
  rw [elements_orElse]
  cases v with
  | null => simp [truthy, shedsLabels, listsLabels]
  | bool | int | num => simp [elements, shedsLabels, listsLabels]
  | str s =>
    refine iff_of_true rfl ?_
    split_ifs
    · exact ⟨_, rfl, all_isScalar_texts _ _⟩
    · exact ⟨[], rfl, rfl⟩
  | obj fields =>
    refine iff_of_true rfl ?_
    split_ifs
    · exact ⟨_, rfl, all_isScalar_texts _ _⟩
    · exact ⟨[], rfl, rfl⟩
  | arr items => cases items <;> simp [elements, truthy, shedsLabels]

end Json

/-! ## Changes that fail without a text -/

section Changes

variable {env : Surroundings} {s : Store} {t : Task} {c : BoardColumn} {P : List String}

/-- A list is stored or rejected by a column of labels. -/
theorem not_untold_setValue {items : List Json} (hP : c.AcceptsLabels P)
    (hplaced : c.boardId = t.boardId) : ¬ Untold (setValue env s t c (.arr items)) := by
  rw [setValue_eq hplaced, untold_map]
  intro h
  obtain ⟨-, hfails⟩ := validate_fault_iff_problems.1 (fault_of_untold hP.type h)
  revert hfails
  simp only [problems, get_effectiveOptions_twice]
  split
  · exact not_endsIn_ok
  · rename_i labels _
    obtain ⟨exceeds, hexceeds⟩ := countExceeds_total hP.taken (trimmedDistinct labels).length
    rw [BoardColumn.maxLabels] at hexceeds
    rw [hexceeds]
    exact not_endsIn_pure

theorem escapes_addLabels (hP : c.AcceptsLabels P) (hplaced : c.boardId = t.boardId) :
    (TaskChange.addLabels c P).Escapes env t s
      ↔ ((s.value? t.id c.id).getD .null).listsLabels = false := by
  rw [TaskChange.Escapes, applyChange, untold_bind, currentLabels, Json.untold_elements,
    Json.elements_orElse_fails_iff]
  refine or_iff_left ?_
  rintro ⟨current, -, huntold⟩
  exact not_untold_setValue hP hplaced huntold

theorem escapes_removeLabels (hP : c.AcceptsLabels P) (hplaced : c.boardId = t.boardId) :
    (TaskChange.removeLabels c P).Escapes env t s
      ↔ ((s.value? t.id c.id).getD .null).shedsLabels = false := by
  have hwithout (items : List Json) :
      Untold (orFault (withoutLabels P items) >>= fun rest => setValue env s t c (.arr rest))
        ↔ items.all Json.isScalar = false := by
    rw [withoutLabels]
    split_ifs with hall
    · exact iff_of_false (not_untold_setValue hP hplaced) (by simp [hall])
    · exact iff_of_true ⟨_, rfl, rfl⟩ (by simpa using hall)
  rw [TaskChange.Escapes, applyChange, untold_bind, currentLabels, Json.untold_elements,
    ← Bool.not_eq_true, Json.shedsLabels_iff]
  rcases (((s.value? t.id c.id).getD .null).orElse (.arr [])).elements with f | items
  · simp
  · simp [orFault_eq_ok, hwithout]

theorem escapes_field {raw : Json} (hplaced : c.boardId = t.boardId) :
    (TaskChange.field c raw).Escapes env t s ↔ Untold (validateFor env c c.name raw) := by
  rw [TaskChange.Escapes, applyChange, setValue_eq hplaced, untold_map]

end Changes

/-- Whether a change fails of none of some tasks without a text: there are places for all of them on
the other board, what they hold lists labels, and a value comes to the end of its validation. -/
def TaskChange.Copes (change : TaskChange) (env : Surroundings) (s : Store) (tasks : List Task) :
    Prop :=
  match change with
  | .board target _ => ∀ i < tasks.length, fitsInteger (nextPosition s target.id + i) = true
  | .addLabels c _ => ∀ t ∈ tasks, ((s.value? t.id c.id).getD .null).listsLabels = true
  | .removeLabels c _ => ∀ t ∈ tasks, ((s.value? t.id c.id).getD .null).shedsLabels = true
  | .field c raw => ∀ _ ∈ tasks, ¬ Untold (validateFor env c c.name raw)
  | .status _ | .priority _ | .assignee _ | .dueDate _ | .archive | .unarchive | .delete => True

/-- A value that does not stray comes to the end of its validation. -/
theorem copes_field {env : Surroundings} {s : Store} {c : BoardColumn} {t : ColumnType} {raw : Json}
    (hc : c.columnType = .ok t) (ho : Options.InOrder (c.effectiveOptions t))
    (hraw : raw.isBlank = true ∨ ¬ raw.Strays env.now t (t.effectiveOptions (c.effectiveOptions t)))
    (tasks : List Task) : (TaskChange.field c raw).Copes env s tasks := by
  intro _ _ huntold
  obtain ⟨hblank, hstrays⟩ := (validate_fault_iff ho).1 (fault_of_untold hc huntold)
  rcases hraw with hraw | hraw
  · simp [hblank] at hraw
  · exact hraw hstrays

section Runs

variable {now : Moment} {s : Store} {b : Board} {operation params : Json} {op : BulkOperation}
  {change : TaskChange}

theorem BulkOperation.ofJson_eq_ok {v : Json} (h : BulkOperation.ofJson v = .ok op) :
    v = .str op.name := by
  unfold BulkOperation.ofJson at h
  split_ifs at h
  split at h
  · rename_i op' hop
    obtain rfl := Except.ok.inj h
    obtain ⟨name, hname, hfind⟩ := Option.bind_eq_some_iff.1 hop
    obtain rfl : op'.name = name := by simpa using List.find?_some hfind
    cases v with
    | str => rw [Option.some.inj hname]
    | _ => exact absurd hname (by simp [Json.str?])
  · exact absurd h refuse_ne_ok

/-- Labels that are prepared are accepted by their column. -/
theorem accepts_of_prepareBulk {c : BoardColumn} {P : List String}
    (hprepared : prepareBulk now s b operation params = .ok (op, change))
    (hchange : change = .addLabels c P ∨ change = .removeLabels c P) : c.AcceptsLabels P := by
  have hparts := hprepared
  simp only [prepareBulk, bind_eq_ok, pure_eq_ok, Prod.mk.injEq] at hparts
  obtain ⟨op', hop, change', hprepare, rfl, rfl⟩ := hparts
  obtain rfl := BulkOperation.ofJson_eq_ok hop
  have hoperation := operation_of_prepareChange hprepare
  rcases hchange with rfl | rfl
  · obtain rfl : BulkOperation.addLabels = op' := hoperation
    exact (prepareBulk_addLabels_iff.1 hprepared).accepts.1
  · obtain rfl : BulkOperation.removeLabels = op' := hoperation
    exact (prepareBulk_removeLabels_iff.1 hprepared).accepts.1

/-- Where it depends on each task as it was whether the change of it escapes. -/
theorem foldlM_step_ends_iff_forall {tasks : List Task} {run : BulkRun} {P : Task → Prop}
    (hconcerns : change.Concerns s b) (hnodup : (tasks.map (·.id)).Nodup)
    (hescapes : ∀ t ∈ tasks, ∀ s', run.store.SameTask t.id s' →
      (change.Escapes (s.surroundings now) t s' ↔ ¬ P t)) :
    (∃ run', tasks.foldlM (BulkRun.step (s.surroundings now) change) run = .ok run')
      ↔ ∀ t ∈ tasks, P t := by
  have hself (t : Task) (ht : t ∈ tasks) := hescapes t ht run.store (.refl _ _)
  rw [foldlM_step_ends_iff hconcerns tasks hnodup fun t ht s' hs' =>
    (hescapes t ht s' hs').trans (hself t ht).symm]
  exact forall₂_congr fun t ht => (not_congr (hself t ht)).trans not_not

/-- A run of a prepared change comes to its end where the change copes with the tasks. -/
theorem foldlM_step_copes_iff (hs : s.Coherent) (hkeyed : s.KeyedColumns) (hb : b ∈ s.boards)
    (hprepared : prepareBulk now s b operation params = .ok (op, change)) {tasks : List Task}
    (hnodup : (tasks.map (·.id)).Nodup) (htasks : ∀ t ∈ tasks, t ∈ s.tasks ∧ t.boardId = b.id)
    (failed : List (String × String)) :
    (∃ run, tasks.foldlM (BulkRun.step (s.surroundings now) change) ⟨s, [], failed⟩ = .ok run)
      ↔ change.Copes (s.surroundings now) s tasks := by
  have hconcerns := prepareBulk_concerns hprepared
  have hplaced {c : BoardColumn} (hc : c ∈ (s.schema b).columns) {t : Task} (ht : t ∈ tasks) :
      c.boardId = t.boardId := (mem_columns_schema.1 hc).2.trans (htasks t ht).2.symm
  cases change with
  | status | priority | assignee | dueDate | archive | unarchive | delete =>
    rw [foldlM_step_ends_iff_forall (P := fun _ => True) hconcerns hnodup fun _ _ _ _ =>
      iff_of_false not_untold_ok (not_not_intro trivial)]
    exact iff_of_true (fun _ _ => trivial) trivial
  | board target columns =>
    obtain ⟨-, rfl, -⟩ := id hconcerns
    obtain ⟨m, hlast⟩ := s.exists_lastPosition target.id
    have hawaits : (BulkRun.mk s [] failed).AwaitsMoves s b target m tasks :=
      ⟨.refl s, hs, hnodup, htasks, hlast⟩
    rw [TaskChange.Copes, Store.nextPosition_of_last hlast]
    by_cases hroom : ∀ i < tasks.length, fitsInteger (m + 1 + i) = true
    · obtain ⟨s', hrun, -⟩ := foldlM_step_moves now hb hkeyed hconcerns tasks hawaits hroom
      exact iff_of_true ⟨_, hrun⟩ hroom
    · have hbeyond : ∃ i < tasks.length, fitsInteger (m + 1 + i) = false := by simpa using hroom
      have hrun := foldlM_step_moves_beyond now hb hkeyed hconcerns tasks hawaits hbeyond
      refine iff_of_false (fun ⟨run, hend⟩ => ?_) hroom
      exact absurd (hrun.symm.trans hend) nofun
  | addLabels c P =>
    have hP := accepts_of_prepareBulk hprepared (.inl rfl)
    refine foldlM_step_ends_iff_forall hconcerns hnodup fun t ht s' hsame => ?_
    rw [escapes_addLabels hP (hplaced hconcerns ht), hsame.value?_eq, Bool.not_eq_true]
  | removeLabels c P =>
    have hP := accepts_of_prepareBulk hprepared (.inr rfl)
    refine foldlM_step_ends_iff_forall hconcerns hnodup fun t ht s' hsame => ?_
    rw [escapes_removeLabels hP (hplaced hconcerns ht), hsame.value?_eq, Bool.not_eq_true]
  | field c raw =>
    refine foldlM_step_ends_iff_forall hconcerns hnodup fun t ht s' _ => ?_
    rw [escapes_field (hplaced hconcerns ht), not_not]

end Runs

/-! ## Requests -/

/-- Whether a run has come to its end for all ids that it was asked for: each of them is told once,
as successful or as failed, the change is carried out of the tasks that are told as successful, and
whatever has another id is as it was. -/
structure BulkRun.CarriesOn (run : BulkRun) (env : Surroundings) (s : Store) (b : Board)
    (op : BulkOperation) (change : TaskChange) (ids : List String) : Prop where
  once : (run.succeeded ++ run.failed.map (·.1)).Perm (distinct ids)
  kept : ∀ id ∉ run.succeeded, s.SameTask id run.store
  carriedOut : ∀ id ∈ run.succeeded, ∃ t, s.target? b op id = some t
    ∧ change.CarriedOut env t s run.store
  told : ∀ entry ∈ run.failed, s.target? b op entry.1 = none ∧ entry = notReached entry.1
    ∨ ∃ t, s.target? b op entry.1 = some t ∧ change.FailsWith env t s entry.2

section Requests

variable {s : Store} {b : Board} {op : BulkOperation}

/-- The tasks that are found have the ids under which they are found. -/
theorem map_id_targets : (ids : List String) → (ids.filterMap (s.target? b op)).map (·.id)
    = ids.filter fun id => (s.target? b op id).isSome
  | [] => rfl
  | id :: ids => by
    rcases htarget : s.target? b op id with _ | t
    · rw [List.filterMap_cons_none htarget, map_id_targets ids,
        List.filter_cons_of_neg (by simp [htarget])]
    · rw [List.filterMap_cons_some htarget, List.map_cons, map_id_targets ids,
        List.filter_cons_of_pos (by simp [htarget]), Store.target?_eq_some htarget]

/-- What came of the tasks that are found, together with the ids that name none, is what came of
the ids. -/
theorem BulkRun.Settles.carriesOn {env : Surroundings} {change : TaskChange} {run : BulkRun}
    {ids done : List String} {refused : List (String × String)}
    (h : BulkRun.Settles ⟨s, [],
        ((distinct ids).filter fun id => (s.target? b op id).isNone).map notReached⟩ run env change
      ((distinct ids).filterMap (s.target? b op)) done refused) :
    run.CarriesOn env s b op change ids := by
  have hsucceeded : run.succeeded = done := h.succeeded
  have hfound (t : Task) (ht : t ∈ (distinct ids).filterMap (s.target? b op)) :
      s.target? b op t.id = some t := by
    obtain ⟨id, -, hid⟩ := List.mem_filterMap.1 ht
    rwa [Store.target?_eq_some hid]
  refine ⟨?_, ?_, fun id hid => ?_, fun entry hentry => ?_⟩
  · have hmissing : (((distinct ids).filter fun id => (s.target? b op id).isNone).map
        notReached).map (·.1) = (distinct ids).filter fun id => !(s.target? b op id).isSome := by
      simp only [List.map_map, Function.comp_def, notReached, List.map_id', Option.not_isSome]
    have honce := h.once
    rw [map_id_targets] at honce
    rw [hsucceeded, h.failed, List.map_append, hmissing]
    calc done
        ++ ((distinct ids).filter (fun id => !(s.target? b op id).isSome) ++ refused.map (·.1))
      _ |>.Perm ((done ++ refused.map (·.1))
          ++ (distinct ids).filter fun id => !(s.target? b op id).isSome) := by
        rw [List.append_assoc]
        exact List.perm_append_comm.append_left done
      _ |>.Perm (distinct ids) :=
        (honce.append_right _).trans (List.filter_append_perm _ _)
  · rw [hsucceeded]
    exact h.kept
  · rw [hsucceeded] at hid
    obtain ⟨t, ht, rfl⟩ := List.mem_map.1 (h.mem_ids hid)
    exact ⟨t, hfound t ht, h.carriedOut t ht hid⟩
  · rw [h.failed, List.mem_append] at hentry
    rcases hentry with hmissing | hrefused
    · obtain ⟨id, hid, rfl⟩ := List.mem_map.1 hmissing
      exact .inl ⟨Option.isNone_iff_eq_none.1 (List.mem_filter.1 hid).2, rfl⟩
    · obtain ⟨t, ht, hid, hfails⟩ := h.told entry hrefused
      exact .inr ⟨t, hid ▸ hfound t ht, hfails⟩

end Requests

section Example

open Sample

theorem labelRequest_asksFor : labelRequest.AsksFor "board" (.naming (.str "add_labels")
    (.obj [("column", .str "tags"), ("labels", .ofStrings ["a"])]) ["s", "t"]) where
  route := archiveRequest_asksFor.route
  method := rfl
  operation := rfl
  params := rfl
  taskIds := rfl
  filters := rfl

/-- A column that takes one label, which the second task has already. -/
def Sample.oneLabel : Store :=
  { relabelled with
    columns := [column "tags" .labels [("max_labels", .int 1)]]
    values := [⟨"t", "tags", .ofStrings ["b"]⟩] }

end Example

end BoardQuery
