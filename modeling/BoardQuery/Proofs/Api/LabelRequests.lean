import BoardQuery.Proofs.Api.BulkBatches
import BoardQuery.Proofs.Api.ValueTable

/-!
# Requests that add and remove labels

A batch comes to each of its tasks once, and the task is then as it was before the batch. So what a
step makes of a task is what an answered request makes of it: the value is stored and the task is
told as successful, or the task is as it was and its failure is told (`Request.CarriesOut.settled`).
For labels this gives what a request adds and removes (`addLabels_answered`,
`removeLabels_answered`), and by it what two requests come to that are answered one after the other:
the second adds or removes nothing that the first one did, and labels that were added can be taken
away again.
-/

namespace BoardQuery

/-! ## Steps of a batch -/

/-- Whether a run tells a task as successful, for which it has stored a value. -/
structure BulkRun.Stores (run : BulkRun) (t : Task) (c : BoardColumn) (v : Json) : Prop where
  told : t.id ∈ run.succeeded
  stored : run.store.value? t.id c.id = some v

/-- Whether a run tells a task as failed with a text, and has left it as it was. -/
structure BulkRun.Spares (run : BulkRun) (s : Store) (t : Task) (text : String) : Prop where
  told : (t.id, text) ∈ run.failed
  kept : s.SameTask t.id run.store

section Steps

variable {env : Surroundings} {change : TaskChange} {run run' : BulkRun} {tasks : List Task}
  {t : Task} {c : BoardColumn} {v : Json} {text : String} {done : List String}
  {refused : List (String × String)}

theorem applyChange_of_storing (h : BulkRun.step env change run t = .ok (run.storing t c v)) :
    applyChange env run.store t change = .ok (run.store.putValue t.id c.id v) := by
  rcases step_cases h with ⟨s, happly, hnext⟩ | ⟨e, text, -, -, hnext⟩
  · obtain ⟨rfl, -, -⟩ := BulkRun.mk.inj hnext
    exact happly
  · have hfailed := (BulkRun.mk.inj hnext).2.2
    exact absurd hfailed (by simp)

theorem applyChange_of_failing (h : BulkRun.step env change run t = .ok (run.failing t text)) :
    ∃ e, applyChange env run.store t change = .error e ∧ failureText? e = some text := by
  rcases step_cases h with ⟨s, -, hnext⟩ | ⟨e, text', happly, htext, hnext⟩
  · have hsucceeded := (BulkRun.mk.inj hnext).2.1
    exact absurd hsucceeded (by simp)
  · have hfailed := (BulkRun.mk.inj hnext).2.2
    obtain rfl : text = text' := by simpa using hfailed
    exact ⟨e, happly, htext⟩

/-- A task of a run is told as successful or as failed. -/
theorem BulkRun.Settles.outcome (h : run.Settles run' env change tasks done refused)
    (hnodup : (tasks.map (·.id)).Nodup) (ht : t ∈ tasks) :
    (t.id ∈ done ∧ change.CarriedOut env t run.store run'.store)
    ∨ (t.id ∉ done
      ∧ ∃ text, (t.id, text) ∈ refused ∧ change.FailsWith env t run.store text) := by
  by_cases hdone : t.id ∈ done
  · exact .inl ⟨hdone, h.carriedOut t ht hdone⟩
  · have htold := h.once.symm.subset (List.mem_map_of_mem ht)
    obtain ⟨⟨id, text⟩, hentry, rfl⟩ :=
      List.mem_map.1 ((List.mem_append.1 htold).resolve_left hdone)
    obtain ⟨u, hu, hid, hfails⟩ := h.told _ hentry
    obtain rfl : u = t := List.inj_on_of_nodup_map hnodup hu ht hid
    exact .inr ⟨hdone, text, hentry, hfails⟩

end Steps

/-! ## Answered requests -/

/-- Whether a request is answered for which a change is carried out, and a task is among those that
it is for. -/
structure Request.CarriesOut (r : Request) (cfg : Settings) (now : Moment) (s : Store)
    (change : TaskChange) (t : Task) : Prop where
  answered : (handle cfg now s r).1.status = 200
  planned : ∃ board b q plan, r.AsksFor board q ∧ s.board? board = some b
    ∧ planBulk cfg now s (s.schema b) q = .ok plan ∧ plan.change = change ∧ t ∈ plan.targets.tasks

section Requests

variable {cfg : Settings} {now : Moment} {s : Store} {r : Request} {change : TaskChange} {t : Task}
  {c : BoardColumn} {v : Json} {text : String}

/-- What an answered request comes to for a task that it is for. -/
theorem Request.CarriesOut.outcome (h : r.CarriesOut cfg now s change t)
    (hs : (s.tasks.map (·.id)).Nodup) :
    ∃ op run, handle cfg now s r = (bulkReply op run, run.store)
      ∧ ((t.id ∈ run.succeeded ∧ change.CarriedOut (s.surroundings now) t s run.store)
        ∨ ∃ text, change.FailsWith (s.surroundings now) t s text ∧ run.Spares s t text) := by
  obtain ⟨board, b, q, plan, hr, hboard, hplan, rfl, ht⟩ := h.planned
  obtain ⟨b', -, op, run, hboard', -, hrun, hhandle⟩ := handle_bulk_answered hr h.answered
  obtain rfl := Option.some.inj (hboard.symm.trans hboard')
  obtain ⟨plan', refused, hplan', -, hsettles⟩ := runBulk_settles hs hrun
  obtain rfl := Except.ok.inj (hplan.symm.trans hplan')
  obtain ⟨-, htargets⟩ := planBulk_eq_ok hplan
  refine ⟨op, run, hhandle, ?_⟩
  rcases hsettles.outcome (targets_nodup hs htargets) ht with hdone | ⟨hkept, text, htold, hfails⟩
  · exact .inl hdone
  · refine .inr ⟨text, hfails, ?_, hsettles.kept _ hkept⟩
    rw [hsettles.failed]
    exact List.mem_append_right _ htold

/-- Where every step that comes to a task as it is stores a value, an answered request does. -/
theorem Request.CarriesOut.stores (h : r.CarriesOut cfg now s change t)
    (hs : (s.tasks.map (·.id)).Nodup)
    (hstep : ∀ run : BulkRun, s.SameTask t.id run.store →
      BulkRun.step (s.surroundings now) change run t = .ok (run.storing t c v)) :
    ∃ op run, handle cfg now s r = (bulkReply op run, run.store) ∧ run.Stores t c v := by
  have hchange (s₁ : Store) (hsame : s.SameTask t.id s₁) :=
    applyChange_of_storing (hstep ⟨s₁, [], []⟩ hsame)
  obtain ⟨op, run, hhandle, ⟨htold, s₁, s₂, hbefore, happly, hafter⟩ | ⟨text, hfails, -⟩⟩ :=
    h.outcome hs
  · obtain rfl := Except.ok.inj (happly.symm.trans (hchange s₁ hbefore))
    refine ⟨op, run, hhandle, htold, ?_⟩
    rw [hafter.value?_eq, Store.value?_putValue]
  · obtain ⟨s₁, e, hbefore, happly, -⟩ := hfails
    exact absurd (happly.symm.trans (hchange s₁ hbefore)) nofun

/-- Where every step that comes to a task as it is fails with a text, an answered request does. -/
theorem Request.CarriesOut.spares (h : r.CarriesOut cfg now s change t)
    (hs : (s.tasks.map (·.id)).Nodup)
    (hstep : ∀ run : BulkRun, s.SameTask t.id run.store →
      BulkRun.step (s.surroundings now) change run t = .ok (run.failing t text)) :
    ∃ op run, handle cfg now s r = (bulkReply op run, run.store) ∧ run.Spares s t text := by
  have hchange (s₁ : Store) (hsame : s.SameTask t.id s₁) :=
    applyChange_of_failing (hstep ⟨s₁, [], []⟩ hsame)
  obtain ⟨op, run, hhandle, ⟨-, s₁, s₂, hbefore, happly, -⟩ | ⟨text', hfails, hspares⟩⟩ :=
    h.outcome hs
  · obtain ⟨e, hfails, -⟩ := hchange s₁ hbefore
    exact absurd (happly.symm.trans hfails) nofun
  · obtain ⟨s₁, e, hbefore, happly, htext⟩ := hfails
    obtain ⟨e', happly', htext'⟩ := hchange s₁ hbefore
    obtain rfl := Except.error.inj (happly.symm.trans happly')
    obtain rfl := Option.some.inj (htext.symm.trans htext')
    exact ⟨op, run, hhandle, hspares⟩

/-- A task that every step stores a value for or fails of is settled so by an answered request. -/
theorem Request.CarriesOut.settled (h : r.CarriesOut cfg now s change t)
    (hs : (s.tasks.map (·.id)).Nodup) {goes stays : Prop} (hgoes : goes ↔ ¬ stays)
    (hstep : ∀ run : BulkRun, s.SameTask t.id run.store →
      (goes → BulkRun.step (s.surroundings now) change run t = .ok (run.storing t c v))
      ∧ (stays → BulkRun.step (s.surroundings now) change run t = .ok (run.failing t text))) :
    ∃ op run, handle cfg now s r = (bulkReply op run, run.store) ∧ (goes → run.Stores t c v)
      ∧ (stays → run.Spares s t text) := by
  by_cases hstays : stays
  · obtain ⟨op, run, hhandle, hspares⟩ := h.spares hs fun run hsame => (hstep run hsame).2 hstays
    exact ⟨op, run, hhandle, fun h => absurd hstays (hgoes.1 h), fun _ => hspares⟩
  · obtain ⟨op, run, hhandle, hstores⟩ :=
      h.stores hs fun run hsame => (hstep run hsame).1 (hgoes.2 hstays)
    exact ⟨op, run, hhandle, fun _ => hstores, fun h => absurd h hstays⟩

/-- Labels that a request carries to a task are accepted by their column, which is one of the board
of the task. -/
theorem Request.CarriesOut.accepts {P : List String} (h : r.CarriesOut cfg now s change t)
    (hchange : change = .addLabels c P ∨ change = .removeLabels c P) :
    c.AcceptsLabels P ∧ c.boardId = t.boardId := by
  obtain ⟨board, b, q, plan, -, -, hplan, rfl, ht⟩ := h.planned
  have hprepared := prepareBulk_of_planBulk hplan
  obtain ⟨-, htargets⟩ := planBulk_eq_ok hplan
  refine ⟨accepts_of_prepareBulk hprepared hchange, ?_⟩
  have hconcerns := prepareBulk_concerns hprepared
  have hcolumn : c ∈ (s.schema b).columns := by
    rcases hchange with hchange | hchange <;> rwa [hchange] at hconcerns
  exact (mem_columns_schema.1 hcolumn).2.trans (targets_onBoard htargets t ht).2.symm

end Requests

/-! ## Labels -/

section Labels

variable {cfg : Settings} {now : Moment} {s : Store} {r : Request} {t : Task} {c : BoardColumn}
  {L P : List String}

theorem Store.HoldsLabels.of_sameTask {s' : Store} (h : s.HoldsLabels t c L)
    (hsame : s.SameTask t.id s') : s'.HoldsLabels t c L where
  stored := by rw [hsame.value?_eq, h.stored]
  canonical := h.canonical
  taken := h.taken

/-- An answered request to add labels to a task stores those of the task and the new ones after
them, if the column takes so many. Otherwise it tells that there are too many, and the task keeps
its own. -/
theorem addLabels_answered (hs : (s.tasks.map (·.id)).Nodup)
    (h : r.CarriesOut cfg now s (.addLabels c P) t) (hL : s.HoldsLabels t c L) :
    ∃ op run, handle cfg now s r = (bulkReply op run, run.store)
      ∧ (c.TakesLabels (joinLabels L P).length →
        run.Stores t c (.ofStrings (joinLabels L P)))
      ∧ (¬ c.TakesLabels (joinLabels L P).length →
        run.Spares s t (problemsText c.name [.tooManyLabels c.maxLabels])) := by
  obtain ⟨hP, hplaced⟩ := h.accepts (.inl rfl)
  exact h.settled hs not_not.symm fun run hsame =>
    step_addLabels (s.surroundings now) hP hplaced (hL.of_sameTask hsame)

/-- An answered request to remove labels from a task stores the others. Only where none are left and
the column requires some, it tells that they are required, and the task keeps its own. -/
theorem removeLabels_answered (hs : (s.tasks.map (·.id)).Nodup)
    (h : r.CarriesOut cfg now s (.removeLabels c P) t) (hL : s.HoldsLabels t c L) :
    ∃ op run, handle cfg now s r = (bulkReply op run, run.store)
      ∧ (¬ (dropLabels L P = [] ∧ c.requiresLabels = true) →
        run.Stores t c (labelsJson (dropLabels L P)))
      ∧ (dropLabels L P = [] ∧ c.requiresLabels = true →
        run.Spares s t (problemsText c.name [.required])) := by
  obtain ⟨hP, hplaced⟩ := h.accepts (.inr rfl)
  exact h.settled hs Iff.rfl fun run hsame =>
    step_removeLabels (s.surroundings now) P hP.type hplaced (hL.of_sameTask hsame)

/-- The labels that a task holds after labels were added to it. -/
theorem holdsLabels_addAnswered (hs : (s.tasks.map (·.id)).Nodup)
    (h : r.CarriesOut cfg now s (.addLabels c P) t) (hL : s.HoldsLabels t c L) :
    (c.TakesLabels (joinLabels L P).length →
      (handle cfg now s r).2.HoldsLabels t c (joinLabels L P))
    ∧ (¬ c.TakesLabels (joinLabels L P).length → (handle cfg now s r).2.HoldsLabels t c L) := by
  obtain ⟨hP, -⟩ := h.accepts (.inl rfl)
  obtain ⟨op, run, hhandle, hstores, hspares⟩ := addLabels_answered hs h hL
  rw [hhandle]
  refine ⟨fun htaken => ?_, fun hmany => hL.of_sameTask (hspares hmany).kept⟩
  have hbefore : (BulkRun.mk s [] []).store.HoldsLabels t c L := hL
  have hadded := holdsLabels_added hP hbefore htaken
  refine ⟨?_, hadded.canonical, hadded.taken⟩
  rw [(hstores htaken).stored, labelsJson_of_ne (joinLabels_ne_nil hP.some), Option.getD_some]

/-- The labels that a task holds after labels were removed from it. -/
theorem holdsLabels_removeAnswered (hs : (s.tasks.map (·.id)).Nodup)
    (h : r.CarriesOut cfg now s (.removeLabels c P) t) (hL : s.HoldsLabels t c L) :
    (¬ (dropLabels L P = [] ∧ c.requiresLabels = true) →
      (handle cfg now s r).2.HoldsLabels t c (dropLabels L P))
    ∧ (dropLabels L P = [] ∧ c.requiresLabels = true →
      (handle cfg now s r).2.HoldsLabels t c L) := by
  obtain ⟨op, run, hhandle, hstores, hspares⟩ := removeLabels_answered hs h hL
  rw [hhandle]
  refine ⟨fun hleft => ?_, fun hnone => hL.of_sameTask (hspares hnone).kept⟩
  have hbefore : (BulkRun.mk s [] []).store.HoldsLabels t c L := hL
  have hremoved := holdsLabels_removed (P := P) hbefore
  refine ⟨?_, hremoved.canonical, hremoved.taken⟩
  rw [(hstores hleft).stored, Option.getD_some]

end Labels

section Example

open Sample

/-- A column that takes one label has room for it where a task has none, and a task that has one
keeps its own. -/
example : (handle .usual Moment.first oneLabel labelRequest).2.HoldsLabels (task "s")
      (column "tags" .labels [("max_labels", .int 1)]) ["a"]
    ∧ (handle .usual Moment.first oneLabel labelRequest).2.HoldsLabels (task "t")
      (column "tags" .labels [("max_labels", .int 1)]) ["b"] := by
  have hlimit : (column "tags" .labels [("max_labels", .int 1)]).maxLabels = .int 1 := rfl
  have hids : (oneLabel.tasks.map (·.id)).Nodup := by decide
  have hschema : oneLabel.schema board = _ := schema_store rfl [] []
  have hprepared : prepareBulk Moment.first oneLabel board (.str "add_labels")
      (.obj [("column", .str "tags"), ("labels", .ofStrings ["a"])])
      = .ok (.addLabels, .addLabels (column "tags" .labels [("max_labels", .int 1)]) ["a"]) := by
    rw [prepareBulk, hschema]
    rfl
  have hplan : planBulk .usual Moment.first oneLabel (oneLabel.schema board)
      (.naming _ _ ([task "s", task "t"].map (·.id)))
      = .ok ⟨_, _, ⟨[task "s", task "t"], []⟩⟩ :=
    planBulk_naming hprepared (by decide) hids (by decide) (by decide)
  have hcarried (t : Task) (ht : t ∈ [task "s", task "t"]) :
      labelRequest.CarriesOut .usual Moment.first oneLabel
        (.addLabels (column "tags" .labels [("max_labels", .int 1)]) ["a"]) t :=
    ⟨by decide +kernel, "board", board, _, _, labelRequest_asksFor, rfl, hplan, rfl, ht⟩
  have hnone : oneLabel.HoldsLabels (task "s")
      (column "tags" .labels [("max_labels", .int 1)]) [] := ⟨rfl, rfl, nofun⟩
  have hone : oneLabel.HoldsLabels (task "t")
      (column "tags" .labels [("max_labels", .int 1)]) ["b"] :=
    ⟨rfl, by decide +kernel, fun _ => (BoardColumn.takesLabels_iff hlimit).2 (by decide)⟩
  refine ⟨?_, ?_⟩
  · exact (holdsLabels_addAnswered hids (hcarried _ (by simp)) hnone).1
      ((BoardColumn.takesLabels_iff hlimit).2 (by decide))
  · refine (holdsLabels_addAnswered hids (hcarried _ (by simp)) hone).2 fun htaken => ?_
    exact absurd ((BoardColumn.takesLabels_iff hlimit).1 htaken) (by decide)

end Example

/-! ## One request after another -/

section Sequences

variable {cfg : Settings} {now now' : Moment} {s : Store} {r r' : Request} {t : Task}
  {c : BoardColumn} {L P : List String}

theorem nodup_ids_handle (hs : s.Coherent) :
    ((handle cfg now s r).2.tasks.map (·.id)).Nodup :=
  ((handle_effect cfg now s r).coherent hs).taskIds

/-- A request that adds labels loses none, and the next one that adds the same changes nothing. -/
theorem addLabels_answered_again (hs : s.Coherent) (h : r.CarriesOut cfg now s (.addLabels c P) t)
    (h' : r'.CarriesOut cfg now' (handle cfg now s r).2 (.addLabels c P) t)
    (hL : s.HoldsLabels t c L) :
    ∃ L', L ⊆ L' ∧ (handle cfg now s r).2.HoldsLabels t c L'
      ∧ (handle cfg now' (handle cfg now s r).2 r').2.HoldsLabels t c L' := by
  obtain ⟨htakes, hfull⟩ := holdsLabels_addAnswered hs.taskIds h hL
  by_cases htaken : c.TakesLabels (joinLabels L P).length
  · obtain ⟨hagain, -⟩ := holdsLabels_addAnswered (nodup_ids_handle hs) h' (htakes htaken)
    rw [joinLabels_again] at hagain
    exact ⟨_, fun l hl => mem_joinLabels.2 (.inl hl), htakes htaken, hagain htaken⟩
  · obtain ⟨-, hagain⟩ := holdsLabels_addAnswered (nodup_ids_handle hs) h' (hfull htaken)
    exact ⟨L, List.Subset.refl L, hfull htaken, hagain htaken⟩

/-- After a request that removes labels, the next one that removes the same changes nothing. -/
theorem removeLabels_answered_again (hs : s.Coherent)
    (h : r.CarriesOut cfg now s (.removeLabels c P) t)
    (h' : r'.CarriesOut cfg now' (handle cfg now s r).2 (.removeLabels c P) t)
    (hL : s.HoldsLabels t c L) :
    ∃ L', (handle cfg now s r).2.HoldsLabels t c L'
      ∧ (handle cfg now' (handle cfg now s r).2 r').2.HoldsLabels t c L' := by
  obtain ⟨hleaves, hkeeps⟩ := holdsLabels_removeAnswered hs.taskIds h hL
  by_cases hnone : dropLabels L P = [] ∧ c.requiresLabels = true
  · obtain ⟨-, hagain⟩ := holdsLabels_removeAnswered (nodup_ids_handle hs) h' (hkeeps hnone)
    exact ⟨L, hkeeps hnone, hagain hnone⟩
  · obtain ⟨hagain, -⟩ := holdsLabels_removeAnswered (nodup_ids_handle hs) h' (hleaves hnone)
    rw [dropLabels_again] at hagain
    exact ⟨_, hleaves hnone, hagain hnone⟩

/-- Labels that one request has added, and of which the task held none, are taken away by another
that removes them. -/
theorem removeLabels_answered_undoes (hs : s.Coherent)
    (h : r.CarriesOut cfg now s (.addLabels c P) t)
    (h' : r'.CarriesOut cfg now' (handle cfg now s r).2 (.removeLabels c P) t)
    (hL : s.HoldsLabels t c L) (hsome : L ≠ []) (hdisjoint : L.Disjoint P)
    (htaken : c.TakesLabels (joinLabels L P).length) :
    (handle cfg now' (handle cfg now s r).2 r').2.HoldsLabels t c L := by
  obtain ⟨hadded, -⟩ := holdsLabels_addAnswered hs.taskIds h hL
  obtain ⟨hback, -⟩ := holdsLabels_removeAnswered (nodup_ids_handle hs) h' (hadded htaken)
  rw [dropLabels_joinLabels hdisjoint] at hback
  exact hback fun hnone => hsome hnone.1

end Sequences

end BoardQuery
