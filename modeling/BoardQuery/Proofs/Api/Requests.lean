import BoardQuery.Proofs.Service.Writes

/-!
# What requests do to the store

A request leaves all but the saved filters alone, or it writes values of a task, clears one, or
carries out a bulk operation (`handle_effect`). No request touches the boards, their columns, the
users or the members, and a bulk operation keeps what each of its steps keeps.
-/

namespace BoardQuery

/-- What a request that is carried out has done to the store. -/
inductive Effect (c : Settings) (now : Moment) (s : Store) : Store → Prop
  | filters (fs : List SavedFilter) (n : Nat) :
    Effect c now s { s with filters := fs, filtersWritten := n }
  | written {t : Task} {b : Board} {values : Json} {s' : Store} (hs : t ∈ s.tasks)
    (hplaced : t.boardId = b.id)
    (h : setValues (s.surroundings now) s t (s.schema b) values = .ok s') : Effect c now s s'
  | cleared {t : Task} {b : Board} {column : BoardColumn} {s' : Store}
    (h : clearValue s t column = .ok s') (hcolumn : column ∈ (s.schema b).columns) :
    Effect c now s s'
  | bulk {b : Board} {r : BulkRequest} {run : BulkRun} (hboard : b ∈ s.boards)
    (h : run.Upto c now s (s.schema b) r) :
    Effect c now s run.store

namespace Effect

variable {c : Settings} {now : Moment} {s : Store}

theorem same : Effect c now s s := .filters s.filters s.filtersWritten

end Effect

section Filters

variable {now : Moment} {s s' : Store} {schema : BoardSchema} {userId id boardId : String}

/-- Whether two stores have everything but the saved filters in common. -/
def SameButFilters (s s' : Store) : Prop :=
  s' = { s with filters := s'.filters, filtersWritten := s'.filtersWritten }

theorem SameButFilters.effect {c : Settings} (h : SameButFilters s s') : Effect c now s s' := by
  rw [h]
  exact .filters _ _

theorem SameButFilters.trans {s₁ s₂ s₃ : Store} (h : SameButFilters s₁ s₂)
    (h' : SameButFilters s₂ s₃) : SameButFilters s₁ s₃ := by
  rw [SameButFilters] at *
  rw [h', h]

theorem SameButFilters.users (h : SameButFilters s s') : s'.users = s.users := by
  rw [show s' = _ from h]

theorem SameButFilters.tasks (h : SameButFilters s s') : s'.tasks = s.tasks := by
  rw [show s' = _ from h]

theorem SameButFilters.values (h : SameButFilters s s') : s'.values = s.values := by
  rw [show s' = _ from h]

theorem SameButFilters.schema_eq (h : SameButFilters s s') (b : Board) :
    s'.schema b = s.schema b := by
  rw [show s' = _ from h]
  rfl

theorem sameButFilters_makeDefault (f : SavedFilter) : SameButFilters s (s.makeDefault f) := rfl

theorem sameButFilters_recordUse : SameButFilters s (recordUse now s id) := rfl

theorem saveFilter_sameButFilters {d : FilterDraft}
    (h : saveFilter now s schema userId d = .ok (s', id)) : SameButFilters s s' := by
  unfold saveFilter at h
  split at h
  · exact absurd h refuse_ne_ok
  · simp only [refuse_bind, ite_refuse_eq_ok, bind_eq_ok, pure_eq_ok, Prod.mk.injEq] at h
    obtain ⟨-, -, tree, -, rfl, -⟩ := h
    split_ifs <;> rfl

theorem saveQueryFilter_sameButFilters {q : TaskQuery} {raw : Json} {tree : Option BuiltFilter}
    {saved : Option String}
    (h : saveQueryFilter now s schema userId q raw tree = .ok (s', saved)) :
    SameButFilters s s' := by
  simp only [saveQueryFilter, refuse_bind] at h
  split_ifs at h
  · simp only [pure_eq_ok, Prod.mk.injEq] at h
    rw [← h.1]
    rfl
  · exact absurd h refuse_ne_ok
  · simp only [bind_eq_ok, pure_eq_ok, Prod.mk.injEq] at h
    obtain ⟨⟨s1, id⟩, hsave, rfl, -⟩ := h
    exact saveFilter_sameButFilters hsave

theorem listTasks_sameButFilters {c : Settings} {b : Board} {q : TaskQuery} {l : Listing}
    (h : listTasks c now s b userId q = .ok (s', l)) : SameButFilters s s' := by
  simp only [listTasks, bind_eq_ok, pure_eq_ok, Prod.mk.injEq] at h
  obtain ⟨⟨raw, applied⟩, -, tree, -, ⟨order, warning⟩, -, pager, -, page, -, ⟨s2, saved⟩, hsave,
    rfl, -⟩ := h
  refine SameButFilters.trans ?_ (saveQueryFilter_sameButFilters hsave)
  rcases applied with _ | f
  · rfl
  · exact sameButFilters_recordUse

theorem chooseDefault_sameButFilters (h : chooseDefault s id boardId userId = .ok s') :
    SameButFilters s s' := by
  simp only [chooseDefault, refuse_bind, bind_eq_ok, ite_refuse_eq_ok, pure_eq_ok] at h
  obtain ⟨f, -, -, rfl⟩ := h
  exact sameButFilters_makeDefault f

theorem deleteFilter_sameButFilters (h : deleteFilter s id boardId userId = .ok s') :
    SameButFilters s s' := by
  simp only [deleteFilter, refuse_bind, bind_eq_ok, ite_refuse_eq_ok, pure_eq_ok] at h
  obtain ⟨f, -, -, rfl⟩ := h
  rfl

end Filters

/-! ## Routes -/

section Routes

variable {c : Settings} {now : Moment} {s s' : Store} {r : Request} {reply : Reply}

theorem boardOrReply_eq_ok {id : String} {b : Board} (h : boardOrReply s id = .ok b) :
    s.board? id = some b := by
  unfold boardOrReply at h
  split at h
  · obtain rfl := Except.ok.inj h
    assumption
  · exact absurd h (by simp)

/-- A request is held back on a board only if the board is there. -/
theorem onLimitedBoard_eq (s : Store) (r : Request) (id : String) (act : Board → User → Handled) :
    onLimitedBoard s r id act
      = if (s.board? id).isSome && r.heldBack then .error .heldBack else onBoard s r id act := by
  rcases hb : s.board? id with _ | b
  · simp only [onLimitedBoard, onBoard, boardOrReply, hb, error_bind, Option.isSome_none,
      Bool.false_and, Bool.false_eq_true, if_false]
  · simp only [onLimitedBoard, boardOrReply, hb, ok_bind, Option.isSome_some, Bool.true_and]

theorem onLimitedBoard_eq_ok {id : String} {act : Board → User → Handled} {a : Answered}
    (h : onLimitedBoard s r id act = .ok a) : onBoard s r id act = .ok a := by
  rw [onLimitedBoard_eq] at h
  split_ifs at h
  exact h

section Senders

variable {s₁ s₂ : Store} {r₁ r₂ : Request}

theorem sender?_congr (husers : s₂.users = s₁.users) (hr : r₂.authorization = r₁.authorization) :
    sender? s₂ r₂ = sender? s₁ r₁ := by
  have htoken : r₂.token? = r₁.token? := by
    rw [Request.token?, Request.token?, hr]
  rw [sender?, sender?, husers, htoken]

theorem authorize_congr {b : Board} (husers : s₂.users = s₁.users)
    (hmember : ∀ userId, s₂.isMember userId b.workspaceId = s₁.isMember userId b.workspaceId)
    (hr : r₂.authorization = r₁.authorization) : authorize s₂ r₂ b = authorize s₁ r₁ b := by
  simp only [authorize, authenticate, sender?_congr husers hr, hmember]

end Senders

theorem authorize_eq_ok {b : Board} {u : User} (h : authorize s r b = .ok u) :
    sender? s r = some u := by
  simp only [authorize, bind_eq_ok] at h
  obtain ⟨u', hu, h⟩ := h
  split_ifs at h
  obtain rfl := pure_eq_ok.1 h
  unfold authenticate at hu
  split at hu
  · obtain rfl := Except.ok.inj hu
    assumption
  · exact absurd hu (by simp)

theorem onBoard_eq_ok {id : String} {act : Board → User → Handled} {a : Answered}
    (h : onBoard s r id act = .ok a) :
    r.method = "OPTIONS" ∧ a = (⟨200, none⟩, s) ∨ ∃ b u, r.method ≠ "OPTIONS"
      ∧ s.board? id = some b ∧ sender? s r = some u ∧ act b u = .ok a := by
  simp only [onBoard, bind_eq_ok] at h
  obtain ⟨b, hboard, h⟩ := h
  split_ifs at h with hmethod
  · exact .inl ⟨beq_iff_eq.1 hmethod, (pure_eq_ok.1 h).symm⟩
  · simp only [bind_eq_ok] at h
    obtain ⟨u, hu, h⟩ := h
    exact .inr ⟨b, u, by simpa using hmethod, boardOrReply_eq_ok hboard, authorize_eq_ok hu, h⟩

theorem onTask_eq_ok {id : String} {act : Task → Board → Handled} {a : Answered}
    (h : onTask s r id act = .ok a) :
    a = (⟨200, none⟩, s)
      ∨ ∃ t b, s.task? id = some t ∧ s.board? t.boardId = some b ∧ act t b = .ok a := by
  simp only [onTask, bind_eq_ok] at h
  obtain ⟨⟨t, b⟩, htask, h⟩ := h
  have hfound : s.task? id = some t ∧ s.board? t.boardId = some b := by
    unfold taskOrReply at htask
    split at htask
    · simp only [map_eq_ok, Prod.mk.injEq] at htask
      obtain ⟨b', hb', rfl, rfl⟩ := htask
      exact ⟨‹_›, boardOrReply_eq_ok hb'⟩
    · exact absurd htask (by simp)
  split_ifs at h
  · exact .inl (pure_eq_ok.1 h).symm
  · simp only [bind_eq_ok] at h
    obtain ⟨u, -, h⟩ := h
    exact .inr ⟨t, b, hfound.1, hfound.2, h⟩

theorem onService_eq_ok {act : Handled} {a : Answered} (h : onService s r act = .ok a) :
    a = (⟨200, none⟩, s) ∨ act = .ok a := by
  simp only [onService] at h
  split_ifs at h
  · exact .inl (pure_eq_ok.1 h).symm
  · simp only [bind_eq_ok] at h
    obtain ⟨u, -, h⟩ := h
    exact .inr h

theorem onBoard_effect {id : String} {act : Board → User → Handled}
    (hact : ∀ b u, b ∈ s.boards → act b u = .ok (reply, s') → Effect c now s s')
    (h : onBoard s r id act = .ok (reply, s')) : Effect c now s s' := by
  rcases onBoard_eq_ok h with ⟨-, heq⟩ | ⟨b, u, -, hb, -, h⟩
  · rw [(Prod.mk.inj heq).2]
    exact .same
  · exact hact b u (List.mem_of_find?_eq_some hb) h

theorem onTask_effect {id : String} {act : Task → Board → Handled}
    (hact : ∀ t b, t ∈ s.tasks → t.boardId = b.id → act t b = .ok (reply, s') → Effect c now s s')
    (h : onTask s r id act = .ok (reply, s')) : Effect c now s s' := by
  rcases onTask_eq_ok h with heq | ⟨t, b, ht, hb, h⟩
  · rw [(Prod.mk.inj heq).2]
    exact .same
  · have hplaced : b.id = t.boardId := by simpa using List.find?_some hb
    exact hact t b (List.mem_of_find?_eq_some ht) hplaced.symm h

theorem onService_effect {act : Handled} (hact : act = .ok (reply, s') → Effect c now s s')
    (h : onService s r act = .ok (reply, s')) : Effect c now s s' := by
  rcases onService_eq_ok h with heq | h
  · rw [(Prod.mk.inj heq).2]
    exact .same
  · exact hact h

theorem handleColumnTypes_same (h : handleColumnTypes s = .ok (reply, s')) : s' = s := by
  simp only [handleColumnTypes, bind_eq_ok, pure_eq_ok, Prod.mk.injEq] at h
  obtain ⟨entries, -, -, rfl⟩ := h
  rfl

theorem handleColumnType_same {name : String} (h : handleColumnType s name = .ok (reply, s')) :
    s' = s := by
  unfold handleColumnType at h
  split at h
  · simp only [bind_eq_ok, pure_eq_ok, Prod.mk.injEq] at h
    obtain ⟨entry, -, -, rfl⟩ := h
    rfl
  · exact absurd h (by simp)

theorem handleFilterCheck_same {b : Board} (h : handleFilterCheck c now s r b = .ok (reply, s')) :
    s' = s := by
  simp only [handleFilterCheck, bind_eq_ok] at h
  obtain ⟨raw, -, h⟩ := h
  split at h
  · exact (Prod.mk.inj (pure_eq_ok.1 h)).2.symm
  · exact absurd h (by simp)
  · exact absurd h (by simp)

theorem handleTaskList_effect {b : Board} {u : User}
    (h : handleTaskList c now s r b u = .ok (reply, s')) : Effect c now s s' := by
  simp only [handleTaskList, bind_eq_ok] at h
  obtain ⟨parameters, -, h⟩ := h
  split at h
  · exact absurd h (by simp)
  · simp only [bind_eq_ok, pure_eq_ok, Prod.mk.injEq] at h
    obtain ⟨⟨s1, listing⟩, hlist, -, rfl⟩ := h
    exact (listTasks_sameButFilters (orReply_eq_ok.1 hlist)).effect

theorem handleSaveFilter_effect {b : Board} {u : User}
    (h : handleSaveFilter now s r b u = .ok (reply, s')) : Effect c now s s' := by
  simp only [handleSaveFilter, bind_eq_ok, pure_eq_ok, Prod.mk.injEq] at h
  obtain ⟨name, -, definition, -, description, -, isPublic, -, isDefault, -, ⟨s1, id⟩, hsave, -,
    rfl⟩ := h
  exact (saveFilter_sameButFilters (orReply_eq_ok.1 hsave)).effect

theorem handlePutValues_sets {t : Task} {b : Board}
    (h : handlePutValues now s r t b = .ok (reply, s')) :
    ∃ values, setValues (s.surroundings now) s t (s.schema b) values = .ok s' := by
  simp only [handlePutValues, bind_eq_ok, pure_eq_ok, Prod.mk.injEq] at h
  obtain ⟨values, -, s1, hset, -, rfl⟩ := h
  exact ⟨values, orReply_eq_ok.1 hset⟩

theorem handleClearValue_clears {t : Task} {b : Board} {column : String}
    (h : handleClearValue s t b column = .ok (reply, s')) :
    ∃ column, clearValue s t column = .ok s' ∧ column ∈ (s.schema b).columns := by
  unfold handleClearValue at h
  split at h
  · rename_i column hfind
    simp only [bind_eq_ok, pure_eq_ok, Prod.mk.injEq] at h
    obtain ⟨s1, hclear, -, rfl⟩ := h
    exact ⟨column, orReply_eq_ok.1 hclear, List.mem_of_find?_eq_some hfind⟩
  · exact absurd h (by simp)

/-- A bulk operation that is not planned leaves the store alone, and any other one has changed some
of its tasks. -/
theorem handleBulk_upto {b : Board} (h : handleBulk c now s r b = .ok (reply, s')) :
    s' = s ∨ ∃ (q : BulkRequest) (run : BulkRun),
      run.Upto c now s (s.schema b) q ∧ run.store = s' := by
  simp only [handleBulk, bind_eq_ok] at h
  obtain ⟨operation, -, params, -, ids, -, filters, -, h⟩ := h
  split at h
  · rename_i hrun
    obtain ⟨-, rfl⟩ := Prod.mk.inj (pure_eq_ok.1 h)
    exact .inr ⟨_, _, runBulk_upto hrun, rfl⟩
  · obtain ⟨-, hleft⟩ := Prod.mk.inj (pure_eq_ok.1 h)
    rcases hplan : planBulk c now s (s.schema b) ⟨operation, params, ids, filters⟩ with e | plan
    · rw [bulkLeftover, hplan] at hleft
      exact .inl hleft.symm
    · obtain ⟨run, hrun, hstore⟩ := bulkLeftover_of_plan hplan
      exact .inr ⟨_, run, hrun, hstore.trans hleft⟩

theorem handleRoute_effect {route : Route} (h : handleRoute c now s r route = .ok (reply, s')) :
    Effect c now s s' := by
  have hsame (h : s' = s) : Effect c now s s' := by
    rw [h]
    exact .same
  have hreads {answer : Reply} (h : (.ok (answer, s) : Handled) = .ok (reply, s')) :
      Effect c now s s' :=
    hsame (Prod.mk.inj (Except.ok.inj h)).2.symm
  cases route with
  | columnTypes => exact onService_effect (fun h => hsame (handleColumnTypes_same h)) h
  | columnType name => exact onService_effect (fun h => hsame (handleColumnType_same h)) h
  | taskList board =>
    exact onBoard_effect (fun _ _ _ => handleTaskList_effect) (onLimitedBoard_eq_ok h)
  | filterColumns board => exact onBoard_effect (fun _ _ _ => hreads) h
  | filterCheck board => exact onBoard_effect (fun _ _ _ h => hsame (handleFilterCheck_same h)) h
  | savedFilters board =>
    refine onBoard_effect (fun b u _ hact => ?_) h
    split_ifs at hact
    · exact handleSaveFilter_effect hact
    · exact hreads hact
  | defaultFilter board id =>
    refine onBoard_effect (fun b u _ hact => ?_) h
    simp only [handleDefaultFilter, bind_eq_ok, pure_eq_ok, Prod.mk.injEq] at hact
    obtain ⟨s1, hchoose, -, rfl⟩ := hact
    exact (chooseDefault_sameButFilters (orReply_eq_ok.1 hchoose)).effect
  | savedFilter board id =>
    refine onBoard_effect (fun b u _ hact => ?_) h
    simp only [handleDeleteFilter, bind_eq_ok, pure_eq_ok, Prod.mk.injEq] at hact
    obtain ⟨s1, hdelete, -, rfl⟩ := hact
    exact (deleteFilter_sameButFilters (orReply_eq_ok.1 hdelete)).effect
  | bulk board =>
    refine onBoard_effect (fun b u hb hact => ?_) h
    rcases handleBulk_upto hact with heq | ⟨q, run, hrun, rfl⟩
    · exact hsame heq
    · exact .bulk hb hrun
  | fieldValues task =>
    rw [handleRoute] at h
    refine onTask_effect (fun t b ht hplaced hact => ?_) h
    split_ifs at hact
    · obtain ⟨values, hset⟩ := handlePutValues_sets hact
      exact .written ht hplaced hset
    · exact hreads hact
  | fieldValue task column =>
    rw [handleRoute] at h
    refine onTask_effect (fun t b _ _ hact => ?_) h
    obtain ⟨column, hclear, hcolumn⟩ := handleClearValue_clears hact
    exact .cleared hclear hcolumn

end Routes

/-- What a request does to the store. -/
theorem handle_effect (c : Settings) (now : Moment) (s : Store) (r : Request) :
    Effect c now s (handle c now s r).2 := by
  unfold handle
  split
  · exact .same
  · rename_i route hroute
    have hsettle : Effect c now s ((handleRoute c now s r route).settle s).2 := by
      rcases h : handleRoute c now s r route with reply | ⟨reply, s'⟩
      · exact .same
      · exact handleRoute_effect h
    split_ifs
    · exact hsettle
    · exact hsettle
    · exact .same

end BoardQuery
