import BoardQuery.Proofs.Api.Requests
import BoardQuery.Proofs.Api.WorkspaceRequests

/-!
# Requests to one workspace

A request that addresses a board or a task of a workspace is answered from the users and from what
belongs to that workspace (`handle_alike`), and it changes nothing else (`handle_keeps`).
-/

namespace BoardQuery

open Store (Agree Confined)

/-- Whether two answers are the same, and the stores after them agree on a workspace, up to the ids
that filters have been given. -/
structure Answered.Alike (workspace : String) (ids : List (String × String)) (s₁ s₂ : Store)
    (a₁ a₂ : Answered) : Prop where
  reply : Reply.Alike (idsAfter ids s₁ s₂ a₁.2) a₁.1 a₂.1
  store : Agree workspace (idsAfter ids s₁ s₂ a₁.2) a₁.2 a₂.2

/-- Whether two handlers come to the same. -/
def Handled.Alike (workspace : String) (ids : List (String × String)) (s₁ s₂ : Store)
    (h₁ h₂ : Handled) : Prop :=
  Answered.Alike workspace ids s₁ s₂ (h₁.settle s₁) (h₂.settle s₂)

section

variable {c : Settings} {now : Moment} {s s' s₁ s₂ : Store} {W : String}
  {ids : List (String × String)} {r r₁ r₂ : Request} {b : Board} {t : Task}

namespace Handled.Alike

/-- Answers that leave the stores as they were. -/
theorem answer (h : Agree W ids s₁ s₂) {a₁ a₂ : Reply} (ha : Reply.Alike ids a₁ a₂) :
    Handled.Alike W ids s₁ s₂ (.ok (a₁, s₁)) (.ok (a₂, s₂)) := by
  have hids : idsAfter ids s₁ s₂ s₁ = ids := idsAfter_same rfl
  refine ⟨?_, ?_⟩
  · exact hids.symm ▸ ha
  · exact hids.symm ▸ h

theorem error (h : Agree W ids s₁ s₂) {a₁ a₂ : Reply} (ha : Reply.Alike ids a₁ a₂) :
    Handled.Alike W ids s₁ s₂ (.error a₁) (.error a₂) :=
  answer h ha

theorem bind_same {α : Type} (h : Agree W ids s₁ s₂) {x : Except Reply α} {f g : α → Handled}
    (hrest : ∀ a, x = .ok a → Handled.Alike W ids s₁ s₂ (f a) (g a)) :
    Handled.Alike W ids s₁ s₂ (x >>= f) (x >>= g) := by
  rcases x with reply | a
  · exact error h (.same reply)
  · exact hrest a rfl

theorem bind_outcome {α β : Type} {R : α → β → Prop} (h : Agree W ids s₁ s₂) {status : Nat}
    {x : Outcome α} {y : Outcome β} {f : α → Handled} {g : β → Handled}
    (hxy : Outcome.Alike ids R x y)
    (hrest : ∀ a b, x = .ok a → y = .ok b → R a b → Handled.Alike W ids s₁ s₂ (f a) (g b)) :
    Handled.Alike W ids s₁ s₂ (orReply status x >>= f) (orReply status y >>= g) := by
  cases hxy with
  | refused e => exact error h (.same _)
  | notFound id => exact error h (.notFound status id)
  | done hab => exact hrest _ _ rfl rfl hab

end Handled.Alike

/-- What a handler comes to, with the part of the store that belongs to a workspace. -/
def Handled.within (workspace : String) (h : Handled) : Handled :=
  h.map fun (reply, s) => (reply, s.within workspace)

/-- Handlers that come to the same in a workspace and do not touch saved filters. -/
theorem Handled.Alike.of_within {h₁ h₂ : Handled} (h : Agree W ids s₁ s₂)
    (hwithin : h₁.within W = h₂.within W)
    (hchanges₁ : ∀ reply s', h₁ = .ok (reply, s') → s₁.Changes W s')
    (hchanges₂ : ∀ reply s', h₂ = .ok (reply, s') → s₂.Changes W s') :
    Handled.Alike W ids s₁ s₂ h₁ h₂ := by
  rcases h₁ with e₁ | ⟨reply₁, s₁'⟩ <;> rcases h₂ with e₂ | ⟨reply₂, s₂'⟩
  · obtain rfl := Except.error.inj hwithin
    exact .error h (.same _)
  · exact absurd hwithin (by simp [Handled.within, Except.map])
  · exact absurd hwithin (by simp [Handled.within, Except.map])
  · obtain ⟨rfl, hstores⟩ := Prod.mk.inj (Except.ok.inj hwithin)
    have h₁' := hchanges₁ _ _ rfl
    have h₂' := hchanges₂ _ _ rfl
    have hids : idsAfter ids s₁ s₂ s₁' = ids := idsAfter_same h₁'.filtersWritten
    refine ⟨.same _, ?_⟩
    show Agree W (idsAfter ids s₁ s₂ s₁') s₁' s₂'
    rw [hids]
    refine ⟨hstores, ?_, h.paired, ?_, ?_⟩
    · rw [h₁'.filtersWithin_eq, h₂'.filtersWithin_eq, h.filters]
    · rw [h₁'.filtersWritten, h₂'.filtersWritten]
      exact h.given
    · rw [h₁'.filtersWithin_eq]
      exact h.known

/-! ## Senders, boards and tasks -/

theorem authorize_agree (h : Agree W ids s₁ s₂) (hr : r₂.authorization = r₁.authorization)
    (hb : b.workspaceId = W) : authorize s₂ r₂ b = authorize s₁ r₁ b := by
  refine authorize_congr h.users_eq (fun userId => ?_) hr
  rw [hb, ← Store.isMember_within, ← h.within, Store.isMember_within]

theorem mem_boards_agree (h : Agree W ids s₁ s₂) (hb : b ∈ s₁.boards) (hW : b.workspaceId = W) :
    b ∈ s₂.boards := by
  have hmem : b ∈ (s₁.within W).boards := List.mem_filter.2 ⟨hb, beq_iff_eq.2 hW⟩
  rw [h.within] at hmem
  exact List.mem_of_mem_filter hmem

theorem mem_tasks_agree (h : Agree W ids s₁ s₂) (ht : t ∈ s₁.tasks) (hW : t.workspaceId = W) :
    t ∈ s₂.tasks := by
  have hmem : t ∈ (s₁.within W).tasks := List.mem_filter.2 ⟨ht, beq_iff_eq.2 hW⟩
  rw [h.within] at hmem
  exact List.mem_of_mem_filter hmem

theorem boardOrReply_eq (hs : s.Separated) (hb : b ∈ s.boards) : boardOrReply s b.id = .ok b := by
  rw [boardOrReply, hs.board?_eq hb]

theorem taskOrReply_eq (ht : s.Reaches b s t) : taskOrReply s t.id = .ok (t, b) := by
  have hfind : s.task? t.id = some t := Store.find?_key Task.id ht.separated.taskIds ht.task
  rw [taskOrReply, hfind]
  dsimp only
  rw [ht.placed, boardOrReply_eq ht.separated ht.board]
  rfl

theorem onBoard_alike (h : Agree W ids s₁ s₂) (h₁ : s₁.Separated) (h₂ : s₂.Separated)
    (hr : Request.Alike ids r₁ r₂) {id : String} (hid : s₁.hasBoard W id = true)
    {act₁ act₂ : Board → User → Handled}
    (hact : ∀ b u, b ∈ s₁.boards → b ∈ s₂.boards → b.workspaceId = W →
      Handled.Alike W ids s₁ s₂ (act₁ b u) (act₂ b u)) :
    Handled.Alike W ids s₁ s₂ (onBoard s₁ r₁ id act₁) (onBoard s₂ r₂ id act₂) := by
  obtain ⟨b, hb, rfl, hW⟩ := Store.hasBoard_eq_true.1 hid
  have hb₂ := mem_boards_agree h hb hW
  rw [onBoard, onBoard, boardOrReply_eq h₁ hb, boardOrReply_eq h₂ hb₂, ok_bind, ok_bind, hr.method,
    authorize_agree h hr.authorization hW]
  split_ifs
  · exact .answer h (.same _)
  · exact .bind_same h fun u _ => hact b u hb hb₂ hW

theorem onLimitedBoard_alike (h : Agree W ids s₁ s₂) (h₁ : s₁.Separated) (h₂ : s₂.Separated)
    (hr : Request.Alike ids r₁ r₂) {id : String} (hid : s₁.hasBoard W id = true)
    {act₁ act₂ : Board → User → Handled}
    (hact : ∀ b u, b ∈ s₁.boards → b ∈ s₂.boards → b.workspaceId = W →
      Handled.Alike W ids s₁ s₂ (act₁ b u) (act₂ b u)) :
    Handled.Alike W ids s₁ s₂ (onLimitedBoard s₁ r₁ id act₁) (onLimitedBoard s₂ r₂ id act₂) := by
  have hdone := onBoard_alike h h₁ h₂ hr hid hact
  obtain ⟨b, hb, rfl, hW⟩ := Store.hasBoard_eq_true.1 hid
  have hheld : r₂.heldBack = r₁.heldBack := by
    rw [Request.heldBack, Request.heldBack, hr.limited, hr.method]
  rw [onLimitedBoard_eq, onLimitedBoard_eq, h₁.board?_eq hb,
    h₂.board?_eq (mem_boards_agree h hb hW), hheld]
  split_ifs
  · exact .error h (.same _)
  · exact hdone

theorem reaches_of_hasTask (hs : s.Separated) {id : String} (hid : s.hasTask W id = true) :
    ∃ t b, t.id = id ∧ t.workspaceId = W ∧ b.workspaceId = W ∧ s.Reaches b s t := by
  obtain ⟨t, ht, rfl, hW⟩ := Store.hasTask_eq_true.1 hid
  obtain ⟨b, hb, hplaced, hboard⟩ := hs.placed t ht
  exact ⟨t, b, rfl, hW, hboard.trans hW, .refl s, hs, hb, ht, hplaced.symm⟩

theorem task?_eq_none {id : String} (hid : ∀ t ∈ s.tasks, t.id = id → t.workspaceId = W)
    (hnone : ¬ s.hasTask W id = true) : s.task? id = none := by
  rw [Store.task?, List.find?_eq_none]
  intro t ht heq
  have heq : t.id = id := beq_iff_eq.1 heq
  exact hnone (Store.hasTask_eq_true.2 ⟨t, ht, heq, hid t ht heq⟩)

theorem onTask_none {id : String} (h : s.task? id = none) (act : Task → Board → Handled) :
    onTask s r id act = .error (.error 404 "Task not found") := by
  rw [onTask, taskOrReply, h]
  rfl

theorem onTask_alike (h : Agree W ids s₁ s₂) (h₁ : s₁.Separated) (h₂ : s₂.Separated)
    (hr : Request.Alike ids r₁ r₂) {id : String}
    (hid₁ : ∀ t ∈ s₁.tasks, t.id = id → t.workspaceId = W)
    (hid₂ : ∀ t ∈ s₂.tasks, t.id = id → t.workspaceId = W) {act₁ act₂ : Task → Board → Handled}
    (hact : ∀ t b, s₁.Reaches b s₁ t → s₂.Reaches b s₂ t → b.workspaceId = W →
      Handled.Alike W ids s₁ s₂ (act₁ t b) (act₂ t b)) :
    Handled.Alike W ids s₁ s₂ (onTask s₁ r₁ id act₁) (onTask s₂ r₂ id act₂) := by
  by_cases hhas : s₁.hasTask W id = true
  · obtain ⟨t, b, rfl, hW, hbW, hreaches⟩ := reaches_of_hasTask h₁ hhas
    have hreaches₂ : s₂.Reaches b s₂ t := ⟨.refl s₂, h₂, mem_boards_agree h hreaches.board hbW,
      mem_tasks_agree h hreaches.task hW, hreaches.placed⟩
    rw [onTask, onTask, taskOrReply_eq hreaches, taskOrReply_eq hreaches₂, ok_bind, ok_bind]
    dsimp only
    rw [hr.method, authorize_agree h hr.authorization hbW]
    split_ifs
    · exact .answer h (.same _)
    · exact .bind_same h fun _ _ => hact t b hreaches hreaches₂ hbW
  · have hhas₂ : ¬ s₂.hasTask W id = true := by
      rwa [h.hasTask_eq]
    rw [onTask_none (task?_eq_none hid₁ hhas), onTask_none (task?_eq_none hid₂ hhas₂)]
    exact .error h (.same _)

theorem bodyField_agree (hr : Request.Alike ids r₁ r₂) {name : String}
    (hname : name ≠ "saved_filter_id") : bodyField r₂ name = bodyField r₁ name := by
  rw [bodyField, bodyField, hr.field name hname]

/-! ## Listings and saved filters -/

theorem counterpart_eq_empty (h : Agree W ids s₁ s₂) (id : String) :
    counterpart ids id = "" ↔ id = "" := by
  have hgiven (n : Nat) : filterId n ≠ "" := by
    intro heq
    exact absurd (congrArg String.length heq) (by simp [filterId])
  rcases counterpart_cases ids id with hmem | hsame
  · obtain ⟨⟨m, -, hm⟩, n, -, hn⟩ := h.given _ hmem
    dsimp only at hm hn
    rw [hn, hm]
    exact iff_of_false (hgiven n) (hgiven m)
  · rw [hsame]

theorem statedFilterId_agree (h : Agree W ids s₁ s₂) (hr : Request.Alike ids r₁ r₂) :
    TaskQuery.statedFilterId r₂.parameters
      = (TaskQuery.statedFilterId r₁.parameters).counterpart ids := by
  have htruthy (v : Json) : (v.counterpart ids).truthy = v.truthy := by
    cases v with
    | str id =>
      rw [Bool.eq_iff_iff]
      simpa [Json.counterpart, Json.truthy] using not_congr (counterpart_eq_empty h id)
    | _ => rfl
  rw [TaskQuery.statedFilterId, TaskQuery.statedFilterId, hr.stated, Json.orElse, Json.orElse,
    htruthy]
  split_ifs <;> rfl

theorem handleTaskList_alike (h : Agree W ids s₁ s₂) (h₁ : s₁.Separated) (h₂ : s₂.Separated)
    (hr : Request.Alike ids r₁ r₂) {u : User} (hid : s₁.hasBoard W b.id = true)
    (hW : b.workspaceId = W) :
    Handled.Alike W ids s₁ s₂ (handleTaskList c now s₁ r₁ b u)
      (handleTaskList c now s₂ r₂ b u) := by
  unfold handleTaskList
  rw [ofParameters_counterpart c.limits hr.parameter (statedFilterId_agree h hr)]
  rcases hparameters : TaskQuery.ofParameters c.limits r₁.parameters with e | q | errors
  · exact .error h (.same _)
  · have hq : ∀ id ∈ q.savedFilterId, Known ids id := fun id hid =>
      hr.known id (.inr (stated_of_ofParameters hparameters id hid))
    show Handled.Alike W ids s₁ s₂ (orReply 400 (listTasks c now s₁ b u.id q) >>= _)
      (orReply 400 (listTasks c now s₂ b u.id (q.counterpart ids)) >>= _)
    refine .bind_outcome h (listTasks_alike h h₁ h₂ hid hW hq)
      fun x y hx hy ⟨hagree, hlisting⟩ => ?_
    obtain ⟨s₁', l⟩ := x
    obtain ⟨s₂', l'⟩ := y
    obtain ⟨⟨hs₁, -⟩, happlied, hsaved, hitems⟩ := listTasks_keeps h₁ hid hW hx
    obtain ⟨⟨hs₂, -⟩, -⟩ := listTasks_keeps h₂ (h.hasBoard hid) hW hy
    refine ⟨?_, hagree⟩
    dsimp only at hlisting
    rw [hlisting]
    exact listingReply_alike hagree hs₁ hs₂ hitems happlied hsaved ids
  · exact .error h (.same _)

theorem handleSavedFilters_alike (h : Agree W ids s₁ s₂) (u : User)
    (hid : s₁.hasBoard W b.id = true) :
    Handled.Alike W ids s₁ s₂ (handleSavedFilters s₁ b u) (handleSavedFilters s₂ b u) := by
  unfold handleSavedFilters
  rw [usableFilters_agree h hid, List.map_map]
  refine .answer h (.data (.arr (List.forall₂_map_right_iff.2 (List.forall₂_map_left_iff.2 ?_))))
  exact List.forall₂_same.2 fun f _ => savedFilterJson_renamed u.id f

theorem handleSaveFilter_alike (h : Agree W ids s₁ s₂) (h₁ : s₁.Separated) (h₂ : s₂.Separated)
    (hr : Request.Alike ids r₁ r₂) (u : User) (hid : s₁.hasBoard W b.id = true) :
    Handled.Alike W ids s₁ s₂ (handleSaveFilter now s₁ r₁ b u)
      (handleSaveFilter now s₂ r₂ b u) := by
  have hbody {name : String} (hname : name ≠ "saved_filter_id") := bodyField_agree hr hname
  unfold handleSaveFilter
  rw [hbody (by decide), hbody (by decide), hbody (by decide), hbody (by decide),
    hbody (by decide), h.schema_eq hid]
  refine .bind_same h fun name _ => .bind_same h fun definition _ =>
    .bind_same h fun description _ => .bind_same h fun isPublic _ =>
    .bind_same h fun isDefault _ => ?_
  refine .bind_outcome h (saveFilter_alike h h₁ h₂ hid _) fun x y hx hy ⟨hagree, hsaved⟩ => ?_
  obtain ⟨⟨hs₁, -⟩, -, hnew, -⟩ := saveFilter_keeps h₁ hid hx
  obtain ⟨⟨hs₂, -⟩, -⟩ := saveFilter_keeps h₂ (h.hasBoard hid) hy
  refine ⟨.json 201 (.cons (.named _ ?_) .nil), hagree⟩
  rw [hsaved]
  exact filterJson_renamed hagree hs₁ hs₂ fun id hid => Option.some.inj hid ▸ hnew

theorem handleDefaultFilter_alike (h : Agree W ids s₁ s₂) (h₁ : s₁.Separated) (h₂ : s₂.Separated)
    (u : User) (hid : s₁.hasBoard W b.id = true) {id : String} (hknown : Known ids id) :
    Handled.Alike W ids s₁ s₂ (handleDefaultFilter s₁ b u id)
      (handleDefaultFilter s₂ b u (counterpart ids id)) := by
  refine .bind_outcome h (chooseDefault_alike h h₁ h₂ hid hknown) fun s₁' s₂' hx hy hagree => ?_
  obtain ⟨⟨hs₁, -⟩, hwritten, hhas⟩ := chooseDefault_keeps h₁ hid hx
  obtain ⟨⟨hs₂, -⟩, -⟩ := chooseDefault_keeps h₂ (h.hasBoard hid) hy
  have hids : idsAfter ids s₁ s₂ s₁' = ids := idsAfter_same hwritten
  refine ⟨?_, hids.symm ▸ hagree⟩
  show Reply.Alike (idsAfter ids s₁ s₂ s₁') _ _
  rw [hids]
  exact .data (filterJson_renamed hagree hs₁ hs₂ fun x hx => Option.some.inj hx ▸ hhas)

theorem handleDeleteFilter_alike (h : Agree W ids s₁ s₂) (h₁ : s₁.Separated) (h₂ : s₂.Separated)
    (u : User) (hid : s₁.hasBoard W b.id = true) {id : String} (hknown : Known ids id) :
    Handled.Alike W ids s₁ s₂ (handleDeleteFilter s₁ b u id)
      (handleDeleteFilter s₂ b u (counterpart ids id)) := by
  refine .bind_outcome h (deleteFilter_alike h h₁ h₂ hid hknown) fun s₁' s₂' hx _ hagree => ?_
  have hids : idsAfter ids s₁ s₂ s₁' = ids := idsAfter_same (deleteFilter_keeps h₁ hid hx).2
  exact ⟨.same _, hids.symm ▸ hagree⟩

/-! ## What does not concern saved filters -/

theorem handleFilterColumns_alike (h : Agree W ids s₁ s₂) (hid : s₁.hasBoard W b.id = true) :
    Handled.Alike W ids s₁ s₂ (handleFilterColumns s₁ b) (handleFilterColumns s₂ b) := by
  unfold handleFilterColumns
  rw [h.schema_eq hid]
  exact .answer h (.same _)

theorem handleFilterCheck_alike (h : Agree W ids s₁ s₂) (hr : Request.Alike ids r₁ r₂)
    (hid : s₁.hasBoard W b.id = true) :
    Handled.Alike W ids s₁ s₂ (handleFilterCheck c now s₁ r₁ b)
      (handleFilterCheck c now s₂ r₂ b) := by
  unfold handleFilterCheck
  rw [bodyField_agree hr (by decide), h.schema_eq hid]
  refine .bind_same h fun raw _ => ?_
  rw [buildFilter_agree h]
  split
  · exact .answer h (.same _)
  · exact .error h (.same _)
  · exact .error h (.same _)

theorem handleBulk_within (hs : s.Separated) (hb : b ∈ s.boards) :
    handleBulk c now (s.within b.workspaceId) r b
      = (handleBulk c now s r b).within b.workspaceId := by
  have hid : s.hasBoard b.workspaceId b.id = true := by
    rw [hs.hasBoard_id hb, beq_self_eq_true]
  unfold handleBulk
  rw [Store.schema_within hid]
  refine bind_eq_map_bind fun operation _ => bind_eq_map_bind fun params _ =>
    bind_eq_map_bind fun taskIds _ => bind_eq_map_bind fun filters _ => ?_
  dsimp only
  rw [runBulk_within hs hb, bulkLeftover_within hs hb]
  rcases runBulk c now s (s.schema b) ⟨operation, params, taskIds, filters⟩ with e | ⟨op, run⟩
  · rfl
  · rfl

theorem handleBulk_changes (hs : s.Separated) (hb : b ∈ s.boards) {reply : Reply}
    (h : handleBulk c now s r b = .ok (reply, s')) :
    s'.Separated ∧ s.Changes b.workspaceId s' := by
  simp only [handleBulk, bind_eq_ok] at h
  obtain ⟨operation, -, params, -, ids, -, filters, -, h⟩ := h
  split at h
  · rename_i hrun
    obtain ⟨-, rfl⟩ := Prod.mk.inj (pure_eq_ok.1 h)
    exact (runBulk_upto hrun).changes hs hb
  · obtain ⟨-, rfl⟩ := Prod.mk.inj (pure_eq_ok.1 h)
    exact bulkLeftover_changes hs hb

theorem handleBulk_alike (h : Agree W ids s₁ s₂) (h₁ : s₁.Separated) (h₂ : s₂.Separated)
    (hr : Request.Alike ids r₁ r₂) (hb : b ∈ s₁.boards) (hb₂ : b ∈ s₂.boards)
    (hW : b.workspaceId = W) :
    Handled.Alike W ids s₁ s₂ (handleBulk c now s₁ r₁ b) (handleBulk c now s₂ r₂ b) := by
  subst hW
  have hbody : handleBulk c now s₂ r₂ b = handleBulk c now s₂ r₁ b := by
    have hfield {name : String} (hname : name ≠ "saved_filter_id") := bodyField_agree hr hname
    unfold handleBulk
    rw [hfield (by decide), hfield (by decide), hfield (by decide), hfield (by decide)]
  refine .of_within h ?_ (fun _ _ hx => (handleBulk_changes h₁ hb hx).2)
    fun _ _ hy => (handleBulk_changes h₂ hb₂ hy).2
  rw [hbody, ← handleBulk_within h₁ hb, ← handleBulk_within h₂ hb₂, h.within]

theorem taskValues_reaches (ht : s.Reaches b s' t) :
    taskValues (s'.within b.workspaceId) t = taskValues s' t := by
  refine taskValues_within ht.hasTask_eq ?_
  rw [ht.placed]
  exact ht.hasBoard_eq

theorem handleFieldValues_alike (h : Agree W ids s₁ s₂) (ht : s₁.Reaches b s₁ t)
    (ht₂ : s₂.Reaches b s₂ t) (hW : b.workspaceId = W) :
    Handled.Alike W ids s₁ s₂ (handleFieldValues s₁ t) (handleFieldValues s₂ t) := by
  subst hW
  unfold handleFieldValues
  rw [← taskValues_reaches ht, ← taskValues_reaches ht₂, h.within]
  exact .answer h (.same _)

theorem handlePutValues_within (ht : s.Reaches b s t) :
    handlePutValues now (s.within b.workspaceId) r t b
      = (handlePutValues now s r t b).within b.workspaceId := by
  have henv : (s.within b.workspaceId).surroundings now = s.surroundings now := rfl
  unfold handlePutValues
  rw [henv, Store.schema_within ht.hasBoard_eq]
  refine bind_eq_map_bind fun values _ => ?_
  rw [setValues_within ht.hasTask_eq]
  rcases hset : setValues (s.surroundings now) s t (s.schema b) values with e | s'
  · rfl
  · have hvalues := taskValues_reaches (setValues_changes ht hset).1
    exact congrArg (fun v => Except.ok (Reply.data v, s'.within b.workspaceId)) hvalues

theorem handlePutValues_changes (ht : s.Reaches b s t) {reply : Reply}
    (h : handlePutValues now s r t b = .ok (reply, s')) :
    s'.Separated ∧ s.Changes b.workspaceId s' := by
  simp only [handlePutValues, bind_eq_ok, pure_eq_ok, Prod.mk.injEq] at h
  obtain ⟨values, -, s₁, hset, -, rfl⟩ := h
  obtain ⟨hreaches, hchanges⟩ := setValues_changes ht (orReply_eq_ok.1 hset)
  exact ⟨hreaches.separated, hchanges⟩

theorem handleClearValue_within (ht : s.Reaches b s t) (column : String) :
    handleClearValue (s.within b.workspaceId) t b column
      = (handleClearValue s t b column).within b.workspaceId := by
  unfold handleClearValue
  rw [Store.columnsOf_within ht.hasBoard_eq]
  split
  · rw [clearValue_within]
    rcases clearValue s t _ with e | s' <;> rfl
  · rfl

theorem handleClearValue_changes (ht : s.Reaches b s t) {column : String} {reply : Reply}
    (h : handleClearValue s t b column = .ok (reply, s')) :
    s'.Separated ∧ s.Changes b.workspaceId s' := by
  unfold handleClearValue at h
  split at h
  · simp only [bind_eq_ok, pure_eq_ok, Prod.mk.injEq] at h
    obtain ⟨s₁, hclear, -, rfl⟩ := h
    exact clearValue_changes ht (orReply_eq_ok.1 hclear)
  · exact absurd h (by simp)

theorem handlePutValues_alike (h : Agree W ids s₁ s₂) (hr : Request.Alike ids r₁ r₂)
    (ht : s₁.Reaches b s₁ t) (ht₂ : s₂.Reaches b s₂ t) (hW : b.workspaceId = W) :
    Handled.Alike W ids s₁ s₂ (handlePutValues now s₁ r₁ t b)
      (handlePutValues now s₂ r₂ t b) := by
  subst hW
  have hbody : handlePutValues now s₂ r₂ t b = handlePutValues now s₂ r₁ t b := by
    unfold handlePutValues
    rw [bodyField_agree hr (by decide)]
  refine .of_within h ?_ (fun _ _ hx => (handlePutValues_changes ht hx).2)
    fun _ _ hy => (handlePutValues_changes ht₂ hy).2
  rw [hbody, ← handlePutValues_within ht, ← handlePutValues_within ht₂, h.within]

theorem handleClearValue_alike (h : Agree W ids s₁ s₂) (ht : s₁.Reaches b s₁ t)
    (ht₂ : s₂.Reaches b s₂ t) (hW : b.workspaceId = W) (column : String) :
    Handled.Alike W ids s₁ s₂ (handleClearValue s₁ t b column)
      (handleClearValue s₂ t b column) := by
  subst hW
  refine .of_within h ?_ (fun _ _ hx => (handleClearValue_changes ht hx).2)
    fun _ _ hy => (handleClearValue_changes ht₂ hy).2
  rw [← handleClearValue_within ht, ← handleClearValue_within ht₂, h.within]

/-! ## One request -/

theorem handleRoute_alike (h : Agree W ids s₁ s₂) (h₁ : s₁.Separated) (h₂ : s₂.Separated)
    (hr : Request.Alike ids r₁ r₂) {route : Route} (hstays : route.Stays s₁ W)
    (hstays₂ : (route.counterpart ids).Stays s₂ W) (hknown : ∀ id ∈ route.filter?, Known ids id) :
    Handled.Alike W ids s₁ s₂ (handleRoute c now s₁ r₁ route)
      (handleRoute c now s₂ r₂ (route.counterpart ids)) := by
  have hid {b : Board} (hb : b ∈ s₁.boards) (hW : b.workspaceId = W) :
      s₁.hasBoard W b.id = true := by
    rw [h₁.hasBoard_id hb, hW, beq_self_eq_true]
  cases route with
  | columnTypes => exact hstays.elim
  | columnType name => exact hstays.elim
  | taskList board =>
    exact onLimitedBoard_alike h h₁ h₂ hr hstays fun b u hb _ hW =>
      handleTaskList_alike h h₁ h₂ hr (hid hb hW) hW
  | filterColumns board =>
    exact onBoard_alike h h₁ h₂ hr hstays fun b u hb _ hW =>
      handleFilterColumns_alike h (hid hb hW)
  | filterCheck board =>
    exact onBoard_alike h h₁ h₂ hr hstays fun b u hb _ hW =>
      handleFilterCheck_alike h hr (hid hb hW)
  | savedFilters board =>
    refine onBoard_alike h h₁ h₂ hr hstays fun b u hb _ hW => ?_
    rw [hr.method]
    split_ifs
    · exact handleSaveFilter_alike h h₁ h₂ hr u (hid hb hW)
    · exact handleSavedFilters_alike h u (hid hb hW)
  | defaultFilter board id =>
    exact onBoard_alike h h₁ h₂ hr hstays fun b u hb _ hW =>
      handleDefaultFilter_alike h h₁ h₂ u (hid hb hW) (hknown id rfl)
  | savedFilter board id =>
    exact onBoard_alike h h₁ h₂ hr hstays fun b u hb _ hW =>
      handleDeleteFilter_alike h h₁ h₂ u (hid hb hW) (hknown id rfl)
  | bulk board =>
    exact onBoard_alike h h₁ h₂ hr hstays fun b u hb hb₂ hW =>
      handleBulk_alike h h₁ h₂ hr hb hb₂ hW
  | fieldValues task =>
    have hroute : (Route.fieldValues task).counterpart ids = .fieldValues task := rfl
    rw [hroute, handleRoute, handleRoute]
    refine onTask_alike h h₁ h₂ hr hstays hstays₂ fun t b ht ht₂ hW => ?_
    rw [hr.method]
    split_ifs
    · exact handlePutValues_alike h hr ht ht₂ hW
    · exact handleFieldValues_alike h ht ht₂ hW
  | fieldValue task column =>
    exact onTask_alike h h₁ h₂ hr hstays hstays₂ fun t b ht ht₂ hW =>
      handleClearValue_alike h ht ht₂ hW column

/-- Whether a handler keeps the workspaces apart and touches only one of them. -/
def Handled.Keeps (s : Store) (workspace : String) (h : Handled) : Prop :=
  ∀ reply s', h = .ok (reply, s') → s'.Separated ∧ s.Confined workspace s'

theorem Handled.Keeps.answer (hs : s.Separated) (a : Reply) : Handled.Keeps s W (.ok (a, s)) := by
  intro reply s' heq
  obtain ⟨-, rfl⟩ := Prod.mk.inj (Except.ok.inj heq)
  exact ⟨hs, .refl W _⟩

theorem onBoard_keeps (hs : s.Separated) {id : String} (hid : s.hasBoard W id = true)
    {act : Board → User → Handled}
    (hact : ∀ b u, b ∈ s.boards → s.hasBoard W b.id = true → b.workspaceId = W →
      (act b u).Keeps s W) : (onBoard s r id act).Keeps s W := by
  intro reply s' heq
  rcases onBoard_eq_ok heq with ⟨-, heq⟩ | ⟨b, u, -, hfind, -, hdone⟩
  · obtain ⟨-, rfl⟩ := Prod.mk.inj heq
    exact ⟨hs, .refl W _⟩
  · have hb := List.mem_of_find?_eq_some hfind
    obtain rfl : b.id = id := by simpa using List.find?_some hfind
    have hW : b.workspaceId = W := by
      rw [hs.hasBoard_id hb] at hid
      exact beq_iff_eq.1 hid
    exact hact b u hb hid hW reply s' hdone

theorem onLimitedBoard_keeps (hs : s.Separated) {id : String} (hid : s.hasBoard W id = true)
    {act : Board → User → Handled}
    (hact : ∀ b u, b ∈ s.boards → s.hasBoard W b.id = true → b.workspaceId = W →
      (act b u).Keeps s W) : (onLimitedBoard s r id act).Keeps s W :=
  fun reply s' heq => onBoard_keeps hs hid hact reply s' (onLimitedBoard_eq_ok heq)

theorem onTask_keeps (hs : s.Separated) {id : String}
    (hid : ∀ t ∈ s.tasks, t.id = id → t.workspaceId = W) {act : Task → Board → Handled}
    (hact : ∀ t b, s.Reaches b s t → b.workspaceId = W → (act t b).Keeps s W) :
    (onTask s r id act).Keeps s W := by
  intro reply s' heq
  by_cases hhas : s.hasTask W id = true
  · obtain ⟨t, b, rfl, -, hbW, hreaches⟩ := reaches_of_hasTask hs hhas
    rw [onTask, taskOrReply_eq hreaches, ok_bind] at heq
    dsimp only at heq
    split_ifs at heq
    · exact Handled.Keeps.answer hs _ reply s' heq
    · obtain ⟨u, -, hdone⟩ := bind_eq_ok.1 heq
      exact hact t b hreaches hbW reply s' hdone
  · rw [onTask_none (task?_eq_none hid hhas)] at heq
    exact absurd heq (by simp)

theorem handleTaskList_keeps (hs : s.Separated) (hid : s.hasBoard W b.id = true)
    (hW : b.workspaceId = W) {u : User} : (handleTaskList c now s r b u).Keeps s W := by
  intro reply s' h
  simp only [handleTaskList, bind_eq_ok] at h
  obtain ⟨parameters, -, h⟩ := h
  split at h
  · exact absurd h (by simp)
  · simp only [bind_eq_ok, pure_eq_ok, Prod.mk.injEq] at h
    obtain ⟨⟨s₁, l⟩, hlist, -, rfl⟩ := h
    exact (listTasks_keeps hs hid hW (orReply_eq_ok.1 hlist)).1

theorem handleFilterCheck_keeps (hs : s.Separated) : (handleFilterCheck c now s r b).Keeps s W := by
  intro reply s' h
  simp only [handleFilterCheck, bind_eq_ok] at h
  obtain ⟨raw, -, h⟩ := h
  split at h
  · exact Handled.Keeps.answer hs _ reply s' h
  · exact absurd h (by simp)
  · exact absurd h (by simp)

theorem handleSaveFilter_keeps (hs : s.Separated) (hid : s.hasBoard W b.id = true) {u : User} :
    (handleSaveFilter now s r b u).Keeps s W := by
  intro reply s' h
  simp only [handleSaveFilter, bind_eq_ok, pure_eq_ok, Prod.mk.injEq] at h
  obtain ⟨name, -, definition, -, description, -, isPublic, -, isDefault, -, ⟨s₁, id⟩, hsave,
    -, rfl⟩ := h
  exact (saveFilter_keeps hs hid (orReply_eq_ok.1 hsave)).1

theorem handleDefaultFilter_keeps (hs : s.Separated) (hid : s.hasBoard W b.id = true) {u : User}
    {id : String} : (handleDefaultFilter s b u id).Keeps s W := by
  intro reply s' h
  simp only [handleDefaultFilter, bind_eq_ok, pure_eq_ok, Prod.mk.injEq] at h
  obtain ⟨s₁, hchoose, -, rfl⟩ := h
  exact (chooseDefault_keeps hs hid (orReply_eq_ok.1 hchoose)).1

theorem handleDeleteFilter_keeps (hs : s.Separated) (hid : s.hasBoard W b.id = true) {u : User}
    {id : String} : (handleDeleteFilter s b u id).Keeps s W := by
  intro reply s' h
  simp only [handleDeleteFilter, bind_eq_ok, pure_eq_ok, Prod.mk.injEq] at h
  obtain ⟨s₁, hdelete, -, rfl⟩ := h
  exact (deleteFilter_keeps hs hid (orReply_eq_ok.1 hdelete)).1

theorem handleRoute_keeps (hs : s.Separated) {route : Route}
    (hstays : route.Stays s W) : (handleRoute c now s r route).Keeps s W := by
  have hchanged {b : Board} {s' : Store} (hW : b.workspaceId = W)
      (h : s'.Separated ∧ s.Changes b.workspaceId s') : s'.Separated ∧ s.Confined W s' := by
    subst hW
    exact ⟨h.1, h.2.confined⟩
  cases route with
  | columnTypes => exact hstays.elim
  | columnType name => exact hstays.elim
  | taskList board =>
    exact onLimitedBoard_keeps hs hstays fun b u _ hid hW => handleTaskList_keeps hs hid hW
  | filterColumns board => exact onBoard_keeps hs hstays fun b u _ _ _ => .answer hs _
  | filterCheck board => exact onBoard_keeps hs hstays fun b u _ _ _ => handleFilterCheck_keeps hs
  | savedFilters board =>
    refine onBoard_keeps hs hstays fun b u _ hid _ => ?_
    split_ifs
    · exact handleSaveFilter_keeps hs hid
    · exact .answer hs _
  | defaultFilter board id =>
    exact onBoard_keeps hs hstays fun b u _ hid _ => handleDefaultFilter_keeps hs hid
  | savedFilter board id =>
    exact onBoard_keeps hs hstays fun b u _ hid _ => handleDeleteFilter_keeps hs hid
  | bulk board =>
    exact onBoard_keeps hs hstays fun b u hb _ hW reply s' h =>
      hchanged hW (handleBulk_changes hs hb h)
  | fieldValues task =>
    rw [handleRoute]
    refine onTask_keeps hs hstays fun t b ht hW => ?_
    split_ifs
    · exact fun reply s' h => hchanged hW (handlePutValues_changes ht h)
    · exact .answer hs _
  | fieldValue task column =>
    exact onTask_keeps hs hstays fun t b ht hW reply s' h =>
      hchanged hW (handleClearValue_changes ht h)

/-- Whether a request addresses a board or a task of a workspace. -/
def Request.Addresses (r : Request) (s : Store) (workspace : String) : Prop :=
  ∃ route, Route.ofSegments? r.segments = some route ∧ route.addresses s workspace = true

/-- Whether a request addresses nothing of another workspace. -/
def Request.Stays (r : Request) (s : Store) (workspace : String) : Prop :=
  ∃ route, Route.ofSegments? r.segments = some route ∧ route.Stays s workspace

theorem Request.Stays.after (h : r.Stays s W) (hschema : s.SameSchema s') (hs' : s.Confined W s') :
    r.Stays s' W := by
  obtain ⟨route, hroute, hstays⟩ := h
  exact ⟨route, hroute, hstays.after hschema hs'⟩

theorem Request.Addresses.stays (h : r.Addresses s W) (hs : s.Separated) : r.Stays s W := by
  obtain ⟨route, hroute, haddresses⟩ := h
  exact ⟨route, hroute, Route.stays_of_addresses hs haddresses⟩

/-- What a request addresses in the one run, its counterpart addresses in the other. -/
theorem Request.Addresses.agree (h : r₁.Addresses s₁ W) (hagree : Agree W ids s₁ s₂)
    {now : List (String × String)} (hr : Request.Alike now r₁ r₂) : r₂.Addresses s₂ W := by
  obtain ⟨route, hroute, haddresses⟩ := h
  refine ⟨route.counterpart now, ?_, ?_⟩
  · rw [hr.route, hroute]
    rfl
  · rw [Route.addresses_agree hagree, haddresses]

theorem handle_alike (h : Agree W ids s₁ s₂) (h₁ : s₁.Separated) (h₂ : s₂.Separated)
    (hr : Request.Alike ids r₁ r₂) (hstays₁ : r₁.Stays s₁ W) (hstays₂ : r₂.Stays s₂ W) :
    Answered.Alike W ids s₁ s₂ (handle c now s₁ r₁) (handle c now s₂ r₂) := by
  obtain ⟨route, hroute, hstays₁⟩ := hstays₁
  obtain ⟨route₂, hroute₂, hstays₂⟩ := hstays₂
  obtain rfl : route₂ = route.counterpart ids := by
    rw [hr.route, hroute] at hroute₂
    exact (Option.some.inj hroute₂).symm
  have haccepts : (route.counterpart ids).accepts r₂.method = route.accepts r₁.method := by
    rw [hr.method]
    cases route <;> rfl
  have hdone : Handled.Alike W ids s₁ s₂ (handleRoute c now s₁ r₁ route)
      (handleRoute c now s₂ r₂ (route.counterpart ids)) :=
    handleRoute_alike h h₁ h₂ hr hstays₁ hstays₂ fun id hid =>
      hr.known id (.inl ⟨route, hroute, hid⟩)
  unfold handle
  rw [hroute, hroute₂]
  dsimp only
  rw [haccepts, hr.method]
  split_ifs
  · exact ⟨hdone.reply.withoutBody, hdone.store⟩
  · exact hdone
  · exact Handled.Alike.answer h (.same _)

theorem handle_keeps (hs : s.Separated) (hstays : r.Stays s W) :
    (handle c now s r).2.Separated ∧ s.Confined W (handle c now s r).2 := by
  obtain ⟨route, hroute, hstays⟩ := hstays
  have hdone : ((handleRoute c now s r route).settle s).2.Separated
      ∧ s.Confined W ((handleRoute c now s r route).settle s).2 := by
    rcases h : handleRoute c now s r route with reply | ⟨reply, s'⟩
    · exact ⟨hs, .refl W s⟩
    · exact handleRoute_keeps hs hstays reply s' h
  unfold handle
  rw [hroute]
  dsimp only
  split_ifs
  · exact hdone
  · exact hdone
  · exact ⟨hs, .refl W s⟩

end

end BoardQuery
