import BoardQuery.Proofs.Api.Noninterference
import BoardQuery.Proofs.Service.FilterWrites

/-!
# Saved filters over runs of requests

What a request does to the saved filters follows from its sender, and from the filter that it
applies if it is answered so (`handle_filterEffect`). Over any requests, names and defaults stay in
order, and a filter changes only in its flag and in the count of its uses (`serve_savedFilters`).
-/

namespace BoardQuery

/-- Whether a request is sent by the user with an id. -/
def Request.SentBy (r : Request) (s : Store) (userId : String) : Prop :=
  ∃ u, sender? s r = some u ∧ u.id = userId

/-- The saved filter that a request for tasks names. -/
def Request.namedFilter? (r : Request) : Option String :=
  match Route.ofSegments? r.segments with
  | some (.taskList _) =>
    if r.method == "OPTIONS" then none else (TaskQuery.statedFilterId r.parameters).str?
  | _ => none

/-- The saved filter that a request has applied, by the reply to it. -/
def Request.applied (r : Request) (reply : Reply) : List String :=
  if reply.status = 200 then r.namedFilter?.toList else []

section Requests

variable {c : Settings} {now : Moment} {s s' : Store} {r : Request} {reply : Reply}

theorem Request.applied_of_none (h : r.namedFilter? = none) : r.applied reply = [] := by
  rw [applied, h]
  exact ite_self _

/-! ## Requests for tasks -/

theorem ofRefusal_status (e : Refusal) {status : Nat} (h : status ≠ 200) :
    (Reply.ofRefusal status e).status ≠ 200 := by
  unfold Reply.ofRefusal
  split
  · simp [Reply.filterRefused, Reply.json]
  · simp [Reply.json]
  · simp [Reply.json]
  · split
    · exact h
    · decide

theorem orReply_status {α : Type} {status : Nat} {x : Outcome α} (h : status ≠ 200)
    (hx : orReply status x = .error reply) : reply.status ≠ 200 := by
  rcases x with e | a
  · obtain rfl := Except.error.inj hx
    exact ofRefusal_status e h
  · exact absurd hx (by simp [orReply, Except.mapError])

theorem authorize_status {b : Board} (h : authorize s r b = .error reply) : reply.status ≠ 200 := by
  unfold authorize authenticate at h
  rw [bind_eq_error] at h
  rcases h with h | ⟨u, -, h⟩
  · split at h
    · exact absurd h (by simp)
    · obtain rfl := Except.error.inj h
      decide
  · split_ifs at h
    · exact absurd h (by simp [pure, Except.pure])
    · obtain rfl := Except.error.inj h
      decide

theorem onBoard_status {id : String} {act : Board → User → Handled}
    (hact : ∀ b u, act b u = .error reply → reply.status ≠ 200)
    (h : onBoard s r id act = .error reply) : reply.status ≠ 200 := by
  rw [onBoard, bind_eq_error] at h
  rcases h with h | ⟨b, -, h⟩
  · unfold boardOrReply at h
    split at h
    · exact absurd h (by simp)
    · obtain rfl := Except.error.inj h
      decide
  · split_ifs at h
    · exact absurd h (by simp [pure, Except.pure])
    · rw [bind_eq_error] at h
      rcases h with h | ⟨u, -, h⟩
      · exact authorize_status h
      · exact hact b u h

theorem onLimitedBoard_status {id : String} {act : Board → User → Handled}
    (hact : ∀ b u, act b u = .error reply → reply.status ≠ 200)
    (h : onLimitedBoard s r id act = .error reply) : reply.status ≠ 200 := by
  rw [onLimitedBoard_eq] at h
  split_ifs at h
  · obtain rfl := Except.error.inj h
    decide
  · exact onBoard_status hact h

theorem handleTaskList_status {b : Board} {u : User}
    (h : handleTaskList c now s r b u = .error reply) : reply.status ≠ 200 := by
  rw [handleTaskList, bind_eq_error] at h
  rcases h with h | ⟨q, -, h⟩
  · exact orReply_status (by decide) h
  · split at h
    · obtain rfl := Except.error.inj h
      simp [Reply.ofParameterErrors, Reply.json]
    · rw [bind_eq_error] at h
      rcases h with h | ⟨l, -, h⟩
      · exact orReply_status (by decide) h
      · exact absurd h (by simp [pure, Except.pure])

theorem handleTaskList_filterEffect {b : Board} {u : User} {sent : String → Prop}
    (hsent : sent u.id) (h : handleTaskList c now s r b u = .ok (reply, s')) :
    reply.status = 200
      ∧ FilterEffect sent now s (TaskQuery.statedFilterId r.parameters).str?.toList s' := by
  simp only [handleTaskList, bind_eq_ok] at h
  obtain ⟨checked, hchecked, h⟩ := h
  split at h
  · exact absurd h (by simp)
  · rename_i q
    simp only [bind_eq_ok, pure_eq_ok, Prod.mk.injEq] at h
    obtain ⟨⟨s₁, l⟩, hlist, rfl, rfl⟩ := h
    rw [orReply_eq_ok, orFault_eq_ok] at hchecked
    rw [orReply_eq_ok] at hlist
    refine ⟨rfl, ?_⟩
    rw [← savedFilterId_of_ofParameters hchecked]
    exact listTasks_filterEffect hsent hlist

/-! ## Other requests -/

theorem Store.sameFilters_putValue (s : Store) (taskId columnId : String) (v : Json) :
    (s.putValue taskId columnId v).filters = s.filters
      ∧ (s.putValue taskId columnId v).filtersWritten = s.filtersWritten := by
  unfold Store.putValue
  split_ifs <;> exact ⟨rfl, rfl⟩

theorem Applied.sameFilters {start s₁ s₂ : Store} {b : Board} {t : Task}
    (h : Applied start now b s₁ t s₂) :
    s₂.filters = s₁.filters ∧ s₂.filtersWritten = s₁.filtersWritten := by
  cases h with
  | updated => exact ⟨rfl, rfl⟩
  | moved => exact ⟨rfl, rfl⟩
  | erased => exact ⟨rfl, rfl⟩
  | wrote => exact s₁.sameFilters_putValue ..

theorem BulkRun.Upto.sameFilters {b : Board} {q : BulkRequest} {run : BulkRun}
    (h : run.Upto c now s (s.schema b) q) :
    run.store.filters = s.filters ∧ run.store.filtersWritten = s.filtersWritten :=
  h.preserves (P := fun s₁ => s₁.filters = s.filters ∧ s₁.filtersWritten = s.filtersWritten)
    (fun _ _ _ _ _ hs happlied =>
      ⟨happlied.sameFilters.1.trans hs.1, happlied.sameFilters.2.trans hs.2⟩) ⟨rfl, rfl⟩

theorem setValues_sameFilters {env : Surroundings} {t : Task} {schema : BoardSchema} {values : Json}
    (h : setValues env s t schema values = .ok s') :
    s'.filters = s.filters ∧ s'.filtersWritten = s.filtersWritten := by
  obtain ⟨checks, rfl, -⟩ := setValues_eq_ok h
  refine writeChecked_preserves
    (P := fun s₁ => s₁.filters = s.filters ∧ s₁.filtersWritten = s.filtersWritten) checks
    (fun column v _ s₁ hs₁ => ?_) ⟨rfl, rfl⟩
  have hput := s₁.sameFilters_putValue t.id column.id v
  exact ⟨hput.1.trans hs₁.1, hput.2.trans hs₁.2⟩

theorem clearValue_sameFilters {t : Task} {column : BoardColumn}
    (h : clearValue s t column = .ok s') :
    s'.filters = s.filters ∧ s'.filtersWritten = s.filtersWritten := by
  simp only [clearValue, refuse_bind, ite_refuse_eq_ok, bind_eq_ok, pure_eq_ok] at h
  obtain ⟨type, -, -, rfl⟩ := h
  exact ⟨rfl, rfl⟩

section

variable {sent : String → Prop}

theorem onService_filterEffect {act : Handled} (hact : act = .ok (reply, s') → s' = s)
    (h : onService s r act = .ok (reply, s')) : FilterEffect sent now s [] s' := by
  rcases onService_eq_ok h with heq | h
  · obtain ⟨-, rfl⟩ := Prod.mk.inj heq
    exact .other rfl rfl
  · rw [hact h]
    exact .other rfl rfl

theorem onTask_filterEffect {id : String} {act : Task → Board → Handled}
    (hact : ∀ t b, act t b = .ok (reply, s') →
      s'.filters = s.filters ∧ s'.filtersWritten = s.filtersWritten)
    (h : onTask s r id act = .ok (reply, s')) : FilterEffect sent now s [] s' := by
  rcases onTask_eq_ok h with heq | ⟨t, b, -, -, h⟩
  · obtain ⟨-, rfl⟩ := Prod.mk.inj heq
    exact .other rfl rfl
  · obtain ⟨hfilters, hwritten⟩ := hact t b h
    exact .other hfilters hwritten

end

theorem onBoard_filterEffect {id : String} {act : Board → User → Handled}
    (hact : ∀ b u, r.SentBy s u.id → act b u = .ok (reply, s') →
      FilterEffect (r.SentBy s) now s [] s')
    (h : onBoard s r id act = .ok (reply, s')) : FilterEffect (r.SentBy s) now s [] s' := by
  rcases onBoard_eq_ok h with ⟨-, heq⟩ | ⟨b, u, -, -, hu, h⟩
  · obtain ⟨-, rfl⟩ := Prod.mk.inj heq
    exact .other rfl rfl
  · exact hact b u ⟨u, hu, rfl⟩ h

theorem handleSaveFilter_filterEffect {b : Board} {u : User} {sent : String → Prop}
    (hsent : sent u.id) (h : handleSaveFilter now s r b u = .ok (reply, s')) :
    FilterEffect sent now s [] s' := by
  simp only [handleSaveFilter, bind_eq_ok, pure_eq_ok, Prod.mk.injEq] at h
  obtain ⟨name, -, definition, -, description, -, isPublic, -, isDefault, -, ⟨s₁, id⟩, hsave, -,
    rfl⟩ := h
  exact saveFilter_filterEffect hsent (orReply_eq_ok.1 hsave)

/-- What a request that is not for tasks does to the saved filters. -/
theorem handleRoute_filterEffect {route : Route} (htasks : ∀ board, route ≠ .taskList board)
    (h : handleRoute c now s r route = .ok (reply, s')) :
    FilterEffect (r.SentBy s) now s [] s' := by
  have hsame (h : s' = s) : FilterEffect (r.SentBy s) now s [] s' := by
    rw [h]
    exact .other rfl rfl
  have hreads {answer : Reply} (h : (.ok (answer, s) : Handled) = .ok (reply, s')) : s' = s :=
    (Prod.mk.inj (Except.ok.inj h)).2.symm
  cases route with
  | columnTypes => exact onService_filterEffect handleColumnTypes_same h
  | columnType name => exact onService_filterEffect handleColumnType_same h
  | taskList board => exact absurd rfl (htasks board)
  | filterColumns board => exact onBoard_filterEffect (fun _ _ _ h => hsame (hreads h)) h
  | filterCheck board =>
    exact onBoard_filterEffect (fun _ _ _ h => hsame (handleFilterCheck_same h)) h
  | savedFilters board =>
    refine onBoard_filterEffect (fun b u hsent hact => ?_) h
    split_ifs at hact
    · exact handleSaveFilter_filterEffect hsent hact
    · exact hsame (hreads hact)
  | defaultFilter board id =>
    refine onBoard_filterEffect (fun b u hsent hact => ?_) h
    simp only [handleDefaultFilter, bind_eq_ok, pure_eq_ok, Prod.mk.injEq] at hact
    obtain ⟨s₁, hchoose, -, rfl⟩ := hact
    exact chooseDefault_filterEffect hsent (orReply_eq_ok.1 hchoose)
  | savedFilter board id =>
    refine onBoard_filterEffect (fun b u hsent hact => ?_) h
    simp only [handleDeleteFilter, bind_eq_ok, pure_eq_ok, Prod.mk.injEq] at hact
    obtain ⟨s₁, hdelete, -, rfl⟩ := hact
    exact deleteFilter_filterEffect hsent (orReply_eq_ok.1 hdelete)
  | bulk board =>
    refine onBoard_filterEffect (fun b u _ hact => ?_) h
    rcases handleBulk_upto hact with heq | ⟨q, run, hrun, rfl⟩
    · exact hsame heq
    · exact .other hrun.sameFilters.1 hrun.sameFilters.2
  | fieldValues task =>
    rw [handleRoute] at h
    refine onTask_filterEffect (fun t b hact => ?_) h
    split_ifs at hact
    · obtain ⟨values, hset⟩ := handlePutValues_sets hact
      exact setValues_sameFilters hset
    · rw [hreads hact]
      exact ⟨rfl, rfl⟩
  | fieldValue task column =>
    rw [handleRoute] at h
    refine onTask_filterEffect (fun t b hact => ?_) h
    obtain ⟨column, hclear, -⟩ := handleClearValue_clears hact
    exact clearValue_sameFilters hclear

/-! ## All requests -/

/-- What a request for tasks does to the saved filters. -/
theorem handleTasks_filterEffect {board : String}
    (hroute : Route.ofSegments? r.segments = some (.taskList board)) :
    FilterEffect (r.SentBy s) now s
      (r.applied ((handleRoute c now s r (.taskList board)).settle s).1)
      ((handleRoute c now s r (.taskList board)).settle s).2 := by
  rcases h : handleRoute c now s r (.taskList board) with reply | ⟨reply, s'⟩
  · have hstatus : reply.status ≠ 200 := onLimitedBoard_status (fun _ _ => handleTaskList_status) h
    have hnone : r.applied reply = [] := if_neg hstatus
    rw [Handled.settle, hnone]
    exact .other rfl rfl
  · rw [Handled.settle]
    rcases onBoard_eq_ok (onLimitedBoard_eq_ok h) with ⟨hmethod, heq⟩ | ⟨b, u, hmethod, -, hu, h⟩
    · obtain ⟨-, rfl⟩ := Prod.mk.inj heq
      have hnone : r.namedFilter? = none := by
        rw [Request.namedFilter?, hroute]
        exact if_pos (beq_iff_eq.2 hmethod)
      rw [r.applied_of_none hnone]
      exact .other rfl rfl
    · have hsent : r.SentBy s u.id := ⟨u, hu, rfl⟩
      obtain ⟨hstatus, heffect⟩ := handleTaskList_filterEffect hsent h
      have hnamed : r.namedFilter? = (TaskQuery.statedFilterId r.parameters).str? := by
        rw [Request.namedFilter?, hroute]
        exact if_neg (by simpa using hmethod)
      rw [Request.applied, if_pos hstatus, hnamed]
      exact heffect

/-- What a request does to the saved filters. -/
theorem handle_filterEffect (c : Settings) (now : Moment) (s : Store) (r : Request) :
    FilterEffect (r.SentBy s) now s (r.applied (handle c now s r).1) (handle c now s r).2 := by
  unfold handle
  split
  · rename_i hroute
    have hnone : r.namedFilter? = none := by rw [Request.namedFilter?, hroute]
    rw [r.applied_of_none hnone]
    exact .other rfl rfl
  · rename_i route hroute
    have hanswer : FilterEffect (r.SentBy s) now s
        (r.applied ((handleRoute c now s r route).settle s).1)
        ((handleRoute c now s r route).settle s).2 := by
      by_cases htasks : ∃ board, route = .taskList board
      · obtain ⟨board, rfl⟩ := htasks
        exact handleTasks_filterEffect hroute
      · have hnone : r.namedFilter? = none := by
          rw [Request.namedFilter?, hroute]
          cases route with
          | taskList board => exact absurd ⟨board, rfl⟩ htasks
          | _ => rfl
        rw [r.applied_of_none hnone]
        rcases h : handleRoute c now s r route with reply | ⟨reply, s'⟩
        · exact .other rfl rfl
        · exact handleRoute_filterEffect (not_exists.1 htasks) h
    split_ifs
    · exact hanswer
    · exact hanswer
    · exact .other rfl rfl

end Requests

/-! ## Runs -/

/-- How many of some requests were answered after they have applied a saved filter. -/
def usesOf (c : Settings) (s : Store) (requests : List (Moment × Request)) (id : String) : Nat :=
  (requests.zip (replies c s requests)).countP fun a =>
    a.2.status = 200 ∧ a.1.2.namedFilter? = some id

theorem count_applied (r : Request) (reply : Reply) (id : String) :
    (r.applied reply).count id
      = if reply.status = 200 ∧ r.namedFilter? = some id then 1 else 0 := by
  unfold Request.applied
  by_cases hstatus : reply.status = 200
  · rw [if_pos hstatus]
    rcases r.namedFilter? with _ | named
    · simp
    · simp [hstatus, List.count_singleton]
  · simp [hstatus]

theorem usesOf_cons (c : Settings) (s : Store) (r : Moment × Request)
    (requests : List (Moment × Request)) (id : String) :
    usesOf c s (r :: requests) id = (r.2.applied (handle c r.1 s r.2).1).count id
      + usesOf c (handle c r.1 s r.2).2 requests id := by
  rw [usesOf, replies, List.zip_cons_cons, List.countP_cons, count_applied, usesOf, Nat.add_comm]
  simp only [decide_eq_true_eq]

theorem serve_inOrder {c : Settings} {s : Store} (requests : List (Moment × Request))
    (hs : s.FiltersInOrder) : (serve c s requests).FiltersInOrder := by
  induction requests generalizing s with
  | nil => exact hs
  | cons r requests ih =>
    rw [serve_cons]
    exact ih ((handle_filterEffect c r.1 s r.2).inOrder hs)

theorem serve_descends (c : Settings) (s : Store) (requests : List (Moment × Request)) :
    s.Descends (usesOf c s requests) (serve c s requests) := by
  induction requests generalizing s with
  | nil => exact .of_filters rfl fun g hg => ⟨g, hg, .refl g⟩
  | cons r requests ih =>
    rw [serve_cons, funext (usesOf_cons c s r requests)]
    exact (handle_filterEffect c r.1 s r.2).descends.trans (ih _)

/-- After any requests the saved filters are in order. A filter keeps everything but its flag and
the count of its uses, which grows by the requests that have been answered with it. A request leaves
the filters of all but its sender where they are, and with the same flag. -/
theorem serve_savedFilters {c : Settings} {s : Store} (before : List (Moment × Request))
    (hs : s.FiltersInOrder) :
    (serve c s before).FiltersInOrder
    ∧ (∀ after, ∀ f ∈ (serve c s before).filters, ∀ g ∈ (serve c s (before ++ after)).filters,
      g.id = f.id → f.After (usesOf c (serve c s before) after f.id) g)
    ∧ ∀ now r, ∀ f ∈ (serve c s before).filters, ¬ r.SentBy (serve c s before) f.userId →
      ∃ g ∈ (handle c now (serve c s before) r).2.filters,
        g.id = f.id ∧ g.isDefault = f.isDefault := by
  have hbefore := serve_inOrder (c := c) before hs
  refine ⟨hbefore, fun after f hf g hg hid => ?_, fun now r f hf hother => ?_⟩
  · rw [serve_append] at hg
    rcases (serve_descends c (serve c s before) after).filters g hg with ⟨k, hk, hafter⟩ |
      ⟨n, hn, -, hnew⟩
    · rwa [List.inj_on_of_nodup_map hbefore.ids hf hk (hid.symm.trans hafter.id_eq)]
    · exact absurd (hid.symm.trans hnew) (hbefore.unwritten f hf n hn)
  · obtain ⟨g, hg, hflag, hafter⟩ :=
      (handle_filterEffect c now (serve c s before) r).spares hbefore hf hother
    exact ⟨g, hg, hafter.id_eq, hflag⟩

namespace Sample

/-- A filter that another user has saved, under the name that `saveRequest` gives to one. -/
def privateFilter : SavedFilter :=
  ⟨filterId 1, "v", board.id, "Mine", none, stageTree.toRaw.toDocument, false, true, 0, none,
    Moment.first⟩

/-- The two boards, of which the first has the other user's filter. -/
def withPrivate : Store :=
  { twoBoards with filters := [privateFilter], filtersWritten := 1 }

theorem withPrivate_inOrder : withPrivate.FiltersInOrder where
  ids := List.nodup_singleton _
  unwritten f hf n hn heq := by
    obtain rfl := List.mem_singleton.1 hf
    exact absurd (filterId_inj.1 heq) (Nat.ne_of_lt hn)
  named f hf := by
    obtain rfl := List.mem_singleton.1 hf
    decide
  names f hf g hg _ _ _ := by
    rw [List.mem_singleton.1 hf, List.mem_singleton.1 hg]
  defaults f hf g hg _ _ _ _ := by
    rw [List.mem_singleton.1 hf, List.mem_singleton.1 hg]

theorem not_sentBy_owner (r : Request) : ¬ r.SentBy withPrivate privateFilter.userId := by
  rintro ⟨u, hu, hid⟩
  simp only [sender?, Option.bind_eq_bind, Option.bind_eq_some_iff] at hu
  obtain ⟨token, -, hfind⟩ := hu
  have hmem := List.mem_of_find?_eq_some hfind
  obtain rfl := List.mem_singleton.1 hmem
  exact absurd hid (by decide)

end Sample

section

open Sample

/-- The other user's filter stays the default when a filter of its name is saved. -/
theorem serve_savedFilters_withPrivate :
    (withPrivate.FiltersInOrder ∧ ¬ saveRequest.SentBy withPrivate privateFilter.userId)
    ∧ (serve .usual withPrivate [(Moment.first, saveRequest)]).FiltersInOrder
    ∧ (∃ g ∈ (handle .usual Moment.first withPrivate saveRequest).2.filters,
        g.id = filterId 1 ∧ g.isDefault = true)
    ∧ ∀ g ∈ (serve .usual withPrivate [(Moment.first, saveRequest)]).filters, g.id = filterId 1 →
        privateFilter.After (usesOf .usual withPrivate [(Moment.first, saveRequest)] (filterId 1))
          g := by
  have hmem : privateFilter ∈ withPrivate.filters := List.mem_singleton_self _
  obtain ⟨hafter, -⟩ := serve_savedFilters (c := .usual) [(Moment.first, saveRequest)]
    withPrivate_inOrder
  obtain ⟨-, hkept, hspared⟩ := serve_savedFilters (c := .usual) [] withPrivate_inOrder
  exact ⟨⟨withPrivate_inOrder, not_sentBy_owner _⟩, hafter,
    hspared Moment.first saveRequest privateFilter hmem (not_sentBy_owner _),
    hkept [(Moment.first, saveRequest)] privateFilter hmem⟩

end

end BoardQuery
