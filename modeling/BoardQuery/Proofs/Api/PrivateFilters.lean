import BoardQuery.Proofs.Api.FilterRuns
import BoardQuery.Proofs.Service.FilterFrame

/-!
# Private filters

A filter that is not public is not seen by anyone but its owner. Without it, a request of another
user is answered the same and leaves the same store, but for the filter (`handle_eraseFilter`), and
so are any number of them (`private_filter_unseen`).
-/

namespace BoardQuery

open Store (keepsPlace_defaulted keepsPlace_noted makeDefault_eq recordUse_eq)

/-- Whether the filter of an id is private to a user, and no filter to come is given that id. -/
structure Store.Hides (owner id : String) (s : Store) : Prop where
  hidden : ∀ f ∈ s.filters, f.id = id → f.isPublic = false ∧ f.userId = owner
  unwritten : ∀ n, s.filtersWritten < n → id ≠ filterId n

namespace Store

variable {s : Store} {id owner userId boardId key : String}

/-! ## Reading -/

theorem filter?_eraseFilter (h : key ≠ id) : (s.eraseFilter id).filter? key = s.filter? key := by
  rw [filter?, eraseFilter, List.find?_filter, filter?]
  refine List.find?_congr fun f _ => ?_
  by_cases hf : f.id = key
  · simp [hf, h]
  · simp [hf]

theorem filterJson_eraseFilter {key : Option String} (h : ∀ k ∈ key, k ≠ id) :
    (s.eraseFilter id).filterJson userId key = s.filterJson userId key := by
  rcases key with _ | k
  · rfl
  · rw [filterJson, filterJson, Option.bind_some, Option.bind_some, filter?_eraseFilter (h k rfl)]

namespace Hides

theorem not_accessible (h : s.Hides owner id) (hother : userId ≠ owner) {f : SavedFilter}
    (hf : f ∈ s.filters) (hid : f.id = id) : f.accessibleBy userId = false := by
  obtain ⟨hprivate, rfl⟩ := h.hidden f hf hid
  rw [SavedFilter.accessibleBy, hprivate, Bool.false_or]
  exact beq_false_of_ne hother.symm

theorem nextFilterId_ne (h : s.Hides owner id) : s.nextFilterId ≠ id :=
  (h.unwritten _ (Nat.lt_succ_self _)).symm

theorem usable_ne (h : s.Hides owner id) (hother : userId ≠ owner) {f : SavedFilter}
    (hf : usableFilter s key boardId userId = .ok f) : f.id ≠ id ∧ key ≠ id := by
  obtain ⟨hfind, -, haccess⟩ := usable_of_usableFilter hf
  obtain ⟨hmem, rfl⟩ := mem_of_filter? hfind
  have hne : f.id ≠ id := by
    intro hid
    rw [h.not_accessible hother hmem hid] at haccess
    exact Bool.false_ne_true haccess
  exact ⟨hne, hne⟩

theorem usableFilter_eq (h : s.Hides owner id) (hother : userId ≠ owner) (key : String) :
    usableFilter (s.eraseFilter id) key boardId userId = usableFilter s key boardId userId := by
  unfold usableFilter
  by_cases hkey : key = id
  · -- The filter is there or not, and in both cases it is not found.
    have hnone : (s.eraseFilter id).filter? key = none := by
      rw [filter?, List.find?_eq_none]
      intro f hf
      have hne := (List.mem_filter.1 hf).2
      simpa [hkey] using hne
    have hhidden : (s.filter? key).filter (fun f => f.boardId == boardId && f.accessibleBy userId)
        = none := by
      rcases hfind : s.filter? key with _ | f
      · rfl
      · obtain ⟨hf, hid⟩ := mem_of_filter? hfind
        rw [Option.filter_some, h.not_accessible hother hf (hid.trans hkey), Bool.and_false]
        rfl
    rw [hnone, hhidden]
    rfl
  · rw [filter?_eraseFilter hkey]

theorem usableFilters_eq (h : s.Hides owner id) (hother : userId ≠ owner) :
    usableFilters (s.eraseFilter id) boardId userId = usableFilters s boardId userId := by
  have hshown : (s.eraseFilter id).filters.filter
        (fun f => f.boardId == boardId && f.accessibleBy userId)
      = s.filters.filter fun f => f.boardId == boardId && f.accessibleBy userId := by
    refine filter_filter_of_imp fun f hf hshown => ?_
    rw [bne_iff_ne]
    intro hid
    rw [h.not_accessible hother hf hid, Bool.and_false] at hshown
    exact Bool.false_ne_true hshown
  rw [usableFilters, hshown, usableFilters]

/-- The names that a user has given are those of their own filters. -/
theorem hasNamed_eq (h : s.Hides owner id) (hother : userId ≠ owner) (name : String) :
    (s.eraseFilter id).hasNamed userId boardId name = s.hasNamed userId boardId name := by
  rw [Bool.eq_iff_iff, hasNamed_eq_true, hasNamed_eq_true]
  constructor
  · rintro ⟨f, hf, hname⟩
    exact ⟨f, List.mem_of_mem_filter hf, hname⟩
  · rintro ⟨f, hf, huser, hname⟩
    have hne : f.id ≠ id := fun hid => hother (huser.symm.trans (h.hidden f hf hid).2)
    exact ⟨f, List.mem_filter.2 ⟨hf, bne_iff_ne.2 hne⟩, huser, hname⟩

end Hides

/-! ## Writing -/

theorem map_eraseFilter {change : SavedFilter → SavedFilter} (h : KeepsPlace change) (s : Store)
    (id : String) : ({ s with filters := s.filters.map change } : Store).eraseFilter id
      = { s.eraseFilter id with filters := (s.eraseFilter id).filters.map change } := by
  have hids : ((fun f : SavedFilter => f.id != id) ∘ change) = fun f => f.id != id :=
    funext fun f => by rw [Function.comp_apply, h.id]
  rw [eraseFilter, List.filter_map, hids]
  rfl

theorem makeDefault_eraseFilter (s : Store) (f : SavedFilter) (id : String) :
    (s.makeDefault f).eraseFilter id = (s.eraseFilter id).makeDefault f :=
  map_eraseFilter (keepsPlace_defaulted f) s id

theorem recordUse_eraseFilter (now : Moment) (s : Store) (key id : String) :
    (recordUse now s key).eraseFilter id = recordUse now (s.eraseFilter id) key :=
  map_eraseFilter (keepsPlace_noted now key) s id

theorem used_eraseFilter (now : Moment) (s : Store) (applied : Option SavedFilter) (id : String) :
    (s.used now applied).eraseFilter id = (s.eraseFilter id).used now applied := by
  rcases applied with _ | f
  · rfl
  · exact recordUse_eraseFilter now s f.id id

theorem saved_eraseFilter {f : SavedFilter} (h : f.id ≠ id) (isDefault : Bool) :
    (s.saved f isDefault).eraseFilter id = (s.eraseFilter id).saved f isDefault := by
  have hadded : (s.addFilter f).eraseFilter id = (s.eraseFilter id).addFilter f := by
    have hnew : [f].filter (·.id != id) = [f] := List.filter_eq_self.2 fun g hg => by
      rw [List.mem_singleton.1 hg]
      simpa using h
    simp only [eraseFilter, addFilter, List.filter_append, hnew]
  unfold saved
  split_ifs
  · rw [makeDefault_eraseFilter, hadded]
  · exact hadded

theorem eraseFilter_eraseFilter (s : Store) (key id : String) :
    (s.eraseFilter key).eraseFilter id = (s.eraseFilter id).eraseFilter key := by
  simp only [eraseFilter, List.filter_filter, Bool.and_comm]

end Store

/-! ## Operations -/

section Operations

variable {c : Settings} {now : Moment} {s s' : Store} {id owner userId boardId key : String}
  {schema : BoardSchema} {b : Board} {q : TaskQuery}

theorem saveFilter_eraseFilter (h : s.Hides owner id) (hother : userId ≠ owner)
    (d : FilterDraft) : saveFilter now (s.eraseFilter id) schema userId d
      = (saveFilter now s schema userId d).map fun a => (a.1.eraseFilter id, a.2) := by
  have hbuild := (SameButFilters.eraseFilter s id).buildFilter_eq now schema false d.definition
  have hnext : (s.eraseFilter id).nextFilterId = s.nextFilterId := rfl
  rw [saveFilter_eq, saveFilter_eq]
  split
  · rfl
  · simp only [h.hasNamed_eq hother, refuse_bind, hbuild, hnext]
    split_ifs
    · rfl
    · rfl
    · refine bind_eq_map_bind fun tree _ => ?_
      rw [← Store.saved_eraseFilter h.nextFilterId_ne]
      rfl

theorem saveQueryFilter_eraseFilter (h : s.Hides owner id) (hother : userId ≠ owner)
    (raw : Json) (tree : Option BuiltFilter) :
    saveQueryFilter now (s.eraseFilter id) schema userId q raw tree
      = (saveQueryFilter now s schema userId q raw tree).map
        fun a => (a.1.eraseFilter id, a.2) := by
  simp only [saveQueryFilter, refuse_bind, saveFilter_eraseFilter h hother]
  split_ifs
  · rfl
  · rfl
  · exact map_bind_eq_map_bind fun _ _ => rfl

theorem Store.Hides.used (h : s.Hides owner id) (now : Moment) (applied : Option SavedFilter) :
    (s.used now applied).Hides owner id := by
  rcases applied with _ | f
  · exact h
  · refine ⟨fun g hg hid => ?_, h.unwritten⟩
    rw [Store.used, Option.map_some, Option.getD_some, recordUse_eq] at hg
    obtain ⟨k, hk, rfl⟩ := List.mem_map.1 hg
    obtain ⟨hprivate, howner⟩ := h.hidden k hk (by rwa [← (keepsPlace_noted now f.id).id k])
    have hafter := SavedFilter.After.of_noted now f.id k
    exact ⟨hafter.isPublic_eq.trans hprivate, hafter.userId_eq.trans howner⟩

theorem listTasks_eraseFilter (h : s.Hides owner id) (hother : userId ≠ owner) :
    listTasks c now (s.eraseFilter id) b userId q
      = (listTasks c now s b userId q).map fun a => (a.1.eraseFilter id, a.2) := by
  have hsame := SameButFilters.eraseFilter s id
  have hfilter : queryFilter (s.eraseFilter id) b.id userId q = queryFilter s b.id userId q := by
    unfold queryFilter
    split
    · rfl
    · rw [h.usableFilter_eq hother]
  have hbuilt (raw : Json) (saved : Bool) :
      builtQueryFilter (s.eraseFilter id) now (s.schema b) raw saved
        = builtQueryFilter s now (s.schema b) raw saved := by
    rw [builtQueryFilter, builtQueryFilter, hsame.buildFilter_eq]
  unfold listTasks
  dsimp only
  rw [hsame.schema_eq, hfilter]
  refine bind_eq_map_bind fun found _ => ?_
  obtain ⟨raw, applied⟩ := found
  dsimp only
  rw [hbuilt]
  refine bind_eq_map_bind fun tree _ => bind_eq_map_bind fun chosen _ =>
    bind_eq_map_bind fun pager _ => ?_
  obtain ⟨order, warning⟩ := chosen
  dsimp only
  rw [hsame.selectTasks_eq, hsame.page_eq]
  refine bind_eq_map_bind fun page _ => ?_
  have hsaved : saveQueryFilter now ((s.used now applied).eraseFilter id) (s.schema b) userId q raw
        tree = (saveQueryFilter now (s.used now applied) (s.schema b) userId q raw tree).map
        fun a => (a.1.eraseFilter id, a.2) :=
    saveQueryFilter_eraseFilter (h.used now applied) hother raw tree
  rw [Store.used_eraseFilter, Store.used, Store.used] at hsaved
  rw [hsaved]
  refine map_bind_eq_map_bind fun after _ => ?_
  dsimp only
  rw [(SameButFilters.eraseFilter after.1 id).selectTasks_eq]
  rfl

theorem chooseDefault_eraseFilter (h : s.Hides owner id) (hother : userId ≠ owner) :
    chooseDefault (s.eraseFilter id) key boardId userId
      = (chooseDefault s key boardId userId).map (·.eraseFilter id) := by
  unfold chooseDefault
  rw [h.usableFilter_eq hother]
  refine bind_eq_map_bind fun f _ => ?_
  split_ifs
  · rfl
  · exact congrArg Except.ok (Store.makeDefault_eraseFilter s f id).symm

theorem deleteFilter_eraseFilter (h : s.Hides owner id) (hother : userId ≠ owner) :
    deleteFilter (s.eraseFilter id) key boardId userId
      = (deleteFilter s key boardId userId).map (·.eraseFilter id) := by
  unfold deleteFilter
  rw [h.usableFilter_eq hother]
  refine bind_eq_map_bind fun f _ => ?_
  split_ifs
  · rfl
  · exact congrArg Except.ok (Store.eraseFilter_eraseFilter s key id).symm

/-! ## The filters that an answer tells of -/

theorem saveFilter_id {d : FilterDraft} (h : saveFilter now s schema userId d = .ok (s', key)) :
    key = s.nextFilterId := by
  rw [saveFilter_eq] at h
  split at h
  · exact absurd h refuse_ne_ok
  · simp only [refuse_bind, ite_refuse_eq_ok, bind_eq_ok, pure_eq_ok, Prod.mk.injEq] at h
    obtain ⟨-, -, tree, -, -, rfl⟩ := h
    rfl

theorem listTasks_ids_ne (h : s.Hides owner id) (hother : userId ≠ owner) {l : Listing}
    (hl : listTasks c now s b userId q = .ok (s', l)) :
    (∀ k ∈ l.appliedFilter, k ≠ id) ∧ ∀ k ∈ l.savedFilter, k ≠ id := by
  simp only [listTasks, bind_eq_ok, pure_eq_ok, Prod.mk.injEq] at hl
  obtain ⟨⟨raw, applied⟩, hraw, tree, -, ⟨order, warning⟩, -, pager, -, page, -, ⟨s₂, saved⟩,
    hsave, -, rfl⟩ := hl
  constructor
  · unfold queryFilter at hraw
    split at hraw
    · obtain ⟨-, rfl⟩ := Prod.mk.inj (Except.ok.inj hraw)
      simp
    · obtain ⟨f, hf, hpair⟩ := map_eq_ok.1 hraw
      obtain ⟨-, rfl⟩ := Prod.mk.inj hpair
      intro k hk
      obtain rfl := Option.some.inj hk
      exact (h.usable_ne hother hf).1
  · simp only [saveQueryFilter, refuse_bind] at hsave
    split_ifs at hsave
    · obtain ⟨-, rfl⟩ := Prod.mk.inj (pure_eq_ok.1 hsave)
      simp
    · exact absurd hsave refuse_ne_ok
    · simp only [bind_eq_ok, pure_eq_ok, Prod.mk.injEq] at hsave
      obtain ⟨⟨s₁, id'⟩, hsave, -, rfl⟩ := hsave
      intro k hk
      obtain rfl := Option.some.inj hk
      rw [saveFilter_id hsave]
      exact (h.used now applied).nextFilterId_ne

end Operations

/-! ## Requests -/

/-- A handler that leaves a store without a saved filter. -/
def Handled.eraseFilter (id : String) (h : Handled) : Handled :=
  h.map fun a => (a.1, a.2.eraseFilter id)

section Requests

variable {c : Settings} {now : Moment} {s s' : Store} {r : Request} {id owner : String} {b : Board}
  {u : User} {t : Task}

theorem onBoard_eraseFilter {board : String} {act act' : Board → User → Handled}
    (hact : ∀ b u, sender? s r = some u → act' b u = (act b u).eraseFilter id) :
    onBoard (s.eraseFilter id) r board act' = (onBoard s r board act).eraseFilter id := by
  refine bind_eq_map_bind fun b _ => ?_
  split_ifs
  · rfl
  · exact bind_eq_map_bind fun u hu => hact b u (authorize_eq_ok hu)

theorem onLimitedBoard_eraseFilter {board : String} {act act' : Board → User → Handled}
    (hact : ∀ b u, sender? s r = some u → act' b u = (act b u).eraseFilter id) :
    onLimitedBoard (s.eraseFilter id) r board act'
      = (onLimitedBoard s r board act).eraseFilter id := by
  have hboard : (s.eraseFilter id).board? board = s.board? board := rfl
  rw [onLimitedBoard_eq, onLimitedBoard_eq, hboard]
  split_ifs
  · rfl
  · exact onBoard_eraseFilter hact

theorem onTask_eraseFilter {task : String} {act act' : Task → Board → Handled}
    (hact : ∀ t b, act' t b = (act t b).eraseFilter id) :
    onTask (s.eraseFilter id) r task act' = (onTask s r task act).eraseFilter id := by
  refine bind_eq_map_bind fun ⟨t, b⟩ _ => ?_
  split_ifs
  · rfl
  · exact bind_eq_map_bind fun u _ => hact t b

theorem onService_eraseFilter {act act' : Handled} (hact : act' = act.eraseFilter id) :
    onService (s.eraseFilter id) r act' = (onService s r act).eraseFilter id := by
  unfold onService
  split_ifs
  · rfl
  · exact bind_eq_map_bind fun u _ => hact

theorem handleTaskList_eraseFilter (h : s.Hides owner id) (hother : u.id ≠ owner) :
    handleTaskList c now (s.eraseFilter id) r b u
      = (handleTaskList c now s r b u).eraseFilter id := by
  refine bind_eq_map_bind fun checked _ => ?_
  split
  · rfl
  · rename_i q _
    rw [listTasks_eraseFilter h hother, orReply_map]
    refine map_bind_eq_map_bind fun ⟨s', l⟩ hl => ?_
    obtain ⟨happlied, hsaved⟩ := listTasks_ids_ne h hother (orReply_eq_ok.1 hl)
    have hreply : listingReply (s'.eraseFilter id) u.id q l = listingReply s' u.id q l := by
      rw [listingReply, Store.filterJson_eraseFilter happlied, Store.filterJson_eraseFilter hsaved]
      rfl
    dsimp only
    rw [hreply]
    rfl

theorem handleFilterCheck_eraseFilter :
    handleFilterCheck c now (s.eraseFilter id) r b
      = (handleFilterCheck c now s r b).eraseFilter id := by
  refine bind_eq_map_bind fun raw _ => ?_
  have hbuild := (SameButFilters.eraseFilter s id).buildFilter_eq now (s.schema b) false raw
  rw [(SameButFilters.eraseFilter s id).schema_eq, hbuild]
  split <;> rfl

theorem handleSaveFilter_eraseFilter (h : s.Hides owner id) (hother : u.id ≠ owner) :
    handleSaveFilter now (s.eraseFilter id) r b u
      = (handleSaveFilter now s r b u).eraseFilter id := by
  refine bind_eq_map_bind fun name _ => bind_eq_map_bind fun definition _ =>
    bind_eq_map_bind fun description _ => bind_eq_map_bind fun isPublic _ =>
    bind_eq_map_bind fun isDefault _ => ?_
  dsimp only
  rw [(SameButFilters.eraseFilter s id).schema_eq, saveFilter_eraseFilter h hother, orReply_map]
  refine map_bind_eq_map_bind fun ⟨s', key⟩ hsave => ?_
  have hkey : key ≠ id := by
    rw [saveFilter_id (orReply_eq_ok.1 hsave)]
    exact h.nextFilterId_ne
  dsimp only
  rw [Store.filterJson_eraseFilter (by simpa using hkey)]
  rfl

theorem handleDefaultFilter_eraseFilter (h : s.Hides owner id) (hother : u.id ≠ owner)
    (key : String) : handleDefaultFilter (s.eraseFilter id) b u key
      = (handleDefaultFilter s b u key).eraseFilter id := by
  unfold handleDefaultFilter
  rw [chooseDefault_eraseFilter h hother, orReply_map]
  refine map_bind_eq_map_bind fun s' hchosen => ?_
  have hkey : key ≠ id := by
    have hchosen := orReply_eq_ok.1 hchosen
    simp only [chooseDefault, bind_eq_ok] at hchosen
    obtain ⟨f, hf, -⟩ := hchosen
    exact (h.usable_ne hother hf).2
  rw [Store.filterJson_eraseFilter (by simpa using hkey)]
  rfl

theorem handleDeleteFilter_eraseFilter (h : s.Hides owner id) (hother : u.id ≠ owner)
    (key : String) : handleDeleteFilter (s.eraseFilter id) b u key
      = (handleDeleteFilter s b u key).eraseFilter id := by
  unfold handleDeleteFilter
  rw [deleteFilter_eraseFilter h hother, orReply_map]
  exact map_bind_eq_map_bind fun s' _ => rfl

theorem handleBulk_eraseFilter : handleBulk c now (s.eraseFilter id) r b
    = (handleBulk c now s r b).eraseFilter id := by
  refine bind_eq_map_bind fun operation _ => bind_eq_map_bind fun params _ =>
    bind_eq_map_bind fun taskIds _ => bind_eq_map_bind fun filters _ => ?_
  dsimp only
  rw [(SameButFilters.eraseFilter s id).schema_eq, runBulk_eraseFilter, bulkLeftover_eraseFilter]
  rcases runBulk c now s (s.schema b) ⟨operation, params, taskIds, filters⟩ with e | ⟨op, run⟩
  · rfl
  · rfl

theorem handlePutValues_eraseFilter : handlePutValues now (s.eraseFilter id) r t b
    = (handlePutValues now s r t b).eraseFilter id := by
  have henv : (s.eraseFilter id).surroundings now = s.surroundings now := rfl
  refine bind_eq_map_bind fun values _ => ?_
  rw [henv, (SameButFilters.eraseFilter s id).schema_eq, setValues_eraseFilter, orReply_map]
  exact map_bind_eq_map_bind fun s' _ => rfl

theorem handleClearValue_eraseFilter (column : String) :
    handleClearValue (s.eraseFilter id) t b column
      = (handleClearValue s t b column).eraseFilter id := by
  have hcolumns : (s.eraseFilter id).columnsOf b.id = s.columnsOf b.id := rfl
  unfold handleClearValue
  rw [hcolumns]
  split
  · rw [clearValue_eraseFilter, orReply_map]
    exact map_bind_eq_map_bind fun s' _ => rfl
  · rfl

theorem handleRoute_eraseFilter (h : s.Hides owner id) (hsent : ¬ r.SentBy s owner)
    (route : Route) : handleRoute c now (s.eraseFilter id) r route
      = (handleRoute c now s r route).eraseFilter id := by
  have hother {u : User} (hu : sender? s r = some u) : u.id ≠ owner :=
    fun hid => hsent ⟨u, hu, hid⟩
  cases route with
  | columnTypes => exact onService_eraseFilter (bind_eq_map_bind fun _ _ => rfl)
  | columnType name =>
    refine onService_eraseFilter ?_
    unfold handleColumnType
    split
    · exact bind_eq_map_bind fun _ _ => rfl
    · rfl
  | taskList board =>
    exact onLimitedBoard_eraseFilter fun b u hu => handleTaskList_eraseFilter h (hother hu)
  | filterColumns board => exact onBoard_eraseFilter fun _ _ _ => rfl
  | filterCheck board => exact onBoard_eraseFilter fun _ _ _ => handleFilterCheck_eraseFilter
  | savedFilters board =>
    refine onBoard_eraseFilter fun b u hu => ?_
    split_ifs
    · exact handleSaveFilter_eraseFilter h (hother hu)
    · unfold handleSavedFilters
      rw [h.usableFilters_eq (hother hu)]
      rfl
  | defaultFilter board key =>
    exact onBoard_eraseFilter fun b u hu => handleDefaultFilter_eraseFilter h (hother hu) key
  | savedFilter board key =>
    exact onBoard_eraseFilter fun b u hu => handleDeleteFilter_eraseFilter h (hother hu) key
  | bulk board => exact onBoard_eraseFilter fun _ _ _ => handleBulk_eraseFilter
  | fieldValues task =>
    rw [handleRoute, handleRoute]
    refine onTask_eraseFilter fun t b => ?_
    split_ifs
    · exact handlePutValues_eraseFilter
    · rfl
  | fieldValue task column =>
    rw [handleRoute, handleRoute]
    exact onTask_eraseFilter fun t b => handleClearValue_eraseFilter column

/-- A request of anyone but the owner is answered the same without a private filter. -/
theorem handle_eraseFilter (h : s.Hides owner id) (hsent : ¬ r.SentBy s owner) :
    handle c now (s.eraseFilter id) r
      = ((handle c now s r).1, (handle c now s r).2.eraseFilter id) := by
  unfold handle
  split
  · rfl
  · rename_i route _
    rw [handleRoute_eraseFilter h hsent]
    rcases handleRoute c now s r route with reply | ⟨reply, s'⟩
    · simp only [Handled.eraseFilter, Except.map, Handled.settle]
      split_ifs <;> rfl
    · simp only [Handled.eraseFilter, Except.map, Handled.settle]
      split_ifs <;> rfl

/-! ## Runs -/

theorem Store.Hides.after {uses : String → Nat} (h : s.Hides owner id)
    (hdescends : s.Descends uses s') : s'.Hides owner id := by
  refine ⟨fun g hg hid => ?_, fun n hn => h.unwritten n (hdescends.written.trans_lt hn)⟩
  rcases hdescends.filters g hg with ⟨f, hf, hafter⟩ | ⟨n, hn, -, hnew⟩
  · obtain ⟨hprivate, howner⟩ := h.hidden f hf (hafter.id_eq.symm.trans hid)
    exact ⟨hafter.isPublic_eq.trans hprivate, hafter.userId_eq.trans howner⟩
  · exact absurd (hid.symm.trans hnew) (h.unwritten n hn)

theorem Request.SentBy.congr {userId : String} (h : s'.users = s.users) :
    r.SentBy s' userId ↔ r.SentBy s userId := by
  rw [SentBy, SentBy, sender?_congr h rfl]

theorem serve_eraseFilter : (requests : List (Moment × Request)) → {s : Store} →
    s.Hides owner id → (∀ r ∈ requests, ¬ r.2.SentBy s owner) →
    replies c (s.eraseFilter id) requests = replies c s requests
      ∧ serve c (s.eraseFilter id) requests = (serve c s requests).eraseFilter id
  | [], _, _, _ => ⟨rfl, rfl⟩
  | r :: requests, s, h, hsent => by
    have husers : (handle c r.1 s r.2).2.users = s.users := (handle_effect ..).sameSchema.users
    obtain ⟨hreplies, hserve⟩ := serve_eraseFilter requests
      (h.after (handle_filterEffect c r.1 s r.2).descends) fun r' hr' => by
        rw [Request.SentBy.congr husers]
        exact hsent r' (List.mem_cons_of_mem r hr')
    have hanswer : handle c r.1 (s.eraseFilter id) r.2
        = ((handle c r.1 s r.2).1, (handle c r.1 s r.2).2.eraseFilter id) :=
      handle_eraseFilter h (hsent r List.mem_cons_self)
    constructor
    · rw [replies, replies, hanswer, hreplies]
    · rw [serve_cons, serve_cons, hanswer, hserve]

end Requests

/-- Any requests of others than its owner are answered the same without a private filter, and leave
the same store but for the filter. -/
theorem private_filter_unseen {c : Settings} {s : Store} {p : SavedFilter}
    {requests : List (Moment × Request)} (hids : (s.filters.map (·.id)).Nodup)
    (hunwritten : ∀ n, s.filtersWritten < n → p.id ≠ filterId n) (hp : p ∈ s.filters)
    (hprivate : p.isPublic = false) (hsent : ∀ r ∈ requests, ¬ r.2.SentBy s p.userId) :
    replies c (s.eraseFilter p.id) requests = replies c s requests
      ∧ serve c (s.eraseFilter p.id) requests = (serve c s requests).eraseFilter p.id := by
  refine serve_eraseFilter requests ⟨fun f hf hid => ?_, hunwritten⟩ hsent
  rw [List.inj_on_of_nodup_map hids hf hp hid]
  exact ⟨hprivate, rfl⟩

/-- The user who saves a filter under the name of the other user's filter learns nothing of it. -/
theorem private_filter_unseen_same_name :
    ((Sample.withPrivate.filters.map (·.id)).Nodup
      ∧ (∀ n, Sample.withPrivate.filtersWritten < n → Sample.privateFilter.id ≠ filterId n)
      ∧ Sample.privateFilter ∈ Sample.withPrivate.filters
      ∧ Sample.privateFilter.isPublic = false
      ∧ ∀ r ∈ [(Moment.first, Sample.saveRequest),
          (Moment.first, Sample.savedRequest (filterId 1))],
        ¬ r.2.SentBy Sample.withPrivate Sample.privateFilter.userId)
    ∧ replies .usual (Sample.withPrivate.eraseFilter Sample.privateFilter.id)
        [(Moment.first, Sample.saveRequest), (Moment.first, Sample.savedRequest (filterId 1))]
      = replies .usual Sample.withPrivate
        [(Moment.first, Sample.saveRequest),
          (Moment.first, Sample.savedRequest (filterId 1))] := by
  have hmem : Sample.privateFilter ∈ Sample.withPrivate.filters := List.mem_singleton_self _
  have hunwritten := Sample.withPrivate_inOrder.unwritten _ hmem
  have hsent : ∀ r ∈ [(Moment.first, Sample.saveRequest),
      (Moment.first, Sample.savedRequest (filterId 1))],
      ¬ r.2.SentBy Sample.withPrivate Sample.privateFilter.userId :=
    fun r _ => Sample.not_sentBy_owner r.2
  exact ⟨⟨Sample.withPrivate_inOrder.ids, hunwritten, hmem, rfl, hsent⟩,
    (private_filter_unseen Sample.withPrivate_inOrder.ids hunwritten hmem rfl hsent).1⟩

end BoardQuery
