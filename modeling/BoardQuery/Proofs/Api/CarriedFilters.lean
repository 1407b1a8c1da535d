import BoardQuery.Proofs.Api.FilterRuns
import BoardQuery.Proofs.Service.FilterSources

/-!
# Filters that requests carry

A request for tasks carries its filter as a document in its body, as a text among its parameters,
or by the id of a filter that has been saved before (`Request.Carries`). The listing is the same in
all cases (`carried_filter_lists`).
-/

namespace BoardQuery

/-! ## Filters that have been saved -/

section Saved

variable {c : Settings} {m : Moment} {s s' : Store} {b : Board} {owner id : String}
  {d : FilterDraft} {tree : BuiltFilter}

theorem mem_saved {f g : SavedFilter} {isDefault : Bool} (h : g ∈ (s.saved f isDefault).filters) :
    ∃ k ∈ s.filters ++ [f], k.After 0 g := by
  unfold Store.saved at h
  split_ifs at h
  · obtain ⟨k, hk, rfl⟩ := List.mem_map.1 h
    exact ⟨k, hk, .of_defaulted f k⟩
  · exact ⟨g, h, .refl g⟩

/-- A document is built as it was before a filter was saved and requests were answered. -/
theorem buildFilter_serve {schema : BoardSchema}
    (hsave : saveFilter m s schema owner d = .ok (s', id))
    (later : List (Moment × Request)) (now : Moment) (staleOk : Bool) (raw : Json) :
    buildFilter (serve c s' later) now ((serve c s' later).schema b) staleOk raw
      = buildFilter s now (s.schema b) staleOk raw := by
  have hserved := serve_sameSchema c s' later
  rw [hserved.schema_eq, buildFilter, Store.buildContext, hserved.surroundings_eq]
  have hsaved := saveFilter_sameButFilters hsave
  rw [← hsaved.buildFilter_eq, hsaved.schema_eq]
  rfl

/-- A filter that has been saved keeps the document of what its definition was built into. -/
theorem saveFilter_kept {schema : BoardSchema} (hs : s.FiltersInOrder)
    (hsave : saveFilter m s schema owner d = .ok (s', id))
    (hbuilt : buildFilter s m schema false d.definition = .ok tree)
    (later : List (Moment × Request)) {g : SavedFilter} (hg : g ∈ (serve c s' later).filters)
    (hid : g.id = id) :
    g.definition = tree.toRaw.toDocument ∧ g.boardId = schema.boardId ∧ g.userId = owner
      ∧ g.isPublic = d.isPublic := by
  rw [saveFilter_eq] at hsave
  split at hsave
  · exact absurd hsave refuse_ne_ok
  simp only [refuse_bind, ite_refuse_eq_ok, bind_eq_ok, pure_eq_ok, Prod.mk.injEq, hbuilt,
    Except.ok.injEq, exists_eq_left'] at hsave
  obtain ⟨-, -, rfl, rfl⟩ := hsave
  -- The filter was given the next id, which none had before and none is given again.
  rcases (serve_descends c _ later).filters g hg with ⟨f, hf, hafter⟩ | ⟨n, hn, -, hnew⟩
  · obtain ⟨k, hk, hbefore⟩ := mem_saved hf
    have hlast := hbefore.trans hafter
    rcases List.mem_append.1 hk with hk | hk
    · exact absurd (hlast.id_eq.symm.trans hid) (hs.unwritten k hk _ (Nat.lt_succ_self _))
    · obtain rfl := List.mem_singleton.1 hk
      rw [SavedFilter.After] at hlast
      rw [hlast]
      exact ⟨rfl, rfl, rfl, rfl⟩
  · rw [saved_filtersWritten] at hn
    have heq := filterId_inj.1 (hid.symm.trans hnew)
    omega

/-- A filter that has been saved, and is still there, may be used by its owner, and by others if it
is public. -/
theorem usableFilter_kept {userId : String} (hs : s.FiltersInOrder)
    (hsave : saveFilter m s (s.schema b) owner d = .ok (s', id))
    (hbuilt : buildFilter s m (s.schema b) false d.definition = .ok tree)
    (later : List (Moment × Request)) (hkept : ((serve c s' later).filter? id).isSome)
    (hmay : owner = userId ∨ d.isPublic = true) :
    ∃ g, usableFilter (serve c s' later) id b.id userId = .ok g
      ∧ g.definition = tree.toRaw.toDocument := by
  obtain ⟨g, hfind⟩ := Option.isSome_iff_exists.1 hkept
  obtain ⟨hg, hid⟩ := mem_of_filter? hfind
  obtain ⟨hdefinition, hboard, howner, hpublic⟩ := saveFilter_kept hs hsave hbuilt later hg hid
  have haccess : g.accessibleBy userId = true := by
    rw [SavedFilter.accessibleBy, howner, hpublic]
    simpa [or_comm] using hmay
  refine ⟨g, ?_, hdefinition⟩
  rw [usableFilter, hfind, Option.filter_some, if_pos]
  rw [hboard, haccess]
  simp [Store.schema]

end Saved

/-! ## Requests -/

/-- What a request states for the three sources of a filter. -/
structure Request.HasSources (r : Request) (filters text id : Json) : Prop where
  filters : Fields.get r.parameters "filters" = filters
  text : Fields.get r.parameters "filters_json" = text
  id : TaskQuery.statedFilterId r.parameters = id

/-- The ways in which a request can carry a definition on a board, and the moment at which the
definition is read. -/
inductive Request.Carries (c : Settings) (now : Moment) (s : Store) (b : Board) (r : Request)
    (D : Json) : Moment → Prop
  | document (h : r.HasSources D .null .null) : Carries c now s b r D now
  | text {t : String} (h : r.HasSources (.str t) .null .null) (hread : Json.read t = .ok D) :
    Carries c now s b r D now
  | json {t : String} (h : r.HasSources .null (.str t) .null) (hlimit : t.length ≤ c.filtersText)
    (hread : Json.read t = .ok D) : Carries c now s b r D now
  /-- The definition was saved at some moment, and other requests may have been answered since. -/
  | saved {m : Moment} {before after : Store} {owner id : String} {d : FilterDraft}
    {later : List (Moment × Request)} (hbefore : before.FiltersInOrder) (hd : d.definition = D)
    (hsave : saveFilter m before (before.schema b) owner d = .ok (after, id))
    (hafter : serve c after later = s) (hkept : (s.filter? id).isSome)
    (howner : r.SentBy s owner ∨ d.isPublic = true) (h : r.HasSources .null .null (.str id)) :
    Carries c now s b r D m

section Sources

variable {c : Settings} {now m : Moment} {s : Store} {b : Board} {r : Request} {D : Json}
  {tree : BuiltFilter}

/-- A document that is built into a filter is an array or an object. -/
theorem eq_arr_or_obj_of_build {ctx : BuildContext} (h : FilterBuilder.build ctx D = .ok tree) :
    (∃ items, D = .arr items) ∨ ∃ fields, D = .obj fields := by
  unfold FilterBuilder.build at h
  split at h
  · exact .inl ⟨_, rfl⟩
  · exact .inr ⟨_, rfl⟩
  · exact absurd h (by simp)

/-- Whether the queries that state the filter of a request come to a filter that is built. -/
def Request.ComesTo (r : Request) (c : Settings) (now : Moment) (s : Store) (b : Board)
    (userId : String) (tree : BuiltFilter) : Prop :=
  ∃ filters id, TaskQuery.readFilters c.limits r.parameters = .ok (.valid filters)
    ∧ TaskQuery.readFilterId r.parameters = .valid id
    ∧ ∀ q : TaskQuery, (q.withFilter filters id).ComesTo now s b userId tree

theorem Request.Carries.comesTo (h : r.Carries c now s b D m)
    (hbuilt : buildFilter s m (s.schema b) false D = .ok tree) {u : User}
    (hu : sender? s r = some u) : r.ComesTo c now s b u.id tree := by
  have hstated (h : buildFilter s now (s.schema b) false D = .ok tree) (q : TaskQuery) :
      (q.withFilter D none).ComesTo now s b u.id tree := ⟨D, none, rfl, h, h⟩
  cases h with
  | document h =>
    refine ⟨D, none, ?_, ?_, hstated hbuilt⟩
    · simp only [TaskQuery.readFilters, h.filters, h.text, h.id]
      rcases eq_arr_or_obj_of_build (mapError_eq_ok.1 hbuilt) with ⟨_, rfl⟩ | ⟨_, rfl⟩ <;> rfl
    · rw [TaskQuery.readFilterId, h.id]
  | @text t h hread =>
    refine ⟨D, none, ?_, ?_, hstated hbuilt⟩
    · simp only [TaskQuery.readFilters, h.filters, h.text, h.id, TaskQuery.readText, hread]
      rfl
    · rw [TaskQuery.readFilterId, h.id]
  | @json t h hlimit hread =>
    refine ⟨D, none, ?_, ?_, hstated hbuilt⟩
    · have hshort : ¬ c.limits.filtersText < t.length := Int.not_lt.2 hlimit
      simp only [TaskQuery.readFilters, h.filters, h.text, h.id, TaskQuery.readText, hread,
        if_neg hshort]
      rfl
    · rw [TaskQuery.readFilterId, h.id]
  | @saved _ before after owner id d later hbefore hd hsave hafter hkept howner h =>
    refine ⟨.null, some id, ?_, ?_, fun q => ?_⟩
    · simp only [TaskQuery.readFilters, h.filters, h.text, h.id]
      rfl
    · simp only [TaskQuery.readFilterId, h.filters, h.text, h.id]
      rfl
    · subst hd hafter
      rw [buildFilter_serve hsave] at hbuilt
      have hmay : owner = u.id ∨ d.isPublic = true := by
        refine howner.imp_left ?_
        rintro ⟨u', hu', rfl⟩
        rw [Option.some.inj (hu'.symm.trans hu)]
      obtain ⟨g, husable, hdefinition⟩ := usableFilter_kept hbefore hsave hbuilt later hkept hmay
      have hagain (staleOk : Bool) : buildFilter (serve c after later) now
          ((serve c after later).schema b) staleOk g.definition = .ok tree := by
        rw [buildFilter_serve hsave, hdefinition]
        exact buildFilter_again hbuilt now staleOk
      refine ⟨g.definition, some g, ?_, hagain true, hagain false⟩
      rw [queryFilter, TaskQuery.withFilter]
      dsimp only
      rw [husable]
      rfl

end Sources

/-- Whether a request asks for tasks of a board, and for a reply with a body, and the limiter lets
it through. -/
structure Request.ListsTasks (r : Request) (board : String) : Prop where
  route : Route.ofSegments? r.segments = some (.taskList board)
  method : r.method = "GET" ∨ r.method = "POST"
  limited : r.limited = false

/-- Whether two requests are of one sender and differ in no parameters but the sources of their
filters. -/
structure Request.SameButSources (r₁ r₂ : Request) : Prop where
  authorization : r₂.authorization = r₁.authorization
  parameter : ∀ name ∉ filterSources,
    Fields.get r₂.parameters name = Fields.get r₁.parameters name

theorem Request.SameButSources.refl (r : Request) : r.SameButSources r :=
  ⟨rfl, fun _ _ => rfl⟩

/-- Whether a request is to save its filter under a name that its sender has given before. -/
def Request.NameTaken (c : Settings) (s : Store) (b : Board) (r : Request) : Prop :=
  ∃ u q name, sender? s r = some u ∧ TaskQuery.ofParameters c.limits r.parameters = .ok (.valid q)
    ∧ q.saveFilter = true ∧ filterName? (.ofOption q.filterName) = some name
    ∧ s.hasNamed u.id b.id name = true

/-- A listing, with what it tells of the saved filters apart. -/
def Reply.listing (data pagination : Json) (about : Fields) (applied saved : Json) : Reply :=
  .json 200 [("data", data), ("pagination", pagination),
    ("meta", .obj (about ++ [("applied_saved_filter", applied), ("saved_filter", saved)]))]

/-- Whether two replies are the same, or listings that differ only in the saved filters that they
tell of. -/
inductive Reply.SameListing : Reply → Reply → Prop
  | same (r : Reply) : SameListing r r
  | listed (data pagination : Json) (about : Fields) (applied₁ applied₂ saved₁ saved₂ : Json) :
    SameListing (.listing data pagination about applied₁ saved₁)
      (.listing data pagination about applied₂ saved₂)

section Listings

variable {c : Settings} {now now₁ now₂ : Moment} {s s₁ s₂ : Store} {b : Board} {u : User}
  {r r₁ r₂ : Request} {board : String} {tree : BuiltFilter}

/-- The query of a request that states other sources of its filter. -/
theorem ofParameters_withFilter {l : TaskQuery.Limits} {filters filters₁ : Json}
    {id id₁ : Option String} (hr : r₁.SameButSources r₂)
    (hfilters₁ : TaskQuery.readFilters l r₁.parameters = .ok (.valid filters₁))
    (hid₁ : TaskQuery.readFilterId r₁.parameters = .valid id₁)
    (hfilters : TaskQuery.readFilters l r₂.parameters = .ok (.valid filters))
    (hid : TaskQuery.readFilterId r₂.parameters = .valid id) :
    TaskQuery.ofParameters l r₂.parameters
      = (TaskQuery.ofParameters l r₁.parameters).map ((·.withFilter filters id) <$> ·) := by
  refine ofParameters_map (f := fun _ => filters) (g := fun _ => id) hr.parameter ?_ ?_
  · rw [hfilters₁, hfilters]
    rfl
  · rw [hid₁, hid]
    rfl

/-- What the meta of a listing tells beside saved filters. -/
def Listing.about (l : Listing) : Fields :=
  [("filters_applied", .int l.conditions), ("filter_summary", .str l.summary),
    ("sort", l.order.toJson), ("warnings", .arr (l.warnings.map (·.toJson))),
    ("statistics", l.statistics), ("diagnostics", l.diagnostics.toJson)]

theorem listingReply_eq (s : Store) (userId : String) (q : TaskQuery) (l : Listing) :
    listingReply s userId q l = .listing (.arr (l.page.items.map (taskJson s q.inclusions)))
      l.page.toJson l.about (s.filterJson userId l.appliedFilter)
      (s.filterJson userId l.savedFilter) := rfl

theorem sameListing_of_unsaved {userId : String} {q : TaskQuery} {filters : Json}
    {id : Option String} {l₁ l₂ : Listing} (hsame : SameButFilters s₁ s₂)
    (hl : l₂.unsaved = l₁.unsaved) : Reply.SameListing (listingReply s₁ userId q l₁)
      (listingReply s₂ userId (q.withFilter filters id) l₂) := by
  have hpage : l₂.page = l₁.page := by
    show l₂.unsaved.page = l₁.unsaved.page
    rw [hl]
  have habout : l₂.about = l₁.about := by
    show l₂.unsaved.about = l₁.unsaved.about
    rw [hl]
  have htasks : taskJson s₂ (q.withFilter filters id).inclusions = taskJson s₁ q.inclusions :=
    funext fun t => hsame.taskJson_eq q.inclusions t
  rw [listingReply_eq, listingReply_eq, hpage, habout, htasks]
  exact .listed ..

theorem handle_listsTasks (h : r.ListsTasks board) (hboard : s.board? board = some b) :
    (handle c now s r).1
      = (Handled.settle s (authorize s r b >>= handleTaskList c now s r b)).1 := by
  have haccepts : (Route.taskList board).accepts r.method = true := by
    rcases h.method with hmethod | hmethod <;> rw [hmethod] <;> rfl
  have hhead : (r.method == "HEAD") = false := by
    rcases h.method with hmethod | hmethod <;> rw [hmethod] <;> decide
  have hoptions : (r.method == "OPTIONS") = false := by
    rcases h.method with hmethod | hmethod <;> rw [hmethod] <;> decide
  have hroute : handleRoute c now s r (.taskList board)
      = authorize s r b >>= handleTaskList c now s r b := by
    have hheld : r.heldBack = false := by rw [Request.heldBack, h.limited, Bool.false_and]
    rw [handleRoute, onLimitedBoard_eq, hheld, Bool.and_false, if_neg Bool.false_ne_true, onBoard,
      boardOrReply, hboard, hoptions]
    rfl
  simp only [handle, h.route, haccepts, hroute, hhead]
  rfl

theorem nameTaken_iff {q : TaskQuery} (hu : sender? s r = some u)
    (hq : TaskQuery.ofParameters c.limits r.parameters = .ok (.valid q)) :
    r.NameTaken c s b ↔ q.saveFilter = true
      ∧ ∃ name, filterName? (.ofOption q.filterName) = some name
        ∧ s.hasNamed u.id b.id name = true := by
  constructor
  · rintro ⟨u', q', name, hu', hq', hsave, hname, htaken⟩
    obtain rfl := Option.some.inj (hu'.symm.trans hu)
    obtain rfl := Validated.valid.inj (Except.ok.inj (hq'.symm.trans hq))
    exact ⟨hsave, name, hname, htaken⟩
  · rintro ⟨hsave, name, hname, htaken⟩
    exact ⟨u, q, name, hu, hq, hsave, hname, htaken⟩

/-- A request for tasks is answered by its parameters: with what is wrong with them, or with the
listing of their query. -/
theorem handleTaskList_eq (c : Settings) (now : Moment) (s : Store) (r : Request) (b : Board)
    (u : User) : handleTaskList c now s r b u =
      match TaskQuery.ofParameters c.limits r.parameters with
      | .error f => orReply 400 (orFault (.error f))
      | .ok (.invalid errors) => .error (.ofParameterErrors errors)
      | .ok (.valid q) => (orReply 400 (listTasks c now s b u.id q)).map
          fun a => (listingReply a.1 u.id q a.2, a.1) := by
  unfold handleTaskList
  rcases TaskQuery.ofParameters c.limits r.parameters with f | (q | errors)
  · rfl
  · have hread (v : Checked TaskQuery) : orReply 400 (orFault (.ok v)) = .ok v := rfl
    rw [hread, ok_bind]
    dsimp only
    rcases listTasks c now s b u.id q with e | a <;> rfl
  · rfl

theorem handleTaskList_sameListing (hsame : SameButFilters s₁ s₂) (hr : r₁.SameButSources r₂)
    (h₁ : r₁.ComesTo c now₁ s₁ b u.id tree) (h₂ : r₂.ComesTo c now₂ s₂ b u.id tree)
    (hu : sender? s₁ r₁ = some u) (htaken : r₁.NameTaken c s₁ b ↔ r₁.NameTaken c s₂ b) :
    Reply.SameListing ((handleTaskList c now₁ s₁ r₁ b u).settle s₁).1
      ((handleTaskList c now₂ s₂ r₂ b u).settle s₂).1 := by
  obtain ⟨filters₁, id₁, hfilters₁, hid₁, h₁⟩ := h₁
  obtain ⟨filters₂, id₂, hfilters₂, hid₂, h₂⟩ := h₂
  have hsender : sender? s₂ r₁ = sender? s₁ r₁ := sender?_congr hsame.users rfl
  have hsecond := ofParameters_withFilter hr hfilters₁ hid₁ hfilters₂ hid₂
  -- By the same lemma the first query is one that states what was read of the first request.
  have hfirst := ofParameters_withFilter (.refl r₁) hfilters₁ hid₁ hfilters₁ hid₁
  rcases hread : TaskQuery.ofParameters c.limits r₁.parameters with e | (q | es)
  · rw [handleTaskList_eq, handleTaskList_eq, hsecond, hread]
    exact .same _
  · rw [hread] at hfirst hsecond
    have hq : q = q.withFilter filters₁ id₁ := Validated.valid.inj (Except.ok.inj hfirst)
    have hlisted : (listTasks c now₂ s₂ b u.id (q.withFilter filters₂ id₂)).map (·.2.unsaved)
        = (listTasks c now₁ s₁ b u.id q).map (·.2.unsaved) := by
      refine listTasks_source hsame (hq ▸ h₁ q) (h₂ q) fun hsave name hname => ?_
      rw [nameTaken_iff hu hread, nameTaken_iff (hsender.trans hu) hread] at htaken
      simp only [hsave, hname, true_and, Option.some.injEq, exists_eq_left'] at htaken
      exact Bool.eq_iff_iff.2 htaken.symm
    rw [handleTaskList_eq, handleTaskList_eq, hread, hsecond]
    dsimp only [Except.map, Functor.map]
    rcases hl₁ : listTasks c now₁ s₁ b u.id q with e | ⟨s₁', l₁⟩ <;>
      rcases hl₂ : listTasks c now₂ s₂ b u.id (q.withFilter filters₂ id₂) with e' | ⟨s₂', l₂⟩ <;>
      rw [hl₁, hl₂] at hlisted
    · obtain rfl := Except.error.inj hlisted
      exact .same _
    · exact absurd hlisted (by simp [Except.map])
    · exact absurd hlisted (by simp [Except.map])
    · have hsame' : SameButFilters s₁' s₂' :=
        ((listTasks_sameButFilters hl₁).symm.trans hsame).trans (listTasks_sameButFilters hl₂)
      exact sameListing_of_unsaved hsame' (Except.ok.inj hlisted)
  · rw [handleTaskList_eq, handleTaskList_eq, hsecond, hread]
    exact .same _

end Listings

/-- Two requests that carry the same definition, and are the same otherwise, are answered with the
same listing, but for the saved filters that it tells of. Both must read the same filter, for a day
written in part is completed at the moment at which it is read. And if the filter is to be saved
under a name, the name must be taken in both stores or free in both, as it is in one store. -/
theorem carried_filter_lists {c : Settings} {now₁ now₂ m₁ m₂ : Moment} {s₁ s₂ : Store} {b : Board}
    {r₁ r₂ : Request} {board : String} {D : Json} {tree : BuiltFilter}
    (hsame : SameButFilters s₁ s₂) (hboard : s₁.board? board = some b)
    (hlists₁ : r₁.ListsTasks board) (hlists₂ : r₂.ListsTasks board) (hr : r₁.SameButSources r₂)
    (h₁ : r₁.Carries c now₁ s₁ b D m₁) (h₂ : r₂.Carries c now₂ s₂ b D m₂)
    (hbuilt₁ : buildFilter s₁ m₁ (s₁.schema b) false D = .ok tree)
    (hbuilt₂ : buildFilter s₂ m₂ (s₂.schema b) false D = .ok tree)
    (htaken : r₁.NameTaken c s₁ b ↔ r₁.NameTaken c s₂ b) :
    Reply.SameListing (handle c now₁ s₁ r₁).1 (handle c now₂ s₂ r₂).1 := by
  have hboard₂ : s₂.board? board = some b := by
    obtain ⟨fs, n, rfl⟩ := hsame.exists_eq
    exact hboard
  have hauthorize : authorize s₂ r₂ b = authorize s₁ r₁ b := by
    refine authorize_congr hsame.users (fun userId => ?_) hr.authorization
    obtain ⟨fs, n, rfl⟩ := hsame.exists_eq
    rfl
  rw [handle_listsTasks hlists₁ hboard, handle_listsTasks hlists₂ hboard₂, hauthorize]
  rcases hu : authorize s₁ r₁ b with reply | u
  · exact .same reply
  · have hu₁ := authorize_eq_ok hu
    have hu₂ := authorize_eq_ok (hauthorize.trans hu)
    exact handleTaskList_sameListing hsame hr (h₁.comesTo hbuilt₁ hu₁) (h₂.comesTo hbuilt₂ hu₂)
      hu₁ htaken

namespace Sample

/-- The request to list the tasks that the filter selects, with the filter in its body. -/
def stageRequest : Request :=
  { savedRequest "" with
    method := "POST"
    query := []
    body := .document (.obj [("filters", stageFilter)]) }

theorem stageRequest_carries :
    stageRequest.Carries .usual Moment.first twoBoards board stageFilter Moment.first :=
  .document ⟨rfl, rfl, rfl⟩

theorem twoBoards_inOrder : twoBoards.FiltersInOrder := by
  refine ⟨List.nodup_nil, ?_, ?_, ?_, ?_⟩ <;>
  · intro f hf
    exact absurd hf List.not_mem_nil

theorem savedRequest_sentBy : (savedRequest (filterId 1)).SentBy (withStage "u") "u" := by
  have hsender : (sender? (withStage "u") (savedRequest (filterId 1))).map (·.id) = some "u" := by
    decide +kernel
  exact Option.map_eq_some_iff.1 hsender

theorem savedRequest_carries : (savedRequest (filterId 1)).Carries .usual Moment.first
    (withStage "u") board stageFilter Moment.first := by
  have hafter : serve .usual (withStage "u") [] = withStage "u" := rfl
  exact .saved twoBoards_inOrder rfl (saveFilter_stageDraft _) hafter (by decide +kernel)
    (.inl savedRequest_sentBy) ⟨rfl, rfl, rfl⟩

theorem stageRequest_sameButSources : stageRequest.SameButSources (savedRequest (filterId 1)) where
  authorization := rfl
  parameter name hname := by
    simp only [filterSources, List.mem_cons, List.not_mem_nil, or_false, not_or] at hname
    obtain ⟨hfilters, -, hid⟩ := hname
    show ([("saved_filter_id", Json.str (filterId 1))].lookup name).getD .null
      = ([("filters", stageFilter)].lookup name).getD .null
    rw [List.lookup_cons, List.lookup_cons, beq_false_of_ne hid, beq_false_of_ne hfilters]

/-- The query that `stageRequest` states. -/
def stageQuery : TaskQuery :=
  ⟨stageFilter, none, none, 1, none, none, false, [], false, false, none, false⟩

theorem ofParameters_stageRequest :
    TaskQuery.ofParameters Settings.usual.limits stageRequest.parameters
      = .ok (.valid stageQuery) := rfl

theorem stageRequest_nameFree (s : Store) : ¬ stageRequest.NameTaken .usual s board := by
  rintro ⟨u, q, name, -, hq, hsave, -⟩
  obtain rfl := Validated.valid.inj (Except.ok.inj (hq.symm.trans ofParameters_stageRequest))
  exact absurd hsave Bool.false_ne_true

theorem stageRequest_listsTasks : stageRequest.ListsTasks "board" :=
  ⟨savedRequest_route "", .inr rfl, rfl⟩

theorem stageRequest_answered :
    (handle .usual Moment.first twoBoards stageRequest).1.status = 200 := by
  obtain ⟨u, hu⟩ := authorize_twoBoards
  have hu : authorize twoBoards stageRequest board = .ok u := hu
  have hselected : ∃ tasks, stageQuery.selected Moment.first twoBoards board u.id = .ok tasks := by
    have hraw : queryFilter twoBoards board.id u.id stageQuery = .ok (stageFilter, none) := rfl
    have hbuilt : builtQueryFilter twoBoards Moment.first (twoBoards.schema board) stageFilter
        (none : Option SavedFilter).isSome = .ok (some stageTree) :=
      builtQueryFilter_of_build buildFilter_stageFilter
    rw [TaskQuery.selected, hraw, ok_bind]
    dsimp only
    rw [hbuilt]
    exact ⟨_, rfl⟩
  obtain ⟨tasks, hselected⟩ := hselected
  obtain ⟨a, ha⟩ := listTasks_of_selected (c := .usual) rfl hselected rfl rfl rfl
  rw [handle_listsTasks stageRequest_listsTasks rfl, hu, ok_bind, handleTaskList_eq,
    ofParameters_stageRequest]
  dsimp only
  rw [ha]
  rfl

end Sample

section

open Sample

/-- A filter in the body of a request, and the same filter after it has been saved. -/
theorem carried_filter_lists_stage :
    (SameButFilters twoBoards (withStage "u") ∧ twoBoards.board? "board" = some board
      ∧ stageRequest.ListsTasks "board" ∧ (savedRequest (filterId 1)).ListsTasks "board"
      ∧ stageRequest.SameButSources (savedRequest (filterId 1))
      ∧ stageRequest.Carries .usual Moment.first twoBoards board stageFilter Moment.first
      ∧ (savedRequest (filterId 1)).Carries .usual Moment.first (withStage "u") board stageFilter
        Moment.first
      ∧ (stageRequest.NameTaken .usual twoBoards board
        ↔ stageRequest.NameTaken .usual (withStage "u") board))
    ∧ (handle .usual Moment.first twoBoards stageRequest).1.status = 200
    ∧ Reply.SameListing (handle .usual Moment.first twoBoards stageRequest).1
        (handle .usual Moment.first (withStage "u") (savedRequest (filterId 1))).1 := by
  have hsame : SameButFilters twoBoards (withStage "u") := rfl
  have hlists : (savedRequest (filterId 1)).ListsTasks "board" :=
    ⟨savedRequest_route _, .inl rfl, rfl⟩
  have hbuilt : buildFilter (withStage "u") Moment.first ((withStage "u").schema board) false
      stageFilter = .ok stageTree := by
    rw [hsame.buildFilter_eq, hsame.schema_eq]
    exact buildFilter_stageFilter
  have htaken : stageRequest.NameTaken .usual twoBoards board
      ↔ stageRequest.NameTaken .usual (withStage "u") board :=
    iff_of_false (stageRequest_nameFree twoBoards) (stageRequest_nameFree (withStage "u"))
  refine ⟨⟨hsame, rfl, stageRequest_listsTasks, hlists, stageRequest_sameButSources,
    stageRequest_carries, savedRequest_carries, htaken⟩, stageRequest_answered, ?_⟩
  exact carried_filter_lists hsame rfl stageRequest_listsTasks hlists
    stageRequest_sameButSources stageRequest_carries savedRequest_carries buildFilter_stageFilter
    hbuilt htaken

end

end BoardQuery
