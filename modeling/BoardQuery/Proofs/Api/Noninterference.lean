import BoardQuery.Proofs.Api.Runs
import BoardQuery.Proofs.Api.WorkspaceHandlers
import BoardQuery.Proofs.Sample

/-!
# Workspaces do not interfere

Two runs of requests to boards and tasks of one workspace, from stores that agree on the workspace,
are answered alike and end in stores that agree on it (`workspaces_do_not_interfere`).
-/

namespace BoardQuery

open Store (Agree Confined)

/-- A request that saves no filter is answered with the same in both stores. -/
theorem handle_same {c : Settings} {now : Moment} {s₁ s₂ : Store} {W : String} {r : Request}
    (h₁ : s₁.Separated) (h₂ : s₂.Separated) (hwithin : s₁.within W = s₂.within W)
    (hfilters : s₁.filtersWithin W = s₂.filtersWithin W) (haddresses : r.Addresses s₁ W)
    (hunsaved : (handle c now s₁ r).2.filtersWritten = s₁.filtersWritten) :
    (handle c now s₂ r).1 = (handle c now s₁ r).1 := by
  have hagree : Agree W [] s₁ s₂ := .of_same hwithin hfilters
  have halike : Answered.Alike W [] s₁ s₂ (handle c now s₁ r) (handle c now s₂ r) :=
    handle_alike hagree h₁ h₂ (.refl r) (haddresses.stays h₁)
      ((haddresses.agree hagree (.refl r)).stays h₂)
  have hreply := halike.reply
  rw [idsAfter_same hunsaved] at hreply
  exact hreply.eq

/-! ## Runs of requests -/

/-- A request as each of two runs is sent it, at one time. -/
structure Sent where
  now : Moment
  first : Request
  second : Request

/-- Two runs, and the ids that they have given to the same filters. -/
structure Twins where
  first : Store
  second : Store
  ids : List (String × String)

namespace Twins

variable {c : Settings} {W : String} {p : Twins} {r : Sent} {rs : List Sent}

def answer (c : Settings) (p : Twins) (r : Sent) : Twins where
  first := (handle c r.now p.first r.first).2
  second := (handle c r.now p.second r.second).2
  ids := idsAfter p.ids p.first p.second (handle c r.now p.first r.first).2

def serve (c : Settings) (p : Twins) (rs : List Sent) : Twins :=
  rs.foldl (answer c) p

theorem answer_eq (c : Settings) (p : Twins) (r : Sent) :
    p.answer c r = ⟨(handle c r.now p.first r.first).2, (handle c r.now p.second r.second).2,
      idsAfter p.ids p.first p.second (handle c r.now p.first r.first).2⟩ :=
  rfl

theorem serve_cons (c : Settings) (p : Twins) (r : Sent) (rs : List Sent) :
    p.serve c (r :: rs) = (p.answer c r).serve c rs :=
  List.foldl_cons ..

theorem serve_concat (c : Settings) (p : Twins) (rs : List Sent) (r : Sent) :
    p.serve c (rs ++ [r]) = (p.serve c rs).answer c r :=
  List.foldl_concat ..

theorem serve_first (c : Settings) : (rs : List Sent) → (p : Twins) →
    (p.serve c rs).first = BoardQuery.serve c p.first (rs.map fun r => (r.now, r.first))
  | [], _ => rfl
  | r :: rs, p => by
    rw [serve_cons, List.map_cons, BoardQuery.serve_cons, serve_first c rs, answer_eq]

theorem serve_second (c : Settings) : (rs : List Sent) → (p : Twins) →
    (p.serve c rs).second = BoardQuery.serve c p.second (rs.map fun r => (r.now, r.second))
  | [], _ => rfl
  | r :: rs, p => by
    rw [serve_cons, List.map_cons, BoardQuery.serve_cons, serve_second c rs, answer_eq]

/-- Whether each run is sent the same requests, and names filters by its own ids. -/
inductive Asked (c : Settings) : Twins → List Sent → Prop
  | nil (p : Twins) : Asked c p []
  | cons {p : Twins} {r : Sent} {rs : List Sent} (h : Request.Alike p.ids r.first r.second)
    (hrest : Asked c (p.answer c r) rs) : Asked c p (r :: rs)

/-- Whether the two stores keep workspaces apart and agree on one of them. -/
structure Apart (workspace : String) (p : Twins) : Prop where
  first : p.first.Separated
  second : p.second.Separated
  agree : Agree workspace p.ids p.first p.second

/-- Whether a request addresses nothing of another workspace in either store. -/
def Stays (workspace : String) (p : Twins) (r : Sent) : Prop :=
  r.first.Stays p.first workspace ∧ r.second.Stays p.second workspace

/-- Whether nothing of another workspace has changed in either store. -/
structure Confined (workspace : String) (p p' : Twins) : Prop where
  first : p.first.Confined workspace p'.first
  second : p.second.Confined workspace p'.second

theorem Asked.alike : (before : List Sent) → {p : Twins} → {after : List Sent} →
    p.Asked c (before ++ r :: after) → Request.Alike (p.serve c before).ids r.first r.second
  | [], _, _, .cons h _ => h
  | r₀ :: before, p, _, .cons _ hrest => by
    rw [serve_cons]
    exact Asked.alike before hrest

theorem Asked.of_append : (rs : List Sent) → {p : Twins} → {after : List Sent} →
    p.Asked c (rs ++ after) → p.Asked c rs
  | [], p, _, _ => .nil p
  | _ :: rs, _, _, .cons h hrest => .cons h (Asked.of_append rs hrest)

theorem Apart.answer (h : p.Apart W) (hr : Request.Alike p.ids r.first r.second)
    (hstays : p.Stays W r) : (p.answer c r).Apart W ∧ p.Confined W (p.answer c r)
      ∧ Reply.Alike (p.answer c r).ids (handle c r.now p.first r.first).1
        (handle c r.now p.second r.second).1 := by
  have halike : Answered.Alike W p.ids p.first p.second (handle c r.now p.first r.first)
      (handle c r.now p.second r.second) :=
    handle_alike h.agree h.first h.second hr hstays.1 hstays.2
  rw [answer_eq]
  refine ⟨⟨?_, ?_, ?_⟩, ⟨?_, ?_⟩, ?_⟩ <;> dsimp only
  · exact (handle_keeps h.first hstays.1).1
  · exact (handle_keeps h.second hstays.2).1
  · exact halike.store
  · exact (handle_keeps h.first hstays.1).2
  · exact (handle_keeps h.second hstays.2).2
  · exact halike.reply

theorem Stays.answer {r' : Sent} (h : p.Stays W r') (hconfined : p.Confined W (p.answer c r)) :
    (p.answer c r).Stays W r' := by
  refine ⟨h.1.after ?_ hconfined.first, h.2.after ?_ hconfined.second⟩ <;> rw [answer_eq] <;>
    dsimp only
  · exact (handle_effect c r.now p.first r.first).sameSchema
  · exact (handle_effect c r.now p.second r.second).sameSchema

theorem Stays.serve (h : p.Stays W r) (hconfined : p.Confined W (p.serve c rs)) :
    (p.serve c rs).Stays W r := by
  refine ⟨h.1.after ?_ hconfined.first, h.2.after ?_ hconfined.second⟩
  · rw [serve_first]
    exact serve_sameSchema ..
  · rw [serve_second]
    exact serve_sameSchema ..

theorem Apart.serve : (rs : List Sent) → {p : Twins} → p.Apart W → (∀ r ∈ rs, p.Stays W r) →
    p.Asked c rs → (p.serve c rs).Apart W ∧ p.Confined W (p.serve c rs)
  | [], p, h, _, _ => ⟨h, .refl W p.first, .refl W p.second⟩
  | r :: rs, p, h, hstays, .cons halike hlater => by
    obtain ⟨hstep, hconfined, -⟩ := h.answer halike (hstays r List.mem_cons_self)
    have hrest : ∀ r' ∈ rs, (p.answer c r).Stays W r' := fun r' hr' =>
      (hstays r' (List.mem_cons_of_mem r hr')).answer hconfined
    obtain ⟨hend, hconfined'⟩ := Apart.serve rs hstep hrest hlater
    rw [serve_cons]
    exact ⟨hend, hconfined.first.trans hconfined'.first,
      hconfined.second.trans hconfined'.second⟩

end Twins

/-- Take two stores that keep workspaces apart and agree on the users and on what belongs to one
workspace. However often both are sent a request to a board or a task of the workspace, their
answers are the same and the stores agree, up to the ids given to filters that have been saved since
then, and what belongs to other workspaces is left as it was. -/
theorem workspaces_do_not_interfere {c : Settings} {s₁ s₂ : Store} {W : String} {rs : List Sent}
    (h₁ : s₁.Separated) (h₂ : s₂.Separated) (hwithin : s₁.within W = s₂.within W)
    (hfilters : s₁.filtersWithin W = s₂.filtersWithin W)
    (haddresses : ∀ r ∈ rs, r.first.Addresses s₁ W) (hasked : Twins.Asked c ⟨s₁, s₂, []⟩ rs) :
    (Agree W (Twins.serve c ⟨s₁, s₂, []⟩ rs).ids
        (serve c s₁ (rs.map fun r => (r.now, r.first)))
        (serve c s₂ (rs.map fun r => (r.now, r.second)))
      ∧ s₁.Confined W (serve c s₁ (rs.map fun r => (r.now, r.first)))
      ∧ s₂.Confined W (serve c s₂ (rs.map fun r => (r.now, r.second))))
    ∧ ∀ before r after, rs = before ++ r :: after →
        Reply.Alike (Twins.serve c ⟨s₁, s₂, []⟩ (before ++ [r])).ids
          (handle c r.now (serve c s₁ (before.map fun r => (r.now, r.first))) r.first).1
          (handle c r.now (serve c s₂ (before.map fun r => (r.now, r.second))) r.second).1 := by
  have hagree : Agree W [] s₁ s₂ := .of_same hwithin hfilters
  have hstart : Twins.Apart W ⟨s₁, s₂, []⟩ := ⟨h₁, h₂, hagree⟩
  have hstays : ∀ r ∈ rs, Twins.Stays W ⟨s₁, s₂, []⟩ r := by
    intro r hr
    obtain ⟨before, after, rfl⟩ := List.append_of_mem hr
    have halike := hasked.alike before
    exact ⟨(haddresses r hr).stays h₁, ((haddresses r hr).agree hagree halike).stays h₂⟩
  refine ⟨?_, fun before r after heq => ?_⟩
  · obtain ⟨hend, hconfined⟩ := Twins.Apart.serve rs hstart hstays hasked
    rw [← Twins.serve_first c rs ⟨s₁, s₂, []⟩, ← Twins.serve_second c rs ⟨s₁, s₂, []⟩]
    exact ⟨hend.agree, hconfined.first, hconfined.second⟩
  · subst heq
    have hbefore : ∀ r ∈ before, Twins.Stays W ⟨s₁, s₂, []⟩ r := fun r hr =>
      hstays r (List.mem_append_left _ hr)
    obtain ⟨hend, hconfined⟩ := Twins.Apart.serve before hstart hbefore (hasked.of_append before)
    have hr : r ∈ before ++ r :: after := List.mem_append_right _ List.mem_cons_self
    obtain ⟨-, -, hreply⟩ := hend.answer (hasked.alike before) ((hstays r hr).serve hconfined)
    rw [Twins.serve_concat, ← Twins.serve_first c before ⟨s₁, s₂, []⟩,
      ← Twins.serve_second c before ⟨s₁, s₂, []⟩]
    exact hreply

/-! ## A filter that is saved in both -/

namespace Sample

open FilterBuilder

/-- The two boards next to a board of another workspace, which has a saved filter. -/
def twoWorkspaces : Store :=
  { twoBoards with
    boards := twoBoards.boards ++ [⟨"far", "elsewhere", "Far"⟩]
    tasks := twoBoards.tasks ++ [{ task "x" with boardId := "far", workspaceId := "elsewhere" }]
    filters := [⟨filterId 1, "u", "far", "Mine", none, .arr [], true, false, 0, none,
      Moment.first⟩]
    filtersWritten := 1 }

def stageFilter : Json :=
  .arr [.obj [("column", .str "stage"), ("column_type", .str "status"),
    ("operator", .str "equals"), ("value", .str "review")]]

def stageTree : BuiltFilter :=
  .group .all [.leaf ⟨"stage", .status, .equals, .text "review", .all⟩]

def saveRequest : Request where
  method := "POST"
  path := "/api/boards/board/saved-filters"
  authorization := some "Bearer token"
  query := []
  body := .document (.obj [("name", .str "Mine"), ("filters", stageFilter)])

/-- The request to list the tasks that a saved filter selects. -/
def savedRequest (id : String) : Request where
  method := "GET"
  path := "/api/boards/board/tasks/filter"
  authorization := some "Bearer token"
  query := [("saved_filter_id", id)]
  body := .absent

/-- A filter is saved and then used. It is the first of the one store, and the second of the
other. -/
def saveThenList : List Sent :=
  [⟨Moment.first, saveRequest, saveRequest⟩,
    ⟨Moment.first, savedRequest (filterId 1), savedRequest (filterId 2)⟩]

theorem schema_twoBoards : twoBoards.schema board =
    ⟨"board", "workspace", [column "stage" .status [("options", .arr [.str "review"])]]⟩ := by
  have hcolumns : twoBoards.columns.filter (·.boardId == board.id)
      = [column "stage" .status [("options", .arr [.str "review"])]] := rfl
  simp only [Store.schema, Store.columnsOf, hcolumns, List.mergeSort_singleton]
  rfl

theorem authorize_twoBoards : ∃ u, authorize twoBoards saveRequest board = .ok u :=
  exists_eq_ok (by decide +kernel)

theorem buildFilter_stageFilter :
    buildFilter twoBoards Moment.first (twoBoards.schema board) false stageFilter
      = .ok stageTree := by
  rw [schema_twoBoards]
  simp only [buildFilter, stageFilter, build, buildMembers, buildItems, buildNode]
  rfl

/-- What `saveRequest` states of the filter. -/
def stageDraft : FilterDraft := ⟨.str "Mine", stageFilter, .null, false, false⟩

/-- The two boards after a user has saved the filter of the stage. -/
def withStage (userId : String) : Store :=
  twoBoards.saved (stageDraft.named Moment.first (twoBoards.schema board) userId "Mine"
    (filterId 1) stageTree) false

theorem saveFilter_stageDraft (userId : String) :
    saveFilter Moment.first twoBoards (twoBoards.schema board) userId stageDraft
      = .ok (withStage userId, filterId 1) := by
  have hname : filterName? (.str "Mine") = some "Mine" := by decide +kernel
  rw [saveFilter_eq]
  simp only [stageDraft, hname, buildFilter_stageFilter]
  rfl

theorem saveRequest_saves :
    (handle .usual Moment.first twoBoards saveRequest).2.filtersWritten = 1 := by
  obtain ⟨u, hu⟩ := authorize_twoBoards
  have hsaved : handleSaveFilter Moment.first twoBoards saveRequest board u
      = .ok (.json 201 [("data", (withStage u.id).filterJson u.id (some (filterId 1)))],
        withStage u.id) := by
    show (orReply 400 (saveFilter Moment.first twoBoards (twoBoards.schema board) u.id
      stageDraft) >>= _) = _
    rw [saveFilter_stageDraft]
    rfl
  have hroute : Route.ofSegments? saveRequest.segments = some (.savedFilters "board") := by
    decide +kernel
  have hanswer : handleRoute .usual Moment.first twoBoards saveRequest (.savedFilters "board")
      = .ok (.json 201 [("data", (withStage u.id).filterJson u.id (some (filterId 1)))],
        withStage u.id) := by
    have hboard : boardOrReply twoBoards "board" = .ok board := rfl
    rw [handleRoute, onBoard, hboard, ok_bind, hu]
    exact hsaved
  have haccepts : (Route.savedFilters "board").accepts saveRequest.method = true := rfl
  unfold handle
  rw [hroute]
  dsimp only
  rw [haccepts, hanswer]
  rfl

theorem savedRequest_route (id : String) :
    Route.ofSegments? (savedRequest id).segments = some (.taskList "board") := by
  have hsegments : (savedRequest id).segments = ["api", "boards", "board", "tasks", "filter"] := by
    show (((PercentCoding.decode "/api/boards/board/tasks/filter").toList.dropWhile
      (· == '/')).splitOn '/').map String.ofList = _
    decide +kernel
  rw [hsegments]
  decide

theorem savedRequest_alike {x y : String} :
    Request.Alike [(x, y)] (savedRequest x) (savedRequest y) where
  method := rfl
  authorization := rfl
  limited := rfl
  route := by
    rw [savedRequest_route, savedRequest_route]
    rfl
  field _ _ := rfl
  parameter name hname := by
    have hnone (id : String) : Fields.get (savedRequest id).parameters name = .null := by
      show ([("saved_filter_id", Json.str id)].lookup name).getD .null = .null
      rw [List.lookup_cons, beq_false_of_ne hname]
      rfl
    rw [hnone, hnone]
  stated := by
    show Json.str y = .str (counterpart [(x, y)] x)
    simp [counterpart]
  known id hid := by
    rcases hid with ⟨route, hroute, hfilter⟩ | hid
    · rw [savedRequest_route] at hroute
      obtain rfl := Option.some.inj hroute
      exact absurd hfilter (by simp [Route.filter?])
    · obtain rfl : x = id := Json.str.inj hid
      exact .inl (List.mem_singleton_self _)

theorem saveThenList_asked : Twins.Asked .usual ⟨twoBoards, twoWorkspaces, []⟩ saveThenList := by
  have hids : idsAfter [] twoBoards twoWorkspaces
      (handle .usual Moment.first twoBoards saveRequest).2 = [(filterId 1, filterId 2)] :=
    idsAfter_saved saveRequest_saves
  refine .cons (.refl saveRequest) (.cons ?_ (.nil _))
  rw [Twins.answer_eq]
  dsimp only
  rw [hids]
  exact savedRequest_alike

theorem saveThenList_addresses : ∀ r ∈ saveThenList, r.first.Addresses twoBoards "workspace" := by
  intro r hr
  rcases List.mem_cons.1 hr with rfl | hr
  · exact ⟨.savedFilters "board", by decide +kernel, by decide⟩
  · obtain rfl := List.mem_singleton.1 hr
    exact ⟨.taskList "board", savedRequest_route _, by decide⟩

theorem twoBoards_separated : twoBoards.Separated where
  boardIds := by decide
  columnIds := by decide
  taskIds := by decide
  filterIds := by decide
  unwritten _ h := absurd h List.not_mem_nil
  placed := by decide
  valued := by decide

theorem twoWorkspaces_separated : twoWorkspaces.Separated where
  boardIds := by decide
  columnIds := by decide
  taskIds := by decide
  filterIds := by decide
  unwritten f hf n hn heq := by
    obtain rfl := List.mem_singleton.1 hf
    exact absurd (filterId_inj.1 heq) (Nat.ne_of_lt hn)
  placed := by decide
  valued := by decide

end Sample

section

open Sample

theorem workspaces_do_not_interfere_saved_filter :
    (twoBoards.Separated ∧ twoWorkspaces.Separated
      ∧ twoBoards.within "workspace" = twoWorkspaces.within "workspace"
      ∧ twoBoards.filtersWithin "workspace" = twoWorkspaces.filtersWithin "workspace"
      ∧ (∀ r ∈ saveThenList, r.first.Addresses twoBoards "workspace")
      ∧ Twins.Asked .usual ⟨twoBoards, twoWorkspaces, []⟩ saveThenList)
    ∧ Agree "workspace" (Twins.serve .usual ⟨twoBoards, twoWorkspaces, []⟩ saveThenList).ids
        (serve .usual twoBoards (saveThenList.map fun r => (r.now, r.first)))
        (serve .usual twoWorkspaces (saveThenList.map fun r => (r.now, r.second)))
    ∧ twoWorkspaces.Confined "workspace"
        (serve .usual twoWorkspaces (saveThenList.map fun r => (r.now, r.second))) := by
  have hwithin : twoBoards.within "workspace" = twoWorkspaces.within "workspace" := rfl
  have hfilters : twoBoards.filtersWithin "workspace" = twoWorkspaces.filtersWithin "workspace" :=
    rfl
  obtain ⟨⟨hagree, -, hconfined⟩, -⟩ := workspaces_do_not_interfere twoBoards_separated
    twoWorkspaces_separated hwithin hfilters saveThenList_addresses saveThenList_asked
  exact ⟨⟨twoBoards_separated, twoWorkspaces_separated, hwithin, hfilters, saveThenList_addresses,
    saveThenList_asked⟩, hagree, hconfined⟩

end

end BoardQuery
