import BoardQuery.Proofs.Api.WorkspaceReplies

/-!
# Requests in two runs

Two runs are sent the same requests, but a request that names a saved filter names it in each run by
its id there (`Request.Alike`). So both state the same query (`ofParameters_counterpart`).
-/

namespace BoardQuery

/-- A value that may be the id of a filter, as the other run is sent it. -/
def Json.counterpart (ids : List (String × String)) : Json → Json
  | .str id => .str (BoardQuery.counterpart ids id)
  | v => v

namespace Route

/-- The saved filter that a route addresses. -/
def filter? : Route → Option String
  | .defaultFilter _ id => some id
  | .savedFilter _ id => some id
  | _ => none

/-- A route as the other run is asked for it. -/
def counterpart (ids : List (String × String)) : Route → Route
  | .defaultFilter board id => .defaultFilter board (BoardQuery.counterpart ids id)
  | .savedFilter board id => .savedFilter board (BoardQuery.counterpart ids id)
  | r => r

/-- Whether a route addresses a board or a task of a workspace. -/
def addresses (s : Store) (workspace : String) : Route → Bool
  | .columnTypes | .columnType _ => false
  | .taskList board | .filterColumns board | .filterCheck board | .savedFilters board
  | .defaultFilter board _ | .savedFilter board _ | .bulk board => s.hasBoard workspace board
  | .fieldValues task | .fieldValue task _ => s.hasTask workspace task

/-- Whether a route addresses a board of a workspace, or a task that no other workspace has. -/
def Stays (s : Store) (workspace : String) : Route → Prop
  | .columnTypes | .columnType _ => False
  | .taskList board | .filterColumns board | .filterCheck board | .savedFilters board
  | .defaultFilter board _ | .savedFilter board _ | .bulk board => s.hasBoard workspace board = true
  | .fieldValues task | .fieldValue task _ =>
    ∀ t ∈ s.tasks, t.id = task → t.workspaceId = workspace

section

variable {s s' s₁ s₂ : Store} {W : String} {ids : List (String × String)} {route : Route}

theorem stays_of_addresses (hs : s.Separated) (h : route.addresses s W = true) :
    route.Stays s W := by
  have htask {id : String} (h : s.hasTask W id = true) :
      ∀ t ∈ s.tasks, t.id = id → t.workspaceId = W := by
    obtain ⟨u, hu, rfl, rfl⟩ := Store.hasTask_eq_true.1 h
    intro t ht hid
    rw [List.inj_on_of_nodup_map hs.taskIds ht hu hid]
  cases route with
  | columnTypes | columnType => exact absurd h (by simp [addresses])
  | fieldValues | fieldValue => exact htask h
  | taskList | filterColumns | filterCheck | savedFilters | defaultFilter | savedFilter | bulk =>
    exact h

/-- What is of no other workspace stays so while all others are left as they are. -/
theorem Stays.after (h : route.Stays s W) (hschema : s.SameSchema s') (hs' : s.Confined W s') :
    route.Stays s' W := by
  have hboard {id : String} (h : s.hasBoard W id = true) : s'.hasBoard W id = true := by
    rw [hschema.hasBoard_eq, h]
  have htask {id : String} (h : ∀ t ∈ s.tasks, t.id = id → t.workspaceId = W) :
      ∀ t ∈ s'.tasks, t.id = id → t.workspaceId = W := by
    intro t ht hid
    by_contra hW
    have hmem : t ∈ (s'.within t.workspaceId).tasks := List.mem_filter.2 ⟨ht, beq_self_eq_true _⟩
    rw [hs'.within _ hW] at hmem
    exact hW (h t (List.mem_of_mem_filter hmem) hid)
  cases route with
  | columnTypes | columnType => exact h
  | fieldValues | fieldValue => exact htask h
  | taskList | filterColumns | filterCheck | savedFilters | defaultFilter | savedFilter | bulk =>
    exact hboard h

theorem addresses_agree (h : Store.Agree W ids s₁ s₂) (earlier : List (String × String)) :
    (route.counterpart earlier).addresses s₂ W = route.addresses s₁ W := by
  cases route <;> simp only [counterpart, addresses, h.hasBoard_eq, h.hasTask_eq]

end

end Route

/-- Whether a request names a saved filter. -/
def Request.Names (r : Request) (id : String) : Prop :=
  (∃ route, Route.ofSegments? r.segments = some route ∧ route.filter? = some id)
    ∨ Fields.get r.parameters "saved_filter_id" = .str id

/-- Whether two requests are the same, but for the id of the saved filter that they name. -/
structure Request.Alike (ids : List (String × String)) (r₁ r₂ : Request) : Prop where
  method : r₂.method = r₁.method
  authorization : r₂.authorization = r₁.authorization
  limited : r₂.limited = r₁.limited
  route : Route.ofSegments? r₂.segments
    = (Route.ofSegments? r₁.segments).map (Route.counterpart ids)
  field : ∀ name ≠ "saved_filter_id", r₂.field name = r₁.field name
  parameter : ∀ name ≠ "saved_filter_id",
    Fields.get r₂.parameters name = Fields.get r₁.parameters name
  stated : Fields.get r₂.parameters "saved_filter_id"
    = (Fields.get r₁.parameters "saved_filter_id").counterpart ids
  known : ∀ id, r₁.Names id → Known ids id

/-- The same request may be sent to both, unless it names a filter by an id that has been given. -/
theorem Request.Alike.same {ids : List (String × String)} {r : Request}
    (h : ∀ id, r.Names id → id ∉ ids.map (·.1) ∧ id ∉ ids.map (·.2)) :
    Request.Alike ids r r := by
  refine ⟨rfl, rfl, rfl, ?_, fun _ _ => rfl, fun _ _ => rfl, ?_,
    fun id hid => .inr (h id hid).2⟩
  · rcases hroute : Route.ofSegments? r.segments with _ | route
    · rfl
    · refine congrArg some ?_
      have hfree : ∀ id, route.filter? = some id → counterpart ids id = id := fun id hid =>
        counterpart_of_not_mem (h id (.inl ⟨route, hroute, hid⟩)).1
      cases route with
      | defaultFilter board id => rw [Route.counterpart, hfree id rfl]
      | savedFilter board id => rw [Route.counterpart, hfree id rfl]
      | _ => rfl
  · rcases hstated : Fields.get r.parameters "saved_filter_id" with _ | _ | _ | _ | id | _ | _
    case str => rw [Json.counterpart, counterpart_of_not_mem (h id (.inr hstated)).1]
    all_goals rfl

/-- Before an id has been given, the same request may be sent to both. -/
theorem Request.Alike.refl (r : Request) : Request.Alike [] r r :=
  .same fun _ _ => ⟨List.not_mem_nil, List.not_mem_nil⟩

/-- The parameters that may state a filter. -/
def filterSources : List String := ["filters", "filters_json", "saved_filter_id"]

section Parameters

variable {ids : List (String × String)} {ps₁ ps₂ : Fields}

theorem readFilterId_counterpart
    (hget : ∀ name ≠ "saved_filter_id", Fields.get ps₂ name = Fields.get ps₁ name)
    (hstated : TaskQuery.statedFilterId ps₂ = (TaskQuery.statedFilterId ps₁).counterpart ids) :
    TaskQuery.readFilterId ps₂
      = Option.map (counterpart ids) <$> TaskQuery.readFilterId ps₁ := by
  unfold TaskQuery.readFilterId
  rw [hstated, hget _ (by decide), hget _ (by decide)]
  rcases TaskQuery.statedFilterId ps₁ with _ | _ | _ | _ | id | _ | _
  case str =>
    simp only [Json.counterpart]
    split_ifs <;> rfl
  all_goals rfl

/-- The query of parameters is that of others, but for its filter. -/
theorem ofParameters_map {l : TaskQuery.Limits} {f : Json → Json}
    {g : Option String → Option String}
    (hget : ∀ name ∉ filterSources, Fields.get ps₂ name = Fields.get ps₁ name)
    (hfilters : TaskQuery.readFilters l ps₂ = (TaskQuery.readFilters l ps₁).map (f <$> ·))
    (hid : TaskQuery.readFilterId ps₂ = g <$> TaskQuery.readFilterId ps₁) :
    TaskQuery.ofParameters l ps₂ = (TaskQuery.ofParameters l ps₁).map
      ((fun q => { q with filters := f q.filters, savedFilterId := g q.savedFilterId }) <$> ·) := by
  simp only [TaskQuery.ofParameters, hfilters, hid, TaskQuery.readCount, TaskQuery.readName,
    TaskQuery.readFlag, TaskQuery.readDirection, TaskQuery.readInclusions,
    TaskQuery.readFilterName, hget "per_page" (by decide), hget "page" (by decide),
    hget "cursor" (by decide), hget "sort_by" (by decide), hget "sort_order" (by decide),
    hget "include" (by decide), hget "include[]" (by decide), hget "include_archived" (by decide),
    hget "save_filter" (by decide), hget "filter_name" (by decide), hget "is_public" (by decide)]
  refine map_bind_eq_map_bind fun filters _ => bind_eq_map_bind fun perPage _ =>
    bind_eq_map_bind fun page _ => congrArg Except.ok ?_
  simp only [Validated.map_seq]
  cases filters <;> cases TaskQuery.readFilterId ps₁ <;> rfl

theorem ofParameters_counterpart (l : TaskQuery.Limits)
    (hget : ∀ name ≠ "saved_filter_id", Fields.get ps₂ name = Fields.get ps₁ name)
    (hstated : TaskQuery.statedFilterId ps₂ = (TaskQuery.statedFilterId ps₁).counterpart ids) :
    TaskQuery.ofParameters l ps₂
      = (TaskQuery.ofParameters l ps₁).map (TaskQuery.counterpart ids <$> ·) := by
  have hnull : (TaskQuery.statedFilterId ps₂).isNull = (TaskQuery.statedFilterId ps₁).isNull := by
    rw [hstated]
    cases TaskQuery.statedFilterId ps₁ <;> rfl
  have hfilters : TaskQuery.readFilters l ps₂ = (TaskQuery.readFilters l ps₁).map (id <$> ·) := by
    have hsame : TaskQuery.readFilters l ps₂ = TaskQuery.readFilters l ps₁ := by
      simp only [TaskQuery.readFilters, hnull, hget "filters" (by decide),
        hget "filters_json" (by decide)]
    rw [hsame]
    rcases TaskQuery.readFilters l ps₁ with _ | _ | _ <;> rfl
  refine ofParameters_map (fun name hname => hget name ?_) hfilters
    (readFilterId_counterpart hget hstated)
  rintro rfl
  exact hname (by decide)

/-- The saved filter, the cursor and the counts of a query are what its parameters are read as. -/
theorem parts_of_ofParameters {l : TaskQuery.Limits} {ps : Fields} {q : TaskQuery}
    (h : TaskQuery.ofParameters l ps = .ok (.valid q)) :
    TaskQuery.readFilterId ps = .valid q.savedFilterId
      ∧ TaskQuery.readName ps "cursor" (fun _ => true) .cursorNotText = .valid q.cursor
      ∧ TaskQuery.readCount ps "per_page" (some l.perPage) = .ok (.valid q.perPage)
      ∧ ∃ page, TaskQuery.readCount ps "page" none = .ok (.valid page) ∧ page.getD 1 = q.page := by
  simp only [TaskQuery.ofParameters, bind_eq_ok, pure_eq_ok, Validated.seq_eq_valid,
    Validated.map_eq_valid] at h
  obtain ⟨filters, -, perPage, hperPage, page, hpage, _, _, ⟨_, _, ⟨_, _, ⟨_, _, ⟨_, _, ⟨_, _,
    ⟨_, _, ⟨_, _, ⟨_, _, ⟨_, _, ⟨_, _, ⟨_, -, rfl⟩, hnamed, rfl⟩, rfl, rfl⟩, ⟨page, rfl, rfl⟩, rfl⟩,
    hcursor, rfl⟩, -, rfl⟩, -, rfl⟩, -, rfl⟩, -, rfl⟩, -, rfl⟩, -, rfl⟩, -, rfl⟩ := h
  exact ⟨hnamed, hcursor, hperPage, page, hpage, rfl⟩

theorem savedFilterId_of_ofParameters {l : TaskQuery.Limits} {ps : Fields} {q : TaskQuery}
    (h : TaskQuery.ofParameters l ps = .ok (.valid q)) :
    q.savedFilterId = (TaskQuery.statedFilterId ps).str? := by
  have hnamed := (parts_of_ofParameters h).1
  unfold TaskQuery.readFilterId at hnamed
  split at hnamed
  · rename_i hstated
    rw [hstated, ← Validated.valid.inj hnamed]
    rfl
  · rename_i id hstated
    dsimp only at hnamed
    split_ifs at hnamed
    · exact absurd hnamed (by simp [TaskQuery.reject])
    · rw [hstated, ← Validated.valid.inj hnamed]
      rfl
  · exact absurd hnamed (by simp [TaskQuery.reject])

/-- The saved filter of a query is the one that the parameters state. -/
theorem stated_of_ofParameters {l : TaskQuery.Limits} {ps : Fields} {q : TaskQuery}
    (h : TaskQuery.ofParameters l ps = .ok (.valid q)) :
    ∀ id ∈ q.savedFilterId, Fields.get ps "saved_filter_id" = .str id := by
  intro id hid
  rw [savedFilterId_of_ofParameters h] at hid
  have hstated : TaskQuery.statedFilterId ps = .str id := by
    cases hv : TaskQuery.statedFilterId ps <;> simp_all [Json.str?]
  unfold TaskQuery.statedFilterId Json.orElse at hstated
  split_ifs at hstated
  exact hstated

end Parameters

end BoardQuery
