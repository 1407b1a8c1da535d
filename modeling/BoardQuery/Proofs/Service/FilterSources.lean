import BoardQuery.Proofs.Filter.Rebuild
import BoardQuery.Proofs.Service.FilterFrame
import BoardQuery.Proofs.Service.FilterWrites

/-!
# Where the filter of a query comes from

A query states its filter as a document, or names a saved filter. What has been saved is the filter
as it was built, and it is built again, with stale conditions allowed, into the same filter
(`buildFilter_again`). So two queries that come to the same filter, and ask for the same otherwise,
are answered with the same listing, but for the saved filters that it tells of (`listTasks_source`).
-/

namespace BoardQuery

open FilterBuilder

/-! ## Building again -/

/-- What is adopted while stale conditions are issues is adopted also where they are kept. -/
theorem Adopted.of_strict {ctx ctx' : BuildContext} {column : String} {t t' : ColumnType}
    {o : Options} (h : Adopted ctx column t t' o) (hstrict : ctx.staleOk = false)
    (hlookup : ctx'.lookup = ctx.lookup) : Adopted ctx' column t t' o := by
  cases h with
  | unknown h => exact .unknown (hlookup ▸ h)
  | known h hfamily => exact .known (hlookup ▸ h) hfamily
  | stale _ _ hstale => exact absurd (hstrict.symm.trans hstale) Bool.false_ne_true

theorem Leaf.Stands.again {s : Store} {m : Moment} {schema : BoardSchema} {l : Leaf String Operand}
    (h : l.Stands (s.buildContext m schema false)) (now : Moment) (staleOk : Bool) :
    l.Stands (s.buildContext now schema staleOk) := by
  obtain ⟨o, hadopted, hallowed⟩ := h
  exact ⟨o, hadopted.of_strict rfl rfl, ⟨hallowed.choices, hallowed.users, hallowed.bounds⟩⟩

/-- What was built on a board is built again, at any moment, whether or not stale conditions are
allowed. -/
theorem buildFilter_again {s : Store} {m : Moment} {schema : BoardSchema} {raw : Json}
    {tree : BuiltFilter} (h : buildFilter s m schema false raw = .ok tree) (now : Moment)
    (staleOk : Bool) : buildFilter s now schema staleOk tree.toRaw.toDocument = .ok tree := by
  rw [buildFilter, mapError_eq_ok] at h ⊢
  obtain ⟨hsound, hstands⟩ := build_sound h
  obtain ⟨logic, members, rfl⟩ := build_eq_group h
  have hagain (l : Leaf String Operand) (hl : l ∈ Filter.membersLeaves members) :
      l.Stands (s.buildContext now schema staleOk) := (hstands l hl).again now staleOk
  exact (build_toDocument hsound fun l hl => (hagain l hl).keeps).2 ⟨rfl, hagain⟩

theorem Fields.has_of_get {fields : Fields} {name : String} (h : Fields.get fields name ≠ .null) :
    Fields.has fields name = true := by
  by_contra hmissing
  have hnone : fields.lookup name = none := by
    rw [List.lookup_eq_none_iff]
    intro f hf
    rw [bne_iff_ne]
    intro heq
    exact hmissing (List.any_eq_true.2 ⟨f, hf, beq_iff_eq.2 heq.symm⟩)
  exact h (by rw [Fields.get, hnone]; rfl)

theorem buildMembers_nil (ctx : BuildContext) (path : String) :
    buildMembers ctx path [] = .error (.issues [⟨path, .emptyGroup⟩]) := by
  simp [buildMembers]

/-- A document that states no filter is not built into one. -/
theorem statesFilter_of_build {ctx : BuildContext} {raw : Json} {tree : BuiltFilter}
    (h : build ctx raw = .ok tree) : statesFilter raw = true := by
  unfold build at h
  split at h
  · rename_i items
    cases items with
    | nil => exact absurd h (by simp [buildMembers_nil, Except.map])
    | cons => rfl
  · rename_i fields
    rw [statesFilter]
    split
    · rename_i hget
      -- There are no members, and no type by which the object could be a single condition.
      by_contra htype
      have hfilters : Fields.has fields "filters" = true :=
        Fields.has_of_get (by simp [hget])
      rw [if_pos (by simp [hfilters, htype]), hget, buildTop, buildMembers_nil, map_eq_ok] at h
      obtain ⟨p, hp, -⟩ := h
      exact absurd (alongside_eq_ok.1 hp).2 (by simp)
    · rfl
  · exact absurd h (by simp)

/-! ## Listings -/

section Listings

variable {c : Settings} {now now₁ now₂ : Moment} {s s₁ s₂ : Store} {b : Board} {userId : String}
  {q : TaskQuery} {tree : BuiltFilter}

/-- Whether a query comes to a filter, stated or saved, that could also be saved again. -/
def TaskQuery.ComesTo (q : TaskQuery) (now : Moment) (s : Store) (b : Board) (userId : String)
    (tree : BuiltFilter) : Prop :=
  ∃ raw applied, queryFilter s b.id userId q = .ok (raw, applied)
    ∧ buildFilter s now (s.schema b) applied.isSome raw = .ok tree
    ∧ buildFilter s now (s.schema b) false raw = .ok tree

/-- A query with another filter. -/
def TaskQuery.withFilter (q : TaskQuery) (filters : Json) (savedFilterId : Option String) :
    TaskQuery :=
  { q with filters, savedFilterId }

/-- A listing without the saved filters that it tells of. -/
def Listing.unsaved (l : Listing) : Listing :=
  { l with appliedFilter := none, savedFilter := none }

theorem SameButFilters.used (s : Store) (now : Moment) (applied : Option SavedFilter) :
    SameButFilters s (s.used now applied) := by
  rcases applied with _ | f
  · rfl
  · exact sameButFilters_recordUse

theorem builtQueryFilter_of_build {schema : BoardSchema} {raw : Json} {saved : Bool}
    (h : buildFilter s now schema saved raw = .ok tree) :
    builtQueryFilter s now schema raw saved = .ok (some tree) := by
  rw [builtQueryFilter, statesFilter_of_build (mapError_eq_ok.1 h), if_pos rfl, h]
  rfl

theorem hasNamed_used (now : Moment) (s : Store) (applied : Option SavedFilter)
    (owner boardId name : String) :
    (s.used now applied).hasNamed owner boardId name = s.hasNamed owner boardId name := by
  rcases applied with _ | f
  · rfl
  · have hkeeps := keepsName_noted now f.id
    rw [Store.used, Option.map_some, Option.getD_some, Store.recordUse_eq, Store.hasNamed,
      List.any_map, Store.hasNamed]
    refine congrArg (List.any s.filters) (funext fun g => ?_)
    simp only [Function.comp_apply, hkeeps.userId, hkeeps.boardId, hkeeps.name]

theorem saveFilter_source {schema : BoardSchema} {d₁ d₂ : FilterDraft} (hname : d₂.name = d₁.name)
    (hbuilt₁ : buildFilter s₁ now₁ schema false d₁.definition = .ok tree)
    (hbuilt₂ : buildFilter s₂ now₂ schema false d₂.definition = .ok tree)
    (htaken : ∀ name, filterName? d₁.name = some name →
      s₂.hasNamed userId schema.boardId name = s₁.hasNamed userId schema.boardId name) :
    (saveFilter now₂ s₂ schema userId d₂).map (fun _ => ())
      = (saveFilter now₁ s₁ schema userId d₁).map fun _ => () := by
  rw [saveFilter_eq, saveFilter_eq, hname]
  split
  · rfl
  · rename_i name hfound
    simp only [htaken name hfound, hbuilt₁, hbuilt₂, refuse_bind, ok_bind]
    split_ifs <;> rfl

theorem saveQueryFilter_source {schema : BoardSchema} {raw₁ raw₂ : Json}
    (filters : Json) (id : Option String)
    (hbuilt₁ : buildFilter s₁ now₁ schema false raw₁ = .ok tree)
    (hbuilt₂ : buildFilter s₂ now₂ schema false raw₂ = .ok tree)
    (htaken : q.saveFilter = true → ∀ name, filterName? (.ofOption q.filterName) = some name →
      s₂.hasNamed userId schema.boardId name = s₁.hasNamed userId schema.boardId name) :
    (saveQueryFilter now₂ s₂ schema userId (q.withFilter filters id) raw₂ (some tree)).map
        (fun _ => ())
      = (saveQueryFilter now₁ s₁ schema userId q raw₁ (some tree)).map fun _ => () := by
  by_cases hsave : q.saveFilter = true
  · have hsave₂ : (q.withFilter filters id).saveFilter = true := hsave
    simp only [saveQueryFilter, hsave, hsave₂]
    refine map_bind_congr ?_ fun _ _ _ _ => rfl
    exact saveFilter_source rfl hbuilt₁ hbuilt₂ (htaken hsave)
  · have hsave₂ : (q.withFilter filters id).saveFilter ≠ true := hsave
    simp [saveQueryFilter, hsave, hsave₂, Except.map, pure, Except.pure]

/-- Queries that come to the same filter, and ask for the same otherwise, have the same listing. If
the filter is to be saved, both must find its name given or both find it free. -/
theorem listTasks_source {filters : Json} {id : Option String} (hsame : SameButFilters s₁ s₂)
    (h₁ : q.ComesTo now₁ s₁ b userId tree)
    (h₂ : (q.withFilter filters id).ComesTo now₂ s₂ b userId tree)
    (htaken : q.saveFilter = true → ∀ name, filterName? (.ofOption q.filterName) = some name →
      s₂.hasNamed userId b.id name = s₁.hasNamed userId b.id name) :
    (listTasks c now₂ s₂ b userId (q.withFilter filters id)).map (·.2.unsaved)
      = (listTasks c now₁ s₁ b userId q).map (·.2.unsaved) := by
  obtain ⟨raw₁, applied₁, hraw₁, hbuilt₁, hagain₁⟩ := h₁
  obtain ⟨raw₂, applied₂, hraw₂, hbuilt₂, hagain₂⟩ := h₂
  have hschema := hsame.schema_eq b
  rw [hschema] at hbuilt₂ hagain₂
  have hused₁ := SameButFilters.used s₁ now₁ applied₁
  have hused₂ := SameButFilters.used s₂ now₂ applied₂
  have hsaved : (saveQueryFilter now₂ (s₂.used now₂ applied₂) (s₁.schema b) userId
        (q.withFilter filters id) raw₂ (some tree)).map (fun _ => ())
      = (saveQueryFilter now₁ (s₁.used now₁ applied₁) (s₁.schema b) userId q raw₁
        (some tree)).map fun _ => () := by
    refine saveQueryFilter_source filters id ?_ ?_ fun hsave name hname => ?_
    · rw [hused₁.buildFilter_eq]
      exact hagain₁
    · rw [hused₂.buildFilter_eq]
      exact hagain₂
    · rw [hasNamed_used, hasNamed_used]
      exact htaken hsave name hname
  unfold listTasks
  simp only [hschema, hraw₁, hraw₂, ok_bind, builtQueryFilter_of_build hbuilt₁,
    builtQueryFilter_of_build hbuilt₂, hsame.selectTasks_eq, hsame.page_eq]
  refine bind_map_congr fun chosen _ => bind_map_congr fun pager _ => bind_map_congr fun page _ =>
    map_bind_congr hsaved fun after₁ after₂ hsave₁ hsave₂ => ?_
  -- What is left to compare is the number of all tasks, counted after a filter may have been saved.
  have hsame₁ := hused₁.trans (saveQueryFilter_sameButFilters hsave₁)
  have hsame₂ := hused₂.trans (saveQueryFilter_sameButFilters hsave₂)
  have htotal := (hsame.trans hsame₂).selectTasks_eq (s₁.schema b) q.includeArchived none
  rw [← hsame₁.selectTasks_eq] at htotal
  simp only [Except.map, pure, Except.pure, TaskQuery.withFilter, Listing.unsaved, htotal]

end Listings

end BoardQuery
