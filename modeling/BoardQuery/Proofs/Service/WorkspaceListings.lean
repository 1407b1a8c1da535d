import BoardQuery.Proofs.Service.WorkspaceFilters
import Mathlib.Data.List.Find

/-!
# Operations on filters within a workspace

In two stores that agree on a workspace, a listing and every operation on saved filters of its
boards come to the same, but for the ids of filters (`saveFilter_alike`, `chooseDefault_alike`,
`deleteFilter_alike`, `listTasks_alike`).
-/

namespace BoardQuery

/-- Whether an operation comes to the same in two runs: it is refused for the same reason, or not
found under ids that stand for each other, or it is done in both. -/
inductive Outcome.Alike (ids : List (String × String)) {α β : Type} (R : α → β → Prop) :
    Outcome α → Outcome β → Prop
  | refused (e : Refusal) : Alike ids R (.error e) (.error e)
  | notFound (id : String) :
    Alike ids R (refuse (.filterNotFound id)) (refuse (.filterNotFound (counterpart ids id)))
  | done {a : α} {b : β} (h : R a b) : Alike ids R (.ok a) (.ok b)

section Alike

variable {ids : List (String × String)} {α β γ δ : Type} {R : α → β → Prop} {S : γ → δ → Prop}

theorem Outcome.Alike.bind {x : Outcome α} {y : Outcome β} {f : α → Outcome γ} {g : β → Outcome δ}
    (h : Outcome.Alike ids R x y)
    (hrest : ∀ a b, x = .ok a → y = .ok b → R a b → Outcome.Alike ids S (f a) (g b)) :
    Outcome.Alike ids S (x >>= f) (y >>= g) := by
  cases h with
  | refused e => exact .refused e
  | notFound id => exact .notFound id
  | done h => exact hrest _ _ rfl rfl h

theorem Outcome.Alike.map {x : Outcome α} {y : Outcome β} {f : α → γ} {g : β → δ}
    (h : Outcome.Alike ids R x y) (hmap : ∀ a b, R a b → S (f a) (g b)) :
    Outcome.Alike ids S (x.map f) (y.map g) := by
  cases h with
  | refused e => exact .refused e
  | notFound id => exact .notFound id
  | done h => exact .done (hmap _ _ h)

theorem Outcome.Alike.bind_same {x : Outcome α} {f : α → Outcome γ} {g : α → Outcome δ}
    (hrest : ∀ a, x = .ok a → Outcome.Alike ids S (f a) (g a)) :
    Outcome.Alike ids S (x >>= f) (x >>= g) := by
  rcases x with e | a
  · exact .refused e
  · exact hrest a rfl

end Alike

/-! ## Pages -/

section Pages

variable {o : TaskOrder} {s s₁ s₂ : Store} {W : String} {tasks : List Task} {t : Task}

theorem cell_within (h : s.hasTask W t.id = true) : o.cell (s.within W) t = o.cell s t := by
  unfold TaskOrder.cell
  split
  · rfl
  · rw [Store.value?_within h]

theorem cursorAfter_within (h : s.hasTask W t.id = true) :
    o.cursorAfter (s.within W) t = o.cursorAfter s t := by
  simp only [TaskOrder.cursorAfter, TaskOrder.cursorValue, cell_within h]

theorem sortRows_within (h : ∀ t ∈ tasks, s.hasTask W t.id = true) :
    o.sortRows (s.within W) tasks = o.sortRows s tasks := by
  refine congrArg (List.mergeSort · _) (List.map_congr_left fun t ht => ?_)
  simp only [TaskOrder.rowKey, cell_within (h t ht)]

theorem mem_of_rows {rows : List (Task × RowKey)} (h : rows ⊆ o.sortRows s tasks) :
    ∀ t ∈ rows.map (·.1), t ∈ tasks := by
  intro t ht
  obtain ⟨r, hr, rfl⟩ := List.mem_map.1 ht
  have hrow := h hr
  rw [TaskOrder.sortRows, List.mem_mergeSort] at hrow
  obtain ⟨t, hmem, rfl⟩ := List.mem_map.1 hrow
  exact hmem

theorem mem_of_page {pager : Pager} {p : Page} (h : o.page s tasks pager = .ok p) :
    ∀ t ∈ p.items, t ∈ tasks := by
  unfold TaskOrder.page at h
  split at h
  · simp only [TaskOrder.numberedPage, ite_error_eq_ok] at h
    obtain ⟨-, h⟩ := h
    obtain rfl := Except.ok.inj h
    exact mem_of_rows fun r hr => List.mem_of_mem_drop (List.mem_of_mem_take hr)
  · simp only [bind_eq_ok, pure_eq_ok] at h
    obtain ⟨cursor, -, bound, -, rfl⟩ := h
    exact mem_of_rows fun r hr => List.mem_of_mem_filter (List.mem_of_mem_take hr)
  · exact absurd h (by simp)

theorem nextCursor_within {items : List Task} (h : ∀ t ∈ items, s.hasTask W t.id = true)
    (hasMore : Bool) : o.nextCursor (s.within W) items hasMore = o.nextCursor s items hasMore := by
  unfold TaskOrder.nextCursor
  split_ifs
  · refine Option.map_congr fun t ht => ?_
    exact cursorAfter_within (h t (List.mem_of_getLast? ht))
  · rfl

theorem page_within (h : ∀ t ∈ tasks, s.hasTask W t.id = true) (pager : Pager) :
    o.page (s.within W) tasks pager = o.page s tasks pager := by
  have hcursor {rows : List (Task × RowKey)} (hrows : rows ⊆ o.sortRows s tasks) (hasMore : Bool) :
      o.nextCursor (s.within W) (rows.map (·.1)) hasMore
        = o.nextCursor s (rows.map (·.1)) hasMore :=
    nextCursor_within (fun t ht => h t (mem_of_rows hrows t ht)) hasMore
  unfold TaskOrder.page
  split
  · simp only [TaskOrder.numberedPage, sortRows_within h]
    rw [hcursor fun r hr => List.mem_of_mem_drop (List.mem_of_mem_take hr)]
  · simp only [TaskOrder.pageAfter, sortRows_within h]
    refine congrArg _ (funext fun cursor => congrArg _ (funext fun bound => ?_))
    rw [hcursor fun r hr => List.mem_of_mem_filter (List.mem_of_mem_take hr)]
  · rfl

end Pages

/-! ## Two runs -/

section Runs

variable {now : Moment} {s s₁ s₂ s' : Store} {W userId : String} {ids : List (String × String)}
  {schema : BoardSchema} {boardId : String}

open Store (Agree Confined)

theorem buildFilter_agree (h : Agree W ids s₁ s₂) (now : Moment) (schema : BoardSchema)
    (stale : Bool) (raw : Json) :
    buildFilter s₂ now schema stale raw = buildFilter s₁ now schema stale raw := by
  rw [buildFilter, buildFilter, Store.buildContext, Store.buildContext, h.surroundings_eq]

/-- A filter that may be used on a board is one of those of the workspace of the board. -/
theorem filter?_within (hs : s.Separated) (hboard : s.hasBoard W boardId = true) (id : String) :
    (s.filter? id).filter (fun f => f.boardId == boardId && f.accessibleBy userId)
      = ((s.filtersWithin W).find? (·.id == id)).filter
        fun f => f.boardId == boardId && f.accessibleBy userId := by
  rw [Store.filtersWithin, find?_filter_key SavedFilter.id hs.filterIds, Option.filter_filter]
  refine congrArg (Option.filter · (s.filter? id)) (funext fun f => ?_)
  by_cases hf : f.boardId = boardId
  · simp [hf, hboard]
  · simp [hf]

theorem find?_counterpart (h : Agree W ids s₁ s₂) {id : String} (hid : Known ids id) :
    (s₂.filtersWithin W).find? (·.id == counterpart ids id)
      = ((s₁.filtersWithin W).find? (·.id == id)).map (SavedFilter.counterpart ids) := by
  rw [h.filters, List.find?_map]
  exact congrArg _ (List.find?_congr fun f hf => h.beq_eq hf hid)

theorem usableFilter_alike (h : Agree W ids s₁ s₂) (h₁ : s₁.Separated) (h₂ : s₂.Separated)
    (hboard : s₁.hasBoard W boardId = true) {id : String} (hid : Known ids id) :
    Outcome.Alike ids
      (fun f g => f ∈ s₁.filtersWithin W ∧ f.id = id ∧ g = f.counterpart ids)
      (usableFilter s₁ id boardId userId)
      (usableFilter s₂ (counterpart ids id) boardId userId) := by
  unfold usableFilter
  rw [filter?_within h₁ hboard, filter?_within h₂ (h.hasBoard hboard), find?_counterpart h hid]
  rcases hfind : (s₁.filtersWithin W).find? (·.id == id) with _ | f <;> rw [hfind]
  · exact .notFound id
  · have hf : f ∈ s₁.filtersWithin W ∧ f.id = id :=
      ⟨List.mem_of_find?_eq_some hfind, by simpa using List.find?_some hfind⟩
    have hsame : ((f.counterpart ids).boardId == boardId
        && (f.counterpart ids).accessibleBy userId)
          = (f.boardId == boardId && f.accessibleBy userId) := rfl
    rw [Option.map_some, Option.filter_some, Option.filter_some, hsame]
    cases f.boardId == boardId && f.accessibleBy userId with
    | true => exact .done ⟨hf.1, hf.2, rfl⟩
    | false => exact .notFound id

theorem usableFilters_agree (h : Agree W ids s₁ s₂) (hboard : s₁.hasBoard W boardId = true) :
    usableFilters s₂ boardId userId
      = (usableFilters s₁ boardId userId).map (SavedFilter.counterpart ids) := by
  have husable (s : Store) (hboard : s.hasBoard W boardId = true) :
      s.filters.filter (fun f => f.boardId == boardId && f.accessibleBy userId)
        = (s.filtersWithin W).filter fun f => f.boardId == boardId && f.accessibleBy userId := by
    rw [Store.filtersWithin, filter_filter_of_imp]
    intro f _ hf
    rw [beq_iff_eq.1 (Bool.and_eq_true_iff.1 hf).1, hboard]
  rw [usableFilters, usableFilters, husable s₁ hboard, husable s₂ (h.hasBoard hboard), h.filters,
    List.filter_map, List.map_mergeSort]
  · rfl
  · exact fun f _ g _ => rfl

theorem usable_of_usableFilter {f : SavedFilter} {id : String}
    (h : usableFilter s id boardId userId = .ok f) : s.filter? id = some f ∧ f.boardId = boardId
      ∧ f.accessibleBy userId = true := by
  unfold usableFilter at h
  split at h
  · obtain rfl := Except.ok.inj h
    rename_i hfound
    obtain ⟨hfind, hf⟩ := Option.filter_eq_some_iff.1 hfound
    obtain ⟨hboard, huser⟩ := Bool.and_eq_true_iff.1 hf
    exact ⟨hfind, beq_iff_eq.1 hboard, huser⟩
  · exact absurd h refuse_ne_ok

theorem mem_of_filter? {f : SavedFilter} {id : String} (h : s.filter? id = some f) :
    f ∈ s.filters ∧ f.id = id :=
  ⟨List.mem_of_find?_eq_some h, by simpa using List.find?_some h⟩

theorem usableFilter_eq_ok {f : SavedFilter} {id : String}
    (hboard : s.hasBoard W boardId = true) (h : usableFilter s id boardId userId = .ok f) :
    f ∈ s.filtersWithin W ∧ f.id = id := by
  obtain ⟨hfind, hfboard, -⟩ := usable_of_usableFilter h
  obtain ⟨hf, hid⟩ := mem_of_filter? hfind
  exact ⟨Store.mem_filtersWithin.2 ⟨hf, hfboard ▸ hboard⟩, hid⟩

/-- An operation that only the owner of a filter may carry out. -/
theorem ownFilter_alike {α β : Type} {R : α → β → Prop} {reason : Reason}
    {change₁ : SavedFilter → α} {change₂ : SavedFilter → β} (h : Agree W ids s₁ s₂)
    (h₁ : s₁.Separated) (h₂ : s₂.Separated) (hboard : s₁.hasBoard W boardId = true) {id : String}
    (hid : Known ids id)
    (hchange : ∀ f ∈ s₁.filtersWithin W, f.id = id → R (change₁ f) (change₂ (f.counterpart ids))) :
    Outcome.Alike ids R
      (do
        let f ← usableFilter s₁ id boardId userId
        if f.userId != userId then refuse reason
        return change₁ f)
      (do
        let f ← usableFilter s₂ (counterpart ids id) boardId userId
        if f.userId != userId then refuse reason
        return change₂ f) := by
  refine (usableFilter_alike h h₁ h₂ hboard hid).bind fun f g _ _ ⟨hf, hfid, hg⟩ => ?_
  subst hg
  have howner : (f.counterpart ids).userId = f.userId := rfl
  rw [howner]
  split_ifs
  · exact .refused _
  · exact .done (hchange f hf hfid)

theorem chooseDefault_alike (h : Agree W ids s₁ s₂) (h₁ : s₁.Separated) (h₂ : s₂.Separated)
    (hboard : s₁.hasBoard W boardId = true) {id : String} (hid : Known ids id) :
    Outcome.Alike ids (Agree W ids) (chooseDefault s₁ id boardId userId)
      (chooseDefault s₂ (counterpart ids id) boardId userId) :=
  ownFilter_alike h h₁ h₂ hboard hid fun _ hf _ => h.makeDefault hf

theorem deleteFilter_alike (h : Agree W ids s₁ s₂) (h₁ : s₁.Separated) (h₂ : s₂.Separated)
    (hboard : s₁.hasBoard W boardId = true) {id : String} (hid : Known ids id) :
    Outcome.Alike ids (Agree W ids) (deleteFilter s₁ id boardId userId)
      (deleteFilter s₂ (counterpart ids id) boardId userId) := by
  refine ownFilter_alike h h₁ h₂ hboard hid fun f hf hfid => ?_
  have herased := h.eraseFilter hf
  rw [SavedFilter.counterpart, hfid] at herased
  exact herased

theorem chooseDefault_keeps (hs : s.Separated) (hboard : s.hasBoard W boardId = true) {id : String}
    (h : chooseDefault s id boardId userId = .ok s') :
    (s'.Separated ∧ s.Confined W s') ∧ s'.filtersWritten = s.filtersWritten
      ∧ s'.HasFilter W id := by
  simp only [chooseDefault, refuse_bind, bind_eq_ok, ite_refuse_eq_ok, pure_eq_ok] at h
  obtain ⟨f, hfound, -, rfl⟩ := h
  obtain ⟨hf, hfid⟩ := usableFilter_eq_ok hboard hfound
  have hhas : s.HasFilter W id := ⟨f, hf, hfid⟩
  exact ⟨hs.makeDefault_keeps hf, rfl, hhas.makeDefault f⟩

theorem deleteFilter_keeps (hs : s.Separated) (hboard : s.hasBoard W boardId = true) {id : String}
    (h : deleteFilter s id boardId userId = .ok s') :
    (s'.Separated ∧ s.Confined W s') ∧ s'.filtersWritten = s.filtersWritten := by
  simp only [deleteFilter, refuse_bind, bind_eq_ok, ite_refuse_eq_ok, pure_eq_ok] at h
  obtain ⟨f, hfound, -, rfl⟩ := h
  obtain ⟨hf, rfl⟩ := usableFilter_eq_ok hboard hfound
  exact ⟨hs.eraseFilter_keeps hf, rfl⟩

/-- The ids that two runs have given to filters after a step in which both have saved one or
neither has. -/
def idsAfter (ids : List (String × String)) (s₁ s₂ s₁' : Store) : List (String × String) :=
  if s₁'.filtersWritten = s₁.filtersWritten then ids
  else ids ++ [(s₁.nextFilterId, s₂.nextFilterId)]

theorem counterpart_idsAfter (h₁ : s₁.Separated) {id : String} (h : s₁.HasFilter W id)
    (s₁' : Store) : counterpart (idsAfter ids s₁ s₂ s₁') id = counterpart ids id := by
  obtain ⟨f, hf, rfl⟩ := h
  unfold idsAfter
  split_ifs
  · rfl
  · exact counterpart_append_of_ne (h₁.next_ne (Store.mem_filtersWithin.1 hf).1)

theorem idsAfter_same {s₁' : Store} (h : s₁'.filtersWritten = s₁.filtersWritten) :
    idsAfter ids s₁ s₂ s₁' = ids :=
  if_pos h

theorem idsAfter_saved {s₁' : Store} (h : s₁'.filtersWritten = s₁.filtersWritten + 1) :
    idsAfter ids s₁ s₂ s₁' = ids ++ [(s₁.nextFilterId, s₂.nextFilterId)] := by
  refine if_neg ?_
  omega

/-- A store with one more filter, perhaps as the default of its owner. -/
def Store.saved (s : Store) (f : SavedFilter) (isDefault : Bool) : Store :=
  if isDefault then (s.addFilter f).makeDefault f else s.addFilter f

theorem saved_filtersWritten (f : SavedFilter) (isDefault : Bool) :
    (s.saved f isDefault).filtersWritten = s.filtersWritten + 1 := by
  unfold Store.saved
  split_ifs <;> rfl

theorem saved_keeps (hs : s.Separated) {f : SavedFilter} (hboard : s.hasBoard W f.boardId = true)
    (hid : f.id = s.nextFilterId) (isDefault : Bool) :
    ((s.saved f isDefault).Separated ∧ s.Confined W (s.saved f isDefault))
      ∧ (s.saved f isDefault).HasFilter W f.id
      ∧ ∀ x, s.HasFilter W x → (s.saved f isDefault).HasFilter W x := by
  have hnew := Store.hasFilter_addFilter hboard
  obtain ⟨hadded, hconfined⟩ := hs.addFilter_keeps hboard hid
  unfold Store.saved
  split_ifs
  · obtain ⟨hdefault, hconfined'⟩ :=
      hadded.makeDefault_keeps (Store.mem_filtersWithin_addFilter hboard)
    exact ⟨⟨hdefault, hconfined.trans hconfined'⟩, hnew.makeDefault f,
      fun x hx => (hx.addFilter f).makeDefault f⟩
  · exact ⟨⟨hadded, hconfined⟩, hnew, fun x hx => hx.addFilter f⟩

theorem saved_agree (h : Agree W ids s₁ s₂) (h₁ : s₁.Separated) (h₂ : s₂.Separated)
    {f : SavedFilter} (hboard : s₁.hasBoard W f.boardId = true) (hid : f.id = s₁.nextFilterId)
    (isDefault : Bool) :
    Agree W (ids ++ [(s₁.nextFilterId, s₂.nextFilterId)]) (s₁.saved f isDefault)
      (s₂.saved { f with id := s₂.nextFilterId } isDefault) := by
  have hadded := h.addFilter h₁ h₂ hboard hid
  have hnew : f.counterpart (ids ++ [(s₁.nextFilterId, s₂.nextFilterId)])
      = { f with id := s₂.nextFilterId } := by
    rw [← hid]
    exact (hid ▸ hadded.paired).filter_counterpart_last
  unfold Store.saved
  split_ifs
  · rw [← hnew] at hadded ⊢
    exact hadded.makeDefault (Store.mem_filtersWithin_addFilter hboard)
  · exact hadded

/-- The filter that is saved by a draft under a name. -/
def FilterDraft.named (d : FilterDraft) (now : Moment) (schema : BoardSchema)
    (userId name id : String) (tree : BuiltFilter) : SavedFilter where
  id := id
  userId := userId
  boardId := schema.boardId
  name := name
  description := d.description.str?.map Markup.plainText
  definition := tree.toRaw.toDocument
  isPublic := d.isPublic
  isDefault := false
  usageCount := 0
  lastUsedAt := none
  createdAt := now.wholeSecond

/-- Whether a user has saved a filter of a board under a name. -/
def Store.hasNamed (s : Store) (userId boardId name : String) : Bool :=
  s.filters.any fun f => f.userId == userId && f.boardId == boardId && f.name == name

theorem Store.hasNamed_eq_true {name : String} : s.hasNamed userId boardId name = true
    ↔ ∃ f ∈ s.filters, f.userId = userId ∧ f.boardId = boardId ∧ f.name = name := by
  simp [hasNamed, and_assoc]

theorem saveFilter_eq (now : Moment) (s : Store) (schema : BoardSchema) (userId : String)
    (d : FilterDraft) : saveFilter now s schema userId d =
      match filterName? d.name with
      | none => refuse .filterNameMissing
      | some name => do
        if maxFilterName < name.length then refuse .filterNameTooLong
        if s.hasNamed userId schema.boardId name then refuse (.filterNameTaken name)
        let tree ← buildFilter s now schema false d.definition
        return (s.saved (d.named now schema userId name s.nextFilterId tree) d.isDefault,
          s.nextFilterId) := rfl

theorem saveFilter_keeps (hs : s.Separated) (hboard : s.hasBoard W schema.boardId = true)
    {d : FilterDraft} {id : String} (h : saveFilter now s schema userId d = .ok (s', id)) :
    (s'.Separated ∧ s.Confined W s') ∧ s'.filtersWritten = s.filtersWritten + 1
      ∧ s'.HasFilter W id ∧ ∀ x, s.HasFilter W x → s'.HasFilter W x := by
  rw [saveFilter_eq] at h
  split at h
  · exact absurd h refuse_ne_ok
  · rename_i name hname
    simp only [refuse_bind, ite_refuse_eq_ok, bind_eq_ok, pure_eq_ok, Prod.mk.injEq] at h
    obtain ⟨-, -, tree, -, rfl, rfl⟩ := h
    have hfilter : (d.named now schema userId name s.nextFilterId tree).id = s.nextFilterId := rfl
    obtain ⟨hkeeps, hnew, hold⟩ := saved_keeps hs hboard hfilter d.isDefault
    exact ⟨hkeeps, saved_filtersWritten _ d.isDefault, hnew, hold⟩

theorem saveFilter_alike (h : Agree W ids s₁ s₂) (h₁ : s₁.Separated) (h₂ : s₂.Separated)
    (hboard : s₁.hasBoard W schema.boardId = true) (d : FilterDraft) :
    Outcome.Alike ids
      (fun p q => Agree W (idsAfter ids s₁ s₂ p.1) p.1 q.1
        ∧ q.2 = counterpart (idsAfter ids s₁ s₂ p.1) p.2)
      (saveFilter now s₁ schema userId d) (saveFilter now s₂ schema userId d) := by
  have hnamed (s : Store) (hboard : s.hasBoard W schema.boardId = true) (name : String) :
      s.hasNamed userId schema.boardId name = (s.filtersWithin W).any
        fun f => f.userId == userId && f.boardId == schema.boardId && f.name == name := by
    rw [Store.filtersWithin, List.any_filter]
    refine congrArg (List.any s.filters) (funext fun f => ?_)
    by_cases hf : f.boardId = schema.boardId
    · simp [hf, hboard]
    · simp [hf]
  have htaken (name : String) : s₂.hasNamed userId schema.boardId name
      = s₁.hasNamed userId schema.boardId name := by
    rw [hnamed s₁ hboard, hnamed s₂ (h.hasBoard hboard), h.filters, List.any_map]
    rfl
  rw [saveFilter_eq, saveFilter_eq]
  split
  · exact .refused _
  · rename_i name hname
    simp only [htaken, buildFilter_agree h, refuse_bind]
    split_ifs
    · exact .refused _
    · exact .refused _
    · refine .bind_same fun tree _ => .done ?_
      have hfilter : (d.named now schema userId name s₁.nextFilterId tree).id = s₁.nextFilterId :=
        rfl
      have hagree := saved_agree h h₁ h₂ hboard hfilter d.isDefault
      dsimp only
      rw [idsAfter_saved (saved_filtersWritten _ d.isDefault)]
      exact ⟨hagree, hagree.paired.counterpart_last.symm⟩

theorem idsAfter_congr {s₁' s₂' s'' : Store} (h₁ : s₁'.filtersWritten = s₁.filtersWritten)
    (h₂ : s₂'.filtersWritten = s₂.filtersWritten) :
    idsAfter ids s₁' s₂' s'' = idsAfter ids s₁ s₂ s'' := by
  simp only [idsAfter, Store.nextFilterId, h₁, h₂]

/-! ## Listings -/

/-- A query as it is asked in the other run. -/
def TaskQuery.counterpart (ids : List (String × String)) (q : TaskQuery) : TaskQuery :=
  { q with savedFilterId := q.savedFilterId.map (BoardQuery.counterpart ids) }

/-- A listing as the other run has it. -/
def Listing.counterpart (ids : List (String × String)) (l : Listing) : Listing :=
  { l with
    appliedFilter := l.appliedFilter.map (BoardQuery.counterpart ids)
    savedFilter := l.savedFilter.map (BoardQuery.counterpart ids) }

theorem queryFilter_alike (h : Agree W ids s₁ s₂) (h₁ : s₁.Separated) (h₂ : s₂.Separated)
    (hboard : s₁.hasBoard W boardId = true) {q : TaskQuery}
    (hq : ∀ id ∈ q.savedFilterId, Known ids id) :
    Outcome.Alike ids (fun x y => y = (x.1, x.2.map (SavedFilter.counterpart ids)))
      (queryFilter s₁ boardId userId q) (queryFilter s₂ boardId userId (q.counterpart ids)) := by
  unfold queryFilter TaskQuery.counterpart
  rcases hid : q.savedFilterId with _ | id
  · exact .done rfl
  · refine (usableFilter_alike h h₁ h₂ hboard (hq id hid)).map fun f g ⟨_, _, hg⟩ => ?_
    rw [hg]
    rfl

theorem queryFilter_eq_ok (hboard : s.hasBoard W boardId = true) {q : TaskQuery} {raw : Json}
    {applied : Option SavedFilter} (h : queryFilter s boardId userId q = .ok (raw, applied)) :
    ∀ f ∈ applied, f ∈ s.filtersWithin W := by
  unfold queryFilter at h
  split at h
  · obtain ⟨-, rfl⟩ := Prod.mk.inj (Except.ok.inj h)
    exact fun f hf => absurd hf (by simp)
  · obtain ⟨f, hfound, h⟩ := map_eq_ok.1 h
    obtain ⟨-, rfl⟩ := Prod.mk.inj h
    intro g hg
    obtain rfl := Option.some.inj hg
    exact (usableFilter_eq_ok hboard hfound).1

/-- The store after a listing has noted which filter it used. -/
def Store.used (s : Store) (now : Moment) (applied : Option SavedFilter) : Store :=
  (applied.map fun f => recordUse now s f.id).getD s

theorem used_keeps (now : Moment) (hs : s.Separated) {applied : Option SavedFilter}
    (happlied : ∀ f ∈ applied, f ∈ s.filtersWithin W) :
    ((s.used now applied).Separated ∧ s.Confined W (s.used now applied))
      ∧ (s.used now applied).filtersWritten = s.filtersWritten
      ∧ ∀ x, s.HasFilter W x → (s.used now applied).HasFilter W x := by
  rcases applied with _ | f
  · exact ⟨⟨hs, .refl W s⟩, rfl, fun _ hx => hx⟩
  · exact ⟨hs.recordUse_keeps now (happlied f rfl), rfl, fun _ hx => hx.recordUse now f.id⟩

theorem used_hasBoard (s : Store) (now : Moment) (applied : Option SavedFilter) :
    (s.used now applied).hasBoard W = s.hasBoard W := by
  rcases applied with _ | f <;> rfl

theorem used_agree (h : Agree W ids s₁ s₂) {applied : Option SavedFilter}
    (happlied : ∀ f ∈ applied, f ∈ s₁.filtersWithin W) :
    Agree W ids (s₁.used now applied)
      (s₂.used now (applied.map (SavedFilter.counterpart ids))) := by
  rcases applied with _ | f
  · exact h
  · exact h.recordUse now (happlied f rfl)

theorem saveQueryFilter_keeps (hs : s.Separated) (hboard : s.hasBoard W schema.boardId = true)
    {q : TaskQuery} {raw : Json} {tree : Option BuiltFilter} {saved : Option String}
    (h : saveQueryFilter now s schema userId q raw tree = .ok (s', saved)) :
    (s'.Separated ∧ s.Confined W s') ∧ (∀ id ∈ saved, s'.HasFilter W id)
      ∧ ∀ x, s.HasFilter W x → s'.HasFilter W x := by
  simp only [saveQueryFilter, refuse_bind] at h
  split_ifs at h
  · obtain ⟨rfl, rfl⟩ := Prod.mk.inj (pure_eq_ok.1 h)
    exact ⟨⟨hs, .refl W s⟩, fun id hid => absurd hid (by simp), fun _ hx => hx⟩
  · exact absurd h refuse_ne_ok
  · simp only [bind_eq_ok, pure_eq_ok, Prod.mk.injEq] at h
    obtain ⟨⟨s₁, id⟩, hsave, rfl, rfl⟩ := h
    obtain ⟨hkeeps, -, hnew, hold⟩ := saveFilter_keeps hs hboard hsave
    exact ⟨hkeeps, fun x hx => Option.some.inj hx ▸ hnew, hold⟩

theorem saveQueryFilter_alike (h : Agree W ids s₁ s₂) (h₁ : s₁.Separated) (h₂ : s₂.Separated)
    (hboard : s₁.hasBoard W schema.boardId = true) (q : TaskQuery) (raw : Json)
    (tree : Option BuiltFilter) :
    Outcome.Alike ids
      (fun x y => Agree W (idsAfter ids s₁ s₂ x.1) x.1 y.1
        ∧ y.2 = x.2.map (counterpart (idsAfter ids s₁ s₂ x.1)))
      (saveQueryFilter now s₁ schema userId q raw tree)
      (saveQueryFilter now s₂ schema userId q raw tree) := by
  simp only [saveQueryFilter, refuse_bind]
  split_ifs
  · refine .done ⟨?_, rfl⟩
    rw [idsAfter_same rfl]
    exact h
  · exact .refused _
  · refine (saveFilter_alike h h₁ h₂ hboard _).bind fun x y _ _ hxy => .done ⟨hxy.1, ?_⟩
    rw [hxy.2]
    rfl

theorem hasTask_of_mem_selectTasks (hs : s.Separated) (hschema : schema.workspaceId = W)
    {archived : Bool} {c : Option Condition} :
    ∀ t ∈ selectTasks s schema archived c,
      s.hasTask W t.id = true ∧ s.hasBoard W t.boardId = true := by
  intro t ht
  obtain ⟨ht, hselected⟩ := List.mem_filter.1 ht
  have hworkspace : t.workspaceId = W :=
    (Store.workspaceId_of_inScope (Bool.and_eq_true_iff.1 hselected).1).trans hschema
  rw [hs.hasTask_id ht, hs.hasBoard_of_task ht, hworkspace, beq_self_eq_true]
  exact ⟨rfl, rfl⟩

theorem selectTasks_agree (h : Agree W ids s₁ s₂) (h₁ : s₁.Separated) (h₂ : s₂.Separated)
    (hschema : schema.workspaceId = W) (archived : Bool) (c : Option Condition) :
    selectTasks s₂ schema archived c = selectTasks s₁ schema archived c := by
  rw [← h₁.selectTasks_within hschema, ← h₂.selectTasks_within hschema, h.within]

theorem page_agree (h : Agree W ids s₁ s₂) (o : TaskOrder) {tasks : List Task}
    (htasks : ∀ t ∈ tasks, s₁.hasTask W t.id = true) (pager : Pager) :
    o.page s₂ tasks pager = o.page s₁ tasks pager := by
  have htasks₂ : ∀ t ∈ tasks, s₂.hasTask W t.id = true := by
    intro t ht
    rw [h.hasTask_eq, htasks t ht]
  rw [← page_within htasks, ← page_within htasks₂, h.within]

theorem builtQueryFilter_agree (h : Agree W ids s₁ s₂) (schema : BoardSchema) (raw : Json)
    (saved : Bool) :
    builtQueryFilter s₂ now schema raw saved = builtQueryFilter s₁ now schema raw saved := by
  rw [builtQueryFilter, builtQueryFilter, buildFilter_agree h]

theorem listTasks_alike {c : Settings} {b : Board} (h : Agree W ids s₁ s₂) (h₁ : s₁.Separated)
    (h₂ : s₂.Separated) (hboard : s₁.hasBoard W b.id = true) (hworkspace : b.workspaceId = W)
    {q : TaskQuery} (hq : ∀ id ∈ q.savedFilterId, Known ids id) :
    Outcome.Alike ids
      (fun x y => Agree W (idsAfter ids s₁ s₂ x.1) x.1 y.1
        ∧ y.2 = x.2.counterpart (idsAfter ids s₁ s₂ x.1))
      (listTasks c now s₁ b userId q) (listTasks c now s₂ b userId (q.counterpart ids)) := by
  have hschema : (s₁.schema b).workspaceId = W := hworkspace
  unfold listTasks
  rw [h.schema_eq hboard]
  refine (queryFilter_alike h h₁ h₂ hboard hq).bind fun x y hx _ hxy => ?_
  obtain ⟨raw, applied⟩ := x
  subst hxy
  have happlied := queryFilter_eq_ok hboard hx
  simp only [builtQueryFilter_agree h, Option.isSome_map, selectTasks_agree h h₁ h₂ hschema]
  refine .bind_same fun tree _ => .bind_same fun order _ => .bind_same fun pager _ => ?_
  rw [page_agree h _ fun t ht => (hasTask_of_mem_selectTasks h₁ hschema t ht).1]
  refine .bind_same fun page _ => ?_
  have happlied₂ : ∀ f ∈ applied.map (SavedFilter.counterpart ids), f ∈ s₂.filtersWithin W := by
    intro f hf
    obtain ⟨g, hg, rfl⟩ := Option.map_eq_some_iff.1 hf
    exact h.counterpart_mem (happlied g hg)
  obtain ⟨⟨hused₁, -⟩, hwritten₁, hhas₁⟩ := used_keeps now h₁ happlied
  obtain ⟨⟨hused₂, -⟩, hwritten₂, -⟩ := used_keeps now h₂ happlied₂
  have hboard₁ : (s₁.used now applied).hasBoard W b.id = true := by
    rw [used_hasBoard, hboard]
  have hboard₂ : (s₂.used now (applied.map (SavedFilter.counterpart ids))).hasBoard W b.id
      = true := by
    rw [used_hasBoard, h.hasBoard hboard]
  refine (saveQueryFilter_alike (used_agree h happlied) hused₁ hused₂ hboard₁ q raw tree).bind
    fun x y hx hy ⟨hagree, hsaved⟩ => .done ?_
  rw [idsAfter_congr hwritten₁ hwritten₂] at hagree hsaved
  obtain ⟨⟨hx₁, -⟩, -, -⟩ := saveQueryFilter_keeps hused₁ hboard₁ hx
  obtain ⟨⟨hy₁, -⟩, -, -⟩ := saveQueryFilter_keeps hused₂ hboard₂ hy
  refine ⟨hagree, ?_⟩
  have hname : (applied.map (SavedFilter.counterpart ids)).map (·.id)
      = (applied.map (·.id)).map (counterpart (idsAfter ids s₁ s₂ x.1)) := by
    rcases applied with _ | f
    · rfl
    · exact congrArg some
        (counterpart_idsAfter h₁ ⟨f, happlied f rfl, rfl⟩ x.1).symm
  have htotal := selectTasks_agree hagree hx₁ hy₁ hschema q.includeArchived none
  rw [Listing.counterpart, Listing.mk.injEq]
  exact ⟨rfl, rfl, rfl, rfl, congrArg List.length htotal, rfl, hname, hsaved⟩

theorem listTasks_keeps {c : Settings} {b : Board} {q : TaskQuery} {l : Listing} (hs : s.Separated)
    (hboard : s.hasBoard W b.id = true) (hworkspace : b.workspaceId = W)
    (h : listTasks c now s b userId q = .ok (s', l)) :
    (s'.Separated ∧ s.Confined W s')
      ∧ (∀ id ∈ l.appliedFilter, s'.HasFilter W id) ∧ (∀ id ∈ l.savedFilter, s'.HasFilter W id)
      ∧ ∀ t ∈ l.page.items, s'.hasTask W t.id = true ∧ s'.hasBoard W t.boardId = true := by
  have hsame := listTasks_sameButFilters h
  have htask : s'.hasTask W = s.hasTask W := Store.hasTask_congr hsame.tasks
  have hboards : s'.hasBoard W = s.hasBoard W := by
    rw [show s' = _ from hsame]
    rfl
  rw [htask, hboards]
  simp only [listTasks, bind_eq_ok, pure_eq_ok, Prod.mk.injEq, orFault_eq_ok] at h
  obtain ⟨⟨raw, applied⟩, hquery, tree, -, ⟨order, warning⟩, -, pager, -, page, hpage,
    ⟨s₂, saved⟩, hsave, rfl, rfl⟩ := h
  have happlied := queryFilter_eq_ok hboard hquery
  obtain ⟨⟨hused, hconfined⟩, -, hhas⟩ := used_keeps now hs happlied
  have hboard₁ : (s.used now applied).hasBoard W b.id = true := by
    rw [used_hasBoard, hboard]
  obtain ⟨⟨hseparated, hconfined'⟩, hsaved, hold⟩ := saveQueryFilter_keeps hused hboard₁ hsave
  refine ⟨⟨hseparated, hconfined.trans hconfined'⟩, fun id hid => ?_, hsaved, fun t ht => ?_⟩
  · obtain ⟨f, hf, rfl⟩ := Option.map_eq_some_iff.1 hid
    exact hold _ (hhas _ ⟨f, happlied f hf, rfl⟩)
  · exact hasTask_of_mem_selectTasks hs hworkspace t (mem_of_page hpage t ht)

end Runs

end BoardQuery
