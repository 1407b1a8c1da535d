import BoardQuery.Proofs.Api.Requests

/-!
# What a listing comes to

A listing is answered if its filter can be built and its page be cut, and then its page is one of
the tasks that the query selects (`listTasks_eq_ok`). Answering it leaves what later queries select
as it was (`listTasks_selectsAlike`): it only counts the use of a saved filter or adds one.
-/

namespace BoardQuery

namespace TaskQuery

/-- A query for the tasks after those read so far. -/
def readOn (q : TaskQuery) (perPage : Option Int) (cursor : Option String) : TaskQuery :=
  { q with perPage, page := 1, cursor }

/-- The order that a query asks for, with a warning if it cannot be followed. -/
def chosenOrder (q : TaskQuery) (c : Settings) (schema : BoardSchema) :
    Except Fault (TaskOrder × Option QueryWarning) :=
  chooseOrder c.missing schema (.ofOption q.sortBy) (.str (if q.descending then "desc" else "asc"))

/-- The tasks of a board that a query selects, whatever the page. -/
def selected (q : TaskQuery) (now : Moment) (s : Store) (b : Board) (userId : String) :
    Outcome (List Task) := do
  let schema := s.schema b
  let (raw, applied) ← queryFilter s b.id userId q
  let tree ← builtQueryFilter s now schema raw applied.isSome
  let selection := (tree.map (Selection.ofFilter schema)).getD ⟨none, []⟩
  return selectTasks s schema q.includeArchived selection.condition

end TaskQuery

section

variable {c : Settings} {now : Moment} {s s' : Store} {b : Board} {userId : String} {q : TaskQuery}

theorem listTasks_eq_ok {l : Listing} (h : listTasks c now s b userId q = .ok (s', l)) :
    ∃ tasks warning pager, q.selected now s b userId = .ok tasks
      ∧ q.chosenOrder c (s.schema b) = .ok (l.order, warning)
      ∧ choosePager c.pages ((q.perPage.map Json.int).getD .null) (.int q.page)
        (.ofOption q.cursor) = .ok pager
      ∧ l.order.page s tasks pager = .ok l.page := by
  simp only [listTasks, bind_eq_ok, orFault_eq_ok, pure_eq_ok, Prod.mk.injEq] at h
  obtain ⟨⟨raw, applied⟩, hraw, tree, htree, ⟨order, warning⟩, horder, pager, hpager, page, hpage,
    ⟨s2, saved⟩, -, -, rfl⟩ := h
  refine ⟨_, warning, pager, ?_, horder, hpager, hpage⟩
  simp only [TaskQuery.selected, hraw, htree, ok_bind]
  rfl

theorem listTasks_of_selected {tasks : List Task} {o : TaskOrder} {warning : Option QueryWarning}
    {pager : Pager} {p : Page} (hsave : q.saveFilter = false)
    (hselected : q.selected now s b userId = .ok tasks)
    (horder : q.chosenOrder c (s.schema b) = .ok (o, warning))
    (hpager : choosePager c.pages ((q.perPage.map Json.int).getD .null) (.int q.page)
      (.ofOption q.cursor) = .ok pager)
    (hpage : o.page s tasks pager = .ok p) : ∃ a, listTasks c now s b userId q = .ok a := by
  simp only [TaskQuery.selected, bind_eq_ok, pure_eq_ok] at hselected
  obtain ⟨⟨raw, applied⟩, hraw, tree, htree, rfl⟩ := hselected
  have hsaved (s' : Store) :
      saveQueryFilter now s' (s.schema b) userId q raw tree = .ok (s', none) := by
    rw [saveQueryFilter, hsave]
    rfl
  simp only [listTasks, bind_eq_ok, orFault_eq_ok]
  exact ⟨_, (raw, applied), hraw, tree, htree, (o, warning), horder, pager, hpager, p, hpage, _,
    hsaved _, rfl⟩

/-- A query that neither uses a saved filter nor saves one leaves the store as it is. -/
theorem listTasks_store {l : Listing} (hunnamed : q.savedFilterId = none)
    (hsave : q.saveFilter = false) (h : listTasks c now s b userId q = .ok (s', l)) : s' = s := by
  simp only [listTasks, queryFilter, hunnamed, ok_bind, saveQueryFilter, hsave, Bool.not_false,
    if_true, bind_eq_ok, pure_eq_ok, Prod.mk.injEq] at h
  obtain ⟨-, -, -, -, -, -, -, -, -, ⟨rfl, -⟩, rfl, -⟩ := h
  rfl

/-- A query that is answered from the first page on is also answered by a cursor, if the page after
the cursor can be cut. -/
theorem listTasks_readOn {perPage : Option Int} {cursor : Option String} {a : Store × Listing}
    (h : listTasks c now s b userId (q.readOn perPage none) = .ok a)
    (hpage : ∀ tasks o warning, q.selected now s b userId = .ok tasks →
      q.chosenOrder c (s.schema b) = .ok (o, warning) → ∃ pager p,
        choosePager c.pages ((perPage.map Json.int).getD .null) (.int 1) (.ofOption cursor)
          = .ok pager ∧ o.page s tasks pager = .ok p) :
    ∃ a, listTasks c now s b userId (q.readOn perPage cursor) = .ok a := by
  obtain ⟨s', l⟩ := a
  simp only [listTasks, bind_eq_ok, orFault_eq_ok] at h ⊢
  obtain ⟨⟨raw, applied⟩, hraw, tree, htree, ⟨order, warning⟩, horder, -, -, -, -,
    ⟨s2, saved⟩, hsaved, -⟩ := h
  obtain ⟨pager, p, hpager, hp⟩ := hpage _ order warning (by
    have hraw' : queryFilter s b.id userId q = .ok (raw, applied) := hraw
    simp only [TaskQuery.selected, hraw', htree, ok_bind]
    rfl) horder
  exact ⟨_, (raw, applied), hraw, tree, htree, (order, warning), horder, pager, hpager, p, hp,
    (s2, saved), hsaved, rfl⟩

end

/-! ## What answering leaves as it was -/

/-- What a query takes from a saved filter. -/
def SavedFilter.use (f : SavedFilter) : Json × String × String × Bool :=
  (f.definition, f.boardId, f.userId, f.isPublic)

/-- Whether a store differs from another in nothing that selects tasks: only in its saved filters,
and in those at most by further ones and by how often they were used. -/
structure Store.SelectsAlike (s s' : Store) : Prop where
  same : SameButFilters s s'
  kept : ∀ id f, s.filter? id = some f → ∃ f', s'.filter? id = some f' ∧ f'.use = f.use

namespace Store.SelectsAlike

variable {s s' : Store}

theorem refl (s : Store) : s.SelectsAlike s :=
  ⟨rfl, fun _ f hf => ⟨f, hf, rfl⟩⟩

theorem trans {s₁ s₂ s₃ : Store} (h : s₁.SelectsAlike s₂) (h' : s₂.SelectsAlike s₃) :
    s₁.SelectsAlike s₃ where
  same := h.same.trans h'.same
  kept id f hf := by
    obtain ⟨f', hf', huse⟩ := h.kept id f hf
    obtain ⟨f'', hf'', huse'⟩ := h'.kept id f' hf'
    exact ⟨f'', hf'', huse'.trans huse⟩

/-- A change of the saved filters that leaves their ids and what queries take from them. -/
theorem map (s : Store) {change : SavedFilter → SavedFilter}
    (hid : ∀ f, (change f).id = f.id) (huse : ∀ f, (change f).use = f.use) :
    s.SelectsAlike { s with filters := s.filters.map change } where
  same := rfl
  kept id f hf := by
    refine ⟨change f, ?_, huse f⟩
    have hp : ((fun f : SavedFilter => f.id == id) ∘ change) = fun f => f.id == id :=
      funext fun f => by rw [Function.comp_apply, hid]
    rw [filter?, List.find?_map, hp]
    exact congrArg (Option.map change) hf

theorem addFilter (s : Store) (f : SavedFilter) : s.SelectsAlike (s.addFilter f) where
  same := rfl
  kept id g hg := by
    refine ⟨g, ?_, rfl⟩
    rw [filter?] at hg
    rw [filter?, Store.addFilter, List.find?_append, hg]
    rfl

theorem makeDefault (s : Store) (f : SavedFilter) : s.SelectsAlike (s.makeDefault f) := by
  refine map s (fun g => ?_) (fun g => ?_) <;> split_ifs <;> rfl

theorem recordUse (s : Store) (now : Moment) (id : String) :
    s.SelectsAlike (recordUse now s id) := by
  refine map s (fun g => ?_) (fun g => ?_) <;> split_ifs <;> rfl

end Store.SelectsAlike

/-- A condition asks about the task and the values of a store, and about nothing else. -/
theorem Condition.eval_congr {s s' : Store} (h : s'.values = s.values) (t : Task) :
    (c : Condition) → c.eval s' t = c.eval s t
  | .always _ => rfl
  | .onAttribute .. => rfl
  | .onValue .. => by simp only [eval, h]
  | .not c => by simp only [eval, eval_congr h t c]
  | .and a b => by simp only [eval, eval_congr h t a, eval_congr h t b]
  | .or a b => by simp only [eval, eval_congr h t a, eval_congr h t b]

theorem selectTasks_congr {s s' : Store} (htasks : s'.tasks = s.tasks)
    (hvalues : s'.values = s.values) (schema : BoardSchema) (archived : Bool)
    (c : Option Condition) :
    selectTasks s' schema archived c = selectTasks s schema archived c := by
  simp only [selectTasks, htasks, Condition.selects, Condition.eval_congr hvalues]

section Unaffected

variable {c : Settings} {now : Moment} {s s' : Store} {b : Board} {userId id : String}
  {q : TaskQuery}

theorem saveFilter_selectsAlike {schema : BoardSchema} {d : FilterDraft}
    (h : saveFilter now s schema userId d = .ok (s', id)) : s.SelectsAlike s' := by
  unfold saveFilter at h
  split at h
  · exact absurd h refuse_ne_ok
  · simp only [refuse_bind, ite_refuse_eq_ok, bind_eq_ok, pure_eq_ok, Prod.mk.injEq] at h
    obtain ⟨-, -, tree, -, rfl, -⟩ := h
    split_ifs
    · exact .trans (.addFilter ..) (.makeDefault ..)
    · exact .addFilter ..

theorem listTasks_selectsAlike {l : Listing} (h : listTasks c now s b userId q = .ok (s', l)) :
    s.SelectsAlike s' := by
  simp only [listTasks, bind_eq_ok, pure_eq_ok, Prod.mk.injEq] at h
  obtain ⟨⟨raw, applied⟩, -, tree, -, ⟨order, warning⟩, -, pager, -, page, -, ⟨s2, saved⟩, hsave,
    rfl, -⟩ := h
  have hused : s.SelectsAlike ((applied.map fun f => recordUse now s f.id).getD s) := by
    rcases applied with _ | f
    · exact .refl s
    · exact .recordUse ..
  refine hused.trans ?_
  simp only [saveQueryFilter, refuse_bind] at hsave
  split_ifs at hsave
  · simp only [pure_eq_ok, Prod.mk.injEq] at hsave
    rw [← hsave.1]
    exact .refl _
  · exact absurd hsave refuse_ne_ok
  · simp only [bind_eq_ok, pure_eq_ok, Prod.mk.injEq] at hsave
    obtain ⟨⟨s1, id⟩, hsave, rfl, -⟩ := hsave
    exact saveFilter_selectsAlike hsave

theorem usableFilter_selectsAlike {f : SavedFilter} {boardId : String} (h : s.SelectsAlike s')
    (hf : usableFilter s id boardId userId = .ok f) :
    ∃ f', usableFilter s' id boardId userId = .ok f' ∧ f'.definition = f.definition := by
  unfold usableFilter at hf
  split at hf
  case h_2 => exact absurd hf refuse_ne_ok
  case h_1 g hg =>
    obtain rfl := Except.ok.inj hf
    obtain ⟨hfind, haccess⟩ := Option.filter_eq_some_iff.1 hg
    obtain ⟨f', hf', huse⟩ := h.kept id g hfind
    simp only [SavedFilter.use, Prod.mk.injEq] at huse
    obtain ⟨hdefinition, hboard, howner, hpublic⟩ := huse
    refine ⟨f', ?_, hdefinition⟩
    rw [usableFilter, hf', Option.filter_some, if_pos]
    simpa [SavedFilter.accessibleBy, hboard, howner, hpublic] using haccess

/-- What a query selects is the same in a store that selects alike. -/
theorem selected_selectsAlike {tasks : List Task} (h : s.SelectsAlike s')
    (htasks : q.selected now s b userId = .ok tasks) :
    q.selected now s' b userId = .ok tasks := by
  simp only [TaskQuery.selected, bind_eq_ok, pure_eq_ok] at htasks ⊢
  obtain ⟨⟨raw, applied⟩, hraw, tree, htree, rfl⟩ := htasks
  have hfilter : ∃ applied', queryFilter s' b.id userId q = .ok (raw, applied')
      ∧ applied'.isSome = applied.isSome := by
    unfold queryFilter at hraw ⊢
    split at hraw
    · obtain ⟨rfl, rfl⟩ := Prod.mk.inj (Except.ok.inj hraw)
      exact ⟨none, rfl, rfl⟩
    · obtain ⟨f, hf, hfields⟩ := map_eq_ok.1 hraw
      obtain ⟨rfl, rfl⟩ := Prod.mk.inj hfields
      obtain ⟨f', hf', hdefinition⟩ := usableFilter_selectsAlike h hf
      exact ⟨some f', map_eq_ok.2 ⟨f', hf', by rw [hdefinition]⟩, rfl⟩
  obtain ⟨applied', hraw', hsome⟩ := hfilter
  have hschema := h.same.schema_eq b
  have htree' : builtQueryFilter s' now (s.schema b) raw applied.isSome = .ok tree := by
    rw [show s' = _ from h.same]
    exact htree
  exact ⟨(raw, applied'), hraw', tree, by rw [hsome, hschema]; exact htree',
    by rw [hschema]; exact selectTasks_congr h.same.tasks h.same.values ..⟩

end Unaffected

end BoardQuery
