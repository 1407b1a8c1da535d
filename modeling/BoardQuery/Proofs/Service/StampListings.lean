import BoardQuery.Proofs.Filter.ValidFilters
import BoardQuery.Proofs.Query.FilterMeaning
import BoardQuery.Proofs.Query.StampPages

/-!
# Who wrote a stamp

Where stamps of the clock count for the same as bound ones, a listing does not tell who wrote them:
it is answered as if all of them were bound (`listTasks_inFull`). What remains are the comparisons
with the second of a stamp of the clock and the places where a stamp of the clock stands beside a
bound one of the same moment (`clock_stamps_fall_behind`).
-/

namespace BoardQuery

open FilterBuilder

/-- A store in which all stamps are written in full. -/
def Store.inFull (s : Store) : Store :=
  { s with tasks := s.tasks.map Task.inFull }

theorem Store.wholeStamps_inFull (s : Store) : s.inFull.WholeStamps := by
  intro u hu k
  obtain ⟨t, -, rfl⟩ := List.mem_map.1 hu
  rw [t.stamp_inFull]
  exact Stamp.whole_inFull _

/-- A page of tasks with their stamps in full. -/
def Page.inFull (p : Page) : Page :=
  { p with items := p.items.map Task.inFull }

/-! ## Selection -/

/-- Whether a condition says of a task what it says of the task with its stamps in full. -/
def Leaf.TellsAlike (l : Leaf String Operand) (t : Task) : Prop :=
  ∀ k cmp m, l.column = (StampKind.attribute k).name → l.operator.comparison? = some cmp →
    l.operand = .second m → cmp.holds (compare (t.stamp k).second (m.instant / microsPerSecond))
      = cmp.holds (compare (t.stamp k).inFull.second (m.instant / microsPerSecond))

section Selection

variable {s : Store} {schema : BoardSchema} {env : Surroundings} {stale : Bool} {t : Task}

/-- A name that stands for an attribute is its name. -/
theorem eq_name_of_resolve {name : String} {a : Attribute}
    (h : resolve (some schema) name = some (.native a)) : name = a.name := by
  unfold resolve at h
  split at h
  · rename_i a' ha'
    obtain rfl := Resolved.native.inj (Option.some.inj h)
    rw [Attribute.ofName?] at ha'
    have hname := List.find?_some ha'
    exact (beq_iff_eq.1 hname).symm
  · simp only [Option.bind_eq_bind, Option.bind_some, Option.bind_eq_some_iff, Option.pure_def,
      Option.some.injEq, reduceCtorEq, and_false, exists_false] at h

/-- An attribute that is not a stamp, or one of the two. -/
theorem Attribute.stamp_cases (a : Attribute) :
    (∃ k, a = StampKind.attribute k) ∨ ∀ t : Task, t.inFull.cell a = t.cell a := by
  cases a
  case createdAt => exact .inl ⟨.creation, rfl⟩
  case updatedAt => exact .inl ⟨.change, rfl⟩
  all_goals exact .inr fun _ => rfl

/-- A condition on a stamp has the type of moments: it asks whether there is one, or compares it
with a second. -/
theorem operand_of_stamp {l : Leaf String Operand} {k : StampKind} (hl : l.WellFormed)
    (hstands : l.Stands ⟨env, resolve (some schema), stale⟩)
    (hresolve : resolve (some schema) l.column = some (.native k.attribute))
    (hfamily : k.attribute.columnType.family = l.columnType.family) :
    l.operator.testsEmptiness = true ∨ ∃ cmp m, l.operator.comparison? = some cmp
      ∧ l.operand = .second m ∧ m.wholeSecond = m ∧ dateWithinBounds m = true := by
  have htype : l.columnType = .datetime := by
    obtain ⟨o, hadopted, -⟩ := hstands
    rw [adopted_of_some hresolve, Resolved.columnType, if_pos hfamily] at hadopted
    rw [hadopted.1]
    cases k <;> rfl
  have hmem := hl.operator
  have hformed := hl.operand
  rw [htype] at hmem hformed
  cases hempty : l.operator.testsEmptiness with
  | true => exact .inl rfl
  | false =>
    obtain ⟨cmp, hcmp⟩ := comparison?_of_mem hmem hempty
    refine .inr ⟨cmp, ?_⟩
    generalize l.operand = v at hformed
    cases hformed with
    | @second m _ _ hwhole hm => exact ⟨m, hcmp, rfl, hwhole, hm⟩
    | absent h => exact absurd (h.symm.trans hempty) (by simp)
    | whole ht | part ht | number ht | day ht | choice ht => exact absurd ht (by decide)
    | choices ht | user ht | users ht | labels ht | checked ht => exact absurd ht (by decide)

theorem verdict_ofLeaf_inFull {l : Leaf String Operand} (hl : l.WellFormed)
    (hstands : l.Stands ⟨env, resolve (some schema), stale⟩) (h : l.TellsAlike t) :
    (Selection.ofLeaf schema l).verdict s.inFull t.inFull
      = (Selection.ofLeaf schema l).verdict s t := by
  unfold Selection.ofLeaf
  rcases hresolve : resolve (some schema) l.column with _ | r
  · rfl
  · by_cases hfamily : r.columnType.family = l.columnType.family
    · simp only [hfamily, beq_self_eq_true, if_true, Selection.verdict, Option.map_some]
      refine congrArg some ?_
      cases r with
      | column c type =>
        unfold leafCondition
        split_ifs <;> rfl
      | native a =>
        have hselects (s : Store) (t : Task) :
            (leafCondition (.native a) l.operator l.operand).selects s t
              = ((operatorTest (.ofAttribute a) l.operator l.operand).eval (t.cell a)).isYes :=
          rfl
        rw [hselects, hselects]
        rcases a.stamp_cases with ⟨k, rfl⟩ | hsame
        · rw [Task.cell_stamp, Task.cell_stamp, Task.stamp_inFull]
          rcases operand_of_stamp hl hstands hresolve hfamily with
            hop | ⟨cmp, m, hop, hv, hwhole, hm⟩
          · rcases testsEmptiness_eq_true.1 hop with hop | hop <;> rw [hop] <;> cases k <;> rfl
          · rw [operatorTest_comparison hop, hv, ← hwhole, Stamp.stretch_position _ hm,
              Stamp.stretch_position _ hm]
            exact (h k cmp m (eq_name_of_resolve hresolve) hop hv).symm
        · rw [hsame]
    · simp only [beq_eq_false_iff_ne.2 hfamily]
      rfl

mutual

theorem verdict_ofFilter_inFull : (f : BuiltFilter) → (∀ l ∈ f.leaves, l.WellFormed
      ∧ l.Stands ⟨env, resolve (some schema), stale⟩ ∧ l.TellsAlike t) →
    (Selection.ofFilter schema f).verdict s.inFull t.inFull
      = (Selection.ofFilter schema f).verdict s t
  | .leaf l, h => by
    obtain ⟨hl, hstands, htells⟩ := h l (by simp [Filter.leaves])
    rw [Selection.ofFilter]
    exact verdict_ofLeaf_inFull hl hstands htells
  | .group logic ms, h => by
    rw [Filter.leaves] at h
    rw [verdict_ofFilter_group, verdict_ofFilter_group, verdicts_ofMembers_inFull ms h]

theorem verdicts_ofMembers_inFull : (ms : List BuiltFilter) →
    (∀ l ∈ Filter.membersLeaves ms, l.WellFormed
      ∧ l.Stands ⟨env, resolve (some schema), stale⟩ ∧ l.TellsAlike t) →
    (ms.filterMap fun m => (Selection.ofFilter schema m).verdict s.inFull t.inFull)
      = ms.filterMap fun m => (Selection.ofFilter schema m).verdict s t
  | [], _ => rfl
  | m :: ms, h => by
    rw [Filter.membersLeaves, List.forall_mem_append] at h
    rw [List.filterMap_cons, List.filterMap_cons, verdict_ofFilter_inFull m h.1,
      verdicts_ofMembers_inFull ms h.2]

end

theorem selectTasks_inFull {archived : Bool} {sel : Selection}
    (h : ∀ t ∈ s.tasks, inScope schema archived t = true →
      sel.verdict s.inFull t.inFull = sel.verdict s t) :
    selectTasks s.inFull schema archived sel.condition
      = (selectTasks s schema archived sel.condition).map Task.inFull := by
  rw [selectTasks, selectTasks, Store.inFull, List.filter_map]
  refine congrArg (List.map Task.inFull) (List.filter_congr fun t ht => ?_)
  have hscope : inScope schema archived t.inFull = inScope schema archived t := rfl
  rw [Function.comp_apply, hscope]
  cases hin : inScope schema archived t with
  | false => rfl
  | true =>
    rw [Bool.true_and, Bool.true_and, sel.all_selects s, ← h t ht hin]
    exact sel.all_selects s.inFull t.inFull

end Selection

/-! ## Pages -/

section Pages

variable {o : TaskOrder} {s : Store} {tasks : List Task} {t u : Task}

/-- Whether the tasks of a list stand to each other as they would with their stamps in full: in the
order of a stamp, those of one moment have their stamps from one origin. -/
def TaskOrder.Unmixed (o : TaskOrder) (tasks : List Task) : Prop :=
  ∀ k, o.key = .native (StampKind.attribute k) → ∀ t ∈ tasks, ∀ u ∈ tasks,
    (t.stamp k).moment = (u.stamp k).moment → (t.stamp k).byClock = (u.stamp k).byClock

theorem cell_storeInFull (o : TaskOrder) (s : Store) (t : Task) :
    o.cell s.inFull t = o.cell s t := by
  unfold TaskOrder.cell
  split <;> rfl

theorem rowKey_storeInFull (o : TaskOrder) (s : Store) : o.rowKey s.inFull = o.rowKey s := by
  funext t
  simp only [TaskOrder.rowKey, cell_storeInFull]

/-- The key of an order is a stamp, or writing stamps in full leaves all rows as they are. -/
theorem TaskOrder.stamp_cases (o : TaskOrder) (s : Store) :
    (∃ k, o.key = .native (StampKind.attribute k)) ∨ ∀ t, o.rowKey s t.inFull = o.rowKey s t := by
  rcases hkey : o.key with a | id
  · rcases a.stamp_cases with ⟨k, rfl⟩ | hsame
    · exact .inl ⟨k, rfl⟩
    · refine .inr fun t => ?_
      simp only [rowKey, cell, hkey, hsame]
      rfl
  · refine .inr fun t => ?_
    simp only [rowKey, cell, hkey]
    rfl

theorem compareRows_inFull (hwhole : ∀ t ∈ tasks, ∀ k, (t.stamp k).Whole) (h : o.Unmixed tasks)
    (ht : t ∈ tasks) (hu : u ∈ tasks) :
    o.compareRows (o.rowKey s t.inFull) (o.rowKey s u.inFull)
      = o.compareRows (o.rowKey s t) (o.rowKey s u) := by
  rcases o.stamp_cases s with ⟨k, hkey⟩ | hsame
  · have hcell (t : Task) : o.cell s t = .text (t.stamp k).text := by
      rw [TaskOrder.cell, hkey]
      exact t.cell_stamp k
    have hsorted (x y : String) : (Cell.text x).sorted (.text y) = compare x y := rfl
    have htext {t u : Task} (ht : t ∈ tasks) (hu : u ∈ tasks) :
        compare (t.stamp k).inFull.text (u.stamp k).inFull.text
          = compare (t.stamp k).text (u.stamp k).text := by
      rw [Stamp.compare_text (hwhole t ht k) (hwhole u hu k),
        Stamp.compare_text (Stamp.whole_inFull _) (Stamp.whole_inFull _)]
      by_cases hmoment : (t.stamp k).moment = (u.stamp k).moment
      · rw [h k hkey t ht u hu hmoment]
        simp [Stamp.inFull]
      · have hne : compare (t.stamp k).moment.instant (u.stamp k).moment.instant ≠ .eq :=
          fun heq => hmoment (Moment.instant_injective (Std.compare_eq_iff_eq.1 heq))
        revert hne
        simp only [Stamp.inFull]
        cases compare (t.stamp k).moment.instant (u.stamp k).moment.instant <;> simp
    simp only [TaskOrder.compareRows, TaskOrder.compareCells, TaskOrder.rowKey, hcell, hsorted,
      Task.stamp_inFull, htext ht hu, htext hu ht]
    rfl
  · rw [hsame, hsame]

theorem cursorAfter_inFull (o : TaskOrder) (s : Store) (t : Task) :
    o.cursorAfter s.inFull t.inFull = o.cursorAfter s t := by
  have hvalue : o.cursorValue s.inFull t.inFull = o.cursorValue s t := by
    unfold TaskOrder.cursorValue
    simp only [cell_storeInFull]
    rcases hkey : o.key with a | id
    · have hmoment : t.inFull.moment? a = t.moment? a := by
        cases a <;> rfl
      simp only [hmoment]
      rcases hm : t.moment? a with _ | m
      · have hcell : o.cell s t.inFull = o.cell s t := by
          refine TaskOrder.cell_inFull fun a' ha' => ?_
          obtain rfl := OrderKey.native.inj (hkey.symm.trans ha')
          cases a <;> first | rfl | exact absurd hm (by simp [Task.moment?])
        simp only [hcell]
      · rfl
    · have hcell : o.cell s t.inFull = o.cell s t :=
        TaskOrder.cell_inFull fun a ha => by simp [hkey] at ha
      simp only [hcell]
  rw [TaskOrder.cursorAfter, TaskOrder.cursorAfter, hvalue, cell_storeInFull,
    TaskOrder.flag_cell_inFull]
  rfl

theorem nextCursor_inFull (o : TaskOrder) (s : Store) (items : List Task) (hasMore : Bool) :
    o.nextCursor s.inFull (items.map Task.inFull) hasMore = o.nextCursor s items hasMore := by
  unfold TaskOrder.nextCursor
  rw [List.getLast?_map, Option.map_map]
  have hcursor : o.cursorAfter s.inFull ∘ Task.inFull = o.cursorAfter s :=
    funext (cursorAfter_inFull o s)
  rw [hcursor]

theorem sortRows_inFull (hwhole : ∀ t ∈ tasks, ∀ k, (t.stamp k).Whole) (h : o.Unmixed tasks) :
    o.sortRows s.inFull (tasks.map Task.inFull)
      = (o.sortRows s tasks).map fun r => (r.1.inFull, o.rowKey s r.1.inFull) := by
  unfold TaskOrder.sortRows
  rw [@List.map_mergeSort _ _ _ (fun a b => o.compareRows a.2 b.2 != .gt), List.map_map,
    List.map_map, rowKey_storeInFull]
  · rfl
  · intro a ha b hb
    obtain ⟨t, ht, rfl⟩ := List.mem_map.1 ha
    obtain ⟨u, hu, rfl⟩ := List.mem_map.1 hb
    rw [compareRows_inFull hwhole h ht hu]

/-- A page by number shows the tasks with their stamps in full as it shows the tasks. -/
theorem numberedPage_inFull (hwhole : ∀ t ∈ tasks, ∀ k, (t.stamp k).Whole) (h : o.Unmixed tasks)
    (perPage page : Int) : o.numberedPage s.inFull (tasks.map Task.inFull) perPage page
      = (o.numberedPage s tasks perPage page).map Page.inFull := by
  unfold TaskOrder.numberedPage
  by_cases hskipped : fitsInteger ((page - 1) * perPage) = true
  · have hitems (n m : Nat) : (((o.sortRows s.inFull (tasks.map Task.inFull)).drop n).take m).map
        (·.1) = ((((o.sortRows s tasks).drop n).take m).map (·.1)).map Task.inFull := by
      rw [sortRows_inFull hwhole h, ← List.map_drop, ← List.map_take, List.map_map, List.map_map]
      rfl
    simp only [hskipped, Bool.not_true, Bool.false_eq_true, if_false, hitems, List.length_map,
      nextCursor_inFull]
    rfl
  · simp only [hskipped]
    rfl

end Pages

/-! ## Listings -/

namespace TaskQuery

/-- The filter of a query as it is built. -/
def builtFilter (q : TaskQuery) (now : Moment) (s : Store) (b : Board) (userId : String) :
    Outcome (Option BuiltFilter) := do
  let (raw, applied) ← queryFilter s b.id userId q
  builtQueryFilter s now (s.schema b) raw applied.isSome

/-- The answer to a query. -/
def answer (q : TaskQuery) (c : Settings) (now : Moment) (s : Store) (b : Board)
    (userId : String) : Outcome Reply :=
  (listTasks c now s b userId q).map fun p => listingReply p.1 userId q p.2

/-- Whether no stamp of the clock counts for another than a bound one of its moment: neither a
comparison of the query nor its order tells them apart. -/
structure Undisturbed (q : TaskQuery) (c : Settings) (now : Moment) (s : Store) (b : Board)
    (userId : String) : Prop where
  compared : ∀ f, q.builtFilter now s b userId = .ok (some f) → ∀ l ∈ f.leaves, ∀ t ∈ s.tasks,
    inScope (s.schema b) q.includeArchived t = true → l.TellsAlike t
  sorted : ∀ o warning tasks, q.chosenOrder c (s.schema b) = .ok (o, warning) →
    q.selected now s b userId = .ok tasks → o.Unmixed tasks

end TaskQuery

section Listings

variable {c : Settings} {now : Moment} {s s' : Store} {b : Board} {userId : String} {q : TaskQuery}

theorem saveFilter_inFull (schema : BoardSchema) (d : FilterDraft) :
    saveFilter now s.inFull schema userId d
      = (saveFilter now s schema userId d).map fun p => (p.1.inFull, p.2) := by
  have hbuild : buildFilter s.inFull now schema false d.definition
      = buildFilter s now schema false d.definition := rfl
  have hfilters : s.inFull.filters = s.filters := rfl
  unfold saveFilter
  rw [hbuild, hfilters]
  cases filterName? d.name with
  | none => rfl
  | some name =>
    simp only [refuse_bind]
    split_ifs
    · rfl
    · rfl
    all_goals rcases buildFilter s now schema false d.definition with e | tree <;> rfl

theorem saveQueryFilter_inFull (schema : BoardSchema) (raw : Json) (tree : Option BuiltFilter) :
    saveQueryFilter now s.inFull schema userId q raw tree
      = (saveQueryFilter now s schema userId q raw tree).map fun p => (p.1.inFull, p.2) := by
  simp only [saveQueryFilter, refuse_bind, saveFilter_inFull]
  split_ifs
  · rfl
  · rfl
  · rcases saveFilter now s schema userId _ with e | ⟨s', id⟩ <;> rfl

theorem choosePager_numbered {l : PageLimits} {perPage page : Json} {pager : Pager}
    (h : choosePager l perPage page .null = .ok pager) : ∃ n m, pager = .numbered n m := by
  simp only [choosePager, bind_eq_ok] at h
  obtain ⟨n, -, h⟩ := h
  rw [if_neg (by decide)] at h
  simp only [bind_eq_ok, pure_eq_ok] at h
  obtain ⟨m, -, rfl⟩ := h
  exact ⟨_, _, rfl⟩

/-- The selection of a query, from the filter as it is built. -/
def querySelection (schema : BoardSchema) (tree : Option BuiltFilter) : Selection :=
  (tree.map (Selection.ofFilter schema)).getD ⟨none, []⟩

theorem selectTasks_query_inFull {raw : Json} {saved : Bool} {tree : Option BuiltFilter}
    {archived : Bool} (hbuilt : builtQueryFilter s now (s.schema b) raw saved = .ok tree)
    (htells : ∀ f, tree = some f → ∀ l ∈ f.leaves, ∀ t ∈ s.tasks,
      inScope (s.schema b) archived t = true → l.TellsAlike t) :
    selectTasks s.inFull (s.schema b) archived (querySelection (s.schema b) tree).condition
      = (selectTasks s (s.schema b) archived (querySelection (s.schema b) tree).condition).map
        Task.inFull := by
  refine selectTasks_inFull fun t ht hscope => ?_
  cases tree with
  | none => rfl
  | some f =>
    unfold builtQueryFilter at hbuilt
    split_ifs at hbuilt
    · obtain ⟨f', hf, hsome⟩ := map_eq_ok.1 hbuilt
      obtain rfl := Option.some.inj hsome
      obtain ⟨hsound, hstands⟩ := build_sound (mapError_eq_ok.1 hf)
      exact verdict_ofFilter_inFull f' fun l hl =>
        ⟨hsound.leaves l hl, hstands l hl, htells f' rfl l hl t ht hscope⟩
    · exact absurd hbuilt (by simp)

theorem length_selectTasks_inFull (s : Store) (schema : BoardSchema) (archived : Bool) :
    (selectTasks s.inFull schema archived none).length
      = (selectTasks s schema archived none).length := by
  have hnone : ∀ t ∈ s.tasks, inScope schema archived t = true →
      (Selection.mk none []).verdict s.inFull t.inFull = (Selection.mk none []).verdict s t :=
    fun _ _ _ => rfl
  exact (congrArg List.length (selectTasks_inFull hnone)).trans (List.length_map _)

/-- A query is answered as if all stamps were bound. -/
theorem listTasks_inFull (hwhole : s.WholeStamps) (hcursor : q.cursor = none)
    (h : q.Undisturbed c now s b userId) : listTasks c now s.inFull b userId q
      = (listTasks c now s b userId q).map fun p =>
        (p.1.inFull, { p.2 with page := p.2.page.inFull }) := by
  have hschema : s.inFull.schema b = s.schema b := rfl
  have hraw : queryFilter s.inFull b.id userId q = queryFilter s b.id userId q := rfl
  have hbuilt (raw : Json) (saved : Bool) :
      builtQueryFilter s.inFull now (s.schema b) raw saved
        = builtQueryFilter s now (s.schema b) raw saved := rfl
  unfold listTasks
  simp only [hschema, hraw, hbuilt, hcursor]
  rcases hraw : queryFilter s b.id userId q with e | ⟨raw, applied⟩
  · rfl
  simp only [ok_bind]
  rcases htree : builtQueryFilter s now (s.schema b) raw applied.isSome with e | tree
  · rfl
  simp only [ok_bind]
  rcases horder : chooseOrder c.missing (s.schema b) (.ofOption q.sortBy)
    (.str (if q.descending then "desc" else "asc")) with e | ⟨o, warning⟩
  · rfl
  rcases hpager : choosePager c.pages ((q.perPage.map Json.int).getD .null) (.int q.page)
    (.ofOption none) with e | pager
  · rfl
  obtain ⟨n, m, rfl⟩ := choosePager_numbered hpager
  have hselected : q.selected now s b userId = .ok (selectTasks s (s.schema b) q.includeArchived
      (querySelection (s.schema b) tree).condition) := by
    simp only [TaskQuery.selected, hraw, htree, ok_bind]
    rfl
  have htasks := selectTasks_query_inFull htree fun f hf => h.compared f (by
    simp only [TaskQuery.builtFilter, hraw, htree, ok_bind, hf])
  have hused : (applied.map fun f => recordUse now s.inFull f.id).getD s.inFull
      = ((applied.map fun f => recordUse now s f.id).getD s).inFull := by
    cases applied <;> rfl
  have hunmixed := h.sorted o warning _ horder hselected
  have hwhole' := fun t ht => hwhole t (selected_sublist hselected |>.subset ht)
  unfold querySelection at htasks hunmixed hwhole'
  simp only [orFault, Except.mapError, ok_bind, htasks, TaskOrder.page,
    numberedPage_inFull hwhole' hunmixed, hused]
  rcases o.numberedPage s _ n m with e | page
  · rfl
  simp only [Except.map, ok_bind, saveQueryFilter_inFull]
  rcases saveQueryFilter now _ (s.schema b) userId q raw tree with e | ⟨s', saved⟩
  · rfl
  simp only [ok_bind, length_selectTasks_inFull]
  rfl

theorem listingReply_inFull (s : Store) (l : Listing) :
    listingReply s.inFull userId q { l with page := l.page.inFull }
      = listingReply s userId q l := by
  have htask (inclusions : List Inclusion) (t : Task) :
      taskJson s.inFull inclusions t.inFull = taskJson s inclusions t := by
    have hinclusion : inclusionFields s.inFull t.inFull = inclusionFields s t := by
      funext i
      cases i <;> rfl
    unfold taskJson
    rw [hinclusion]
    rfl
  have hitems : (l.page.items.map Task.inFull).map (taskJson s.inFull q.inclusions)
      = l.page.items.map (taskJson s q.inclusions) := by
    rw [List.map_map]
    exact List.map_congr_left fun t _ => htask q.inclusions t
  unfold listingReply
  simp only [Page.inFull, hitems]
  rfl

theorem answer_inFull (hwhole : s.WholeStamps) (hcursor : q.cursor = none)
    (h : q.Undisturbed c now s b userId) :
    q.answer c now s.inFull b userId = q.answer c now s b userId := by
  unfold TaskQuery.answer
  rw [listTasks_inFull hwhole hcursor h]
  rcases listTasks c now s b userId q with e | ⟨s', l⟩
  · rfl
  · exact congrArg Except.ok (listingReply_inFull s' l)

end Listings

/-! ## Stamps of either origin -/

/-- What a request changes it stamps by the clock, and the other stamps it leaves. -/
theorem Applied.wholeStamps {start : Store} {now : Moment} {b : Board} {s s' : Store} {t : Task}
    (h : Applied start now b s t s') (hs : s.WholeStamps) : s'.WholeStamps := by
  have hupdate {s : Store} {id : String} {change : Task → Task} (hs : s.WholeStamps)
      (hstamps : ∀ t, (change t).createdAt = t.createdAt ∧ (change t).updatedAt = t.updatedAt) :
      (s.updateTask now id change).WholeStamps := by
    intro u hu k
    obtain ⟨t, ht, rfl⟩ := List.mem_map.1 hu
    split_ifs
    · cases k with
      | creation =>
        rw [Task.stamp, (hstamps t).1]
        exact hs t ht .creation
      | change => exact Stamp.whole_ofClock now
    · exact hs t ht k
  cases h with
  | updated change _ _ _ _ hstamps => exact hupdate hs hstamps
  | moved target rows =>
    have hreplaced : (s.replaceValues t.id (rows.filterMap id)).WholeStamps := hs
    exact hupdate hreplaced fun _ => ⟨rfl, rfl⟩
  | erased => exact fun u hu => hs u (List.mem_of_mem_filter hu)
  | wrote c raw v =>
    unfold Store.WholeStamps
    rw [Store.tasks_putValue]
    exact hs

theorem serve_wholeStamps {c : Settings} {s : Store} (requests : List (Moment × Request))
    (hs : s.WholeStamps) : (serve c s requests).WholeStamps := by
  refine serve_preserves (fun now s s' heffect hs => ?_) requests hs
  exact heffect.preserves (fun _ _ hs => hs) (fun _ _ hs => hs)
    (fun s₁ t _ c _ v _ _ hs => by
      unfold Store.WholeStamps
      rw [Store.tasks_putValue]
      exact hs)
    (fun _ _ _ _ _ _ hs happlied => happlied.wholeStamps hs) hs

/-- Where who wrote the stamps of tasks makes a difference, and where it does not. Comparisons take
a stamp of the clock for one of the second before. Pages in the order of a stamp list every task
once exactly if no page goes on after a task that is not clear. A first page is the same whoever
wrote the stamps, if neither a comparison nor the order of the query tells them apart. -/
theorem clock_stamps_fall_behind {c : Settings} {s : Store} {b : Board}
    (hpages : 0 < c.pages.usual) (hkeyed : s.WellKeyed) (hwhole : s.WholeStamps) :
    (∀ env schema stale path fields l k cmp,
      buildLeaf ⟨env, resolve (some schema), stale⟩ path fields = .ok l →
      Fields.get fields "column_type" = .str "date"
        ∨ Fields.get fields "column_type" = .str "datetime" →
      l.column = (StampKind.attribute k).name → l.operator.comparison? = some cmp →
      ∃ z, (Fields.get fields "value").stated? env.now = some z ∧ ∀ archived t,
        t ∈ selectTasks s schema archived (Selection.ofLeaf schema l).condition
          ↔ t ∈ s.tasks ∧ inScope schema archived t = true
            ∧ cmp.holds (compare (t.stamp k).second (z.instant / microsPerSecond)) = true)
      ∧ (∀ userId q o warning k tasks reads,
        q.chosenOrder c (s.schema b) = .ok (o, warning) → o.key = .native (StampKind.attribute k) →
        PageChain c b userId q none s reads →
        (∀ r ∈ reads, r.meanwhile = [] ∧ q.selected r.now s b userId = .ok tasks) →
        ((∀ t ∈ tasks, (reads.flatMap (·.items)).count t = 1)
            ↔ ∀ r ∈ reads, ∀ t ∈ r.last?, t.Clear k o.descending tasks)
          ∧ ((∀ r ∈ reads, ∀ t ∈ r.last?, t.Clear k o.descending tasks) →
            reads.flatMap (·.items) = (o.sortRows s tasks).map (·.1)))
      ∧ (∀ userId q o warning k now tasks perPage,
        q.chosenOrder c (s.schema b) = .ok (o, warning) → o.key = .native (StampKind.attribute k) →
        q.saveFilter = false → q.selected now s b userId = .ok tasks →
        (∀ t ∈ tasks, t.Clear k o.descending tasks) →
        ∃ reads, PageChain c b userId q none s reads
          ∧ (∀ r ∈ reads, r.now = now ∧ r.perPage = perPage ∧ r.meanwhile = [])
          ∧ reads.flatMap (·.items) = (o.sortRows s tasks).map (·.1))
      ∧ ∀ (s' : Store) now userId (q : TaskQuery),
        s'.inFull = s.inFull → s'.WholeStamps → q.cursor = none →
        q.Undisturbed c now s b userId → q.Undisturbed c now s' b userId →
        q.answer c now s' b userId = q.answer c now s b userId := by
  refine ⟨?_, ?_, ?_, ?_⟩
  · intro env schema stale path fields l k cmp hbuilt hwritten hcolumn hop
    obtain ⟨z, hz, hselects⟩ := compared_stamps hbuilt hwritten hcolumn hop
    exact ⟨z, hz, hselects s⟩
  · intro userId q o warning k tasks reads horder ho hchain hquiet
    exact pageChain_stamps hpages ⟨hkeyed, warning, horder⟩ hwhole ho hchain hquiet
  · intro userId q o warning k now tasks perPage horder ho hsave hselected hclear
    exact exists_pageChain_stamps hpages hkeyed hwhole horder ho hsave hselected hclear perPage
  · intro s' now userId q hsame hwhole' hcursor h h'
    rw [← answer_inFull hwhole' hcursor h', hsame, answer_inFull hwhole hcursor h]

/-! ## Two tasks of one moment -/

section Example

/-- A task that was created and changed at the start of a day, by the clock or with bound stamps. -/
def leapTask (id : String) (byClock : Bool) : Task :=
  { Sample.task id with
    createdAt := ⟨.midnight leapDay, byClock⟩
    updatedAt := ⟨.midnight leapDay, byClock⟩ }

/-- Two tasks of one moment, of which the clock has stamped the first. -/
def leapTasks : Store :=
  { Store.empty with boards := [Sample.board], tasks := [leapTask "x" true, leapTask "y" false] }

def createdThen : Fields :=
  [("column", .str "created_at"), ("column_type", .str "datetime"), ("operator", .str "equals"),
    ("value", .str "2024-02-29")]

def createdThenBuilt : Leaf String Operand :=
  ⟨"created_at", .datetime, .equals, .second (.midnight leapDay), .all⟩

set_option maxRecDepth 2000 in
theorem buildLeaf_createdThen : buildLeaf ⟨atFirst, resolve (some columnless), false⟩ "filters.0"
    createdThen = .ok createdThenBuilt := rfl

def byCreation : TaskOrder := ⟨"created_at", false, .native .createdAt, .last⟩

/-- The comparison with their moment selects the task with the bound stamp alone, the pages in the
order of creation list both, and pages in another order are the same for bound stamps. -/
theorem clock_stamps_fall_behind_leap_tasks :
    leapTasks.WellKeyed ∧ leapTasks.WholeStamps
      ∧ (∀ t, t ∈ selectTasks leapTasks columnless false
          (Selection.ofLeaf columnless createdThenBuilt).condition ↔ t = leapTask "y" false)
      ∧ (∃ reads, PageChain .usual Sample.board "user" (Sample.query "created_at") none leapTasks
          reads ∧ (∀ r ∈ reads, r.perPage = some 1)
        ∧ reads.flatMap (·.items) = [leapTask "x" true, leapTask "y" false])
      ∧ (Sample.query "position").answer .usual Moment.first leapTasks.inFull Sample.board "user"
        = (Sample.query "position").answer .usual Moment.first leapTasks Sample.board "user" := by
  have hkeyed : leapTasks.WellKeyed := ⟨by decide, by decide⟩
  have hwhole : leapTasks.WholeStamps := by
    intro t ht k _
    have hmoment : (t.stamp k).moment = .midnight leapDay := by
      rcases List.mem_pair.1 ht with rfl | rfl <;> cases k <;> rfl
    rw [hmoment]
    rfl
  obtain ⟨hcompared, -, hexists, hreplaced⟩ :=
    clock_stamps_fall_behind (c := .usual) (b := Sample.board) (by decide) hkeyed hwhole
  refine ⟨hkeyed, hwhole, fun t => ?_, ?_, ?_⟩
  · obtain ⟨z, hz, hselects⟩ := hcompared _ _ _ _ _ _ .creation .equal buildLeaf_createdThen
      (.inr rfl) rfl rfl
    obtain rfl : ⟨.midnight leapDay, none⟩ = z := Option.some.inj hz
    rw [hselects]
    constructor
    · rintro ⟨ht, -, hholds⟩
      rcases List.mem_pair.1 ht with rfl | rfl
      · exact absurd hholds (by decide)
      · rfl
    · rintro rfl
      exact ⟨List.mem_pair.2 (.inr rfl), rfl, by decide⟩
  · have horder : (Sample.query "created_at").chosenOrder .usual (leapTasks.schema Sample.board)
        = .ok (byCreation, none) := rfl
    have hselected : (Sample.query "created_at").selected Moment.first leapTasks Sample.board "user"
        = .ok [leapTask "x" true, leapTask "y" false] := rfl
    have hclear : ∀ t ∈ [leapTask "x" true, leapTask "y" false],
        t.Clear .creation false [leapTask "x" true, leapTask "y" false] := by
      intro t ht hclock
      refine ⟨rfl, fun u hu _ hne => ?_⟩
      rcases List.mem_pair.1 ht with rfl | rfl
      · rcases List.mem_pair.1 hu with rfl | rfl
        · exact absurd rfl hne
        · exact iff_of_false (by decide) (by decide)
      · exact absurd hclock (by decide)
    obtain ⟨reads, hchain, hreads, hsorted⟩ := hexists "user" _ _ _ .creation Moment.first _
      (some 1) horder rfl rfl hselected hclear
    refine ⟨reads, hchain, fun r hr => (hreads r hr).2.1, ?_⟩
    rw [hsorted, TaskOrder.sortRows, List.mergeSort_of_pairwise (by decide)]
    rfl
  · have hundisturbed s : (Sample.query "position").Undisturbed .usual Moment.first s Sample.board
        "user" := by
      refine ⟨fun f hf => ?_, fun o warning tasks horder _ k hkey => ?_⟩
      · obtain hf : Except.ok none = Except.ok (some f) := hf
        exact absurd hf (by simp)
      · obtain ⟨rfl, -⟩ := Prod.mk.inj (Except.ok.inj horder)
        cases k <;> exact absurd hkey (by decide)
    exact hreplaced leapTasks.inFull Moment.first "user" _ rfl leapTasks.wholeStamps_inFull rfl
      (hundisturbed _) (hundisturbed _)

/-- A stamp of the clock is not found at its own second, where the same moment is found if it is
bound. -/
theorem clock_stamp_not_found :
    (leapTask "x" true).inFull = leapTask "x" false
      ∧ buildLeaf ⟨atFirst, resolve (some columnless), false⟩ "filters.0" createdThen
        = .ok createdThenBuilt
      ∧ leapTask "x" false ∈ selectTasks { Store.empty with tasks := [leapTask "x" false] }
        columnless false (Selection.ofLeaf columnless createdThenBuilt).condition
      ∧ leapTask "x" true ∉ selectTasks { Store.empty with tasks := [leapTask "x" true] }
        columnless false (Selection.ofLeaf columnless createdThenBuilt).condition :=
  ⟨rfl, buildLeaf_createdThen, by decide, by decide⟩

end Example

end BoardQuery
