import BoardQuery.Proofs.Api.CarriedFilters
import BoardQuery.Proofs.Query.PageChain
import BoardQuery.Proofs.Service.OneByOne

/-!
# Bulk operations act on what a listing shows

A bulk operation selects its tasks by itself: it builds the filter, counts and sorts on its own, and
knows nothing of pages. It comes to the tasks that a client lists who reads the pages of the same
filter in the default order, archived tasks included if the operation reaches them
(`bulk_acts_on_listed`). Behind this stands that the default order is the order in which the
operation sorts (`sortTasks_defaultOrder`). If the filter selects too many tasks, the request is
refused and nothing is stored.
-/

namespace BoardQuery

/-! ## The default order -/

section DefaultOrder

variable {missing : MissingPolicy} {s : Store}

theorem compare_ne_gt_iff {a b : String} : (compare a b != .gt) = decide (a ≤ b) := by
  have hgt : compare b a = .lt ↔ b < a := compareOfLessAndEq_eq_lt
  have hswap : compare a b = (compare b a).swap := Std.OrientedCmp.eq_swap
  rw [hswap, Bool.eq_iff_iff, bne_iff_ne, decide_eq_true_iff, ← String.not_lt, ← hgt]
  cases compare b a <;> simp

theorem compare_unitsOfInt (m n : Int) :
    compare (Binary64.unitsOfInt m) (Binary64.unitsOfInt n) = compare m n := by
  have hpos : (0 : Int) < unitsPerOne := Int.natCast_pos.2 Decimal.unitsPerOne_pos
  have hmono : StrictMono Binary64.unitsOfInt := fun _ _ h => mul_lt_mul_of_pos_right h hpos
  rw [← cmp_eq_compare, ← cmp_eq_compare, hmono.cmp_map_eq]

/-- By the default order tasks stand by position, and those at one position by id. -/
theorem compareRows_defaultOrder (t u : Task) :
    ((defaultOrder missing).compareRows ((defaultOrder missing).rowKey s t)
        ((defaultOrder missing).rowKey s u) != .gt)
      = (t.position < u.position || (t.position == u.position && t.id ≤ u.id)) := by
  have hrows : (defaultOrder missing).compareRows ((defaultOrder missing).rowKey s t)
      ((defaultOrder missing).rowKey s u)
      = (compare t.position u.position).then (compare t.id u.id) := by
    rw [← compare_unitsOfInt]
    have hflag : compare (1 - (defaultOrder missing).missingMarker)
        (1 - (defaultOrder missing).missingMarker) = .eq := Std.compare_self
    exact congrArg (Ordering.then · _) hflag
  rw [hrows]
  rcases lt_trichotomy t.position u.position with hlt | heq | hgt
  · simp [Int.compare_eq_lt.2 hlt, hlt]
  · simp [heq, Std.compare_self, compare_ne_gt_iff]
  · simp [Int.compare_eq_gt.2 hgt, hgt.not_gt, hgt.ne']

theorem sortTasks_defaultOrder (tasks : List Task) :
    (defaultOrder missing).sortTasks s tasks = tasks.mergeSort fun a b =>
      a.position < b.position || (a.position == b.position && a.id ≤ b.id) := by
  have hsort : (defaultOrder missing).sortTasks s tasks
      = ((tasks.map fun t => (t, (defaultOrder missing).rowKey s t)).map (·.1)).mergeSort fun a b =>
        a.position < b.position || (a.position == b.position && a.id ≤ b.id) :=
    List.map_mergeSort fun a ha b hb => by
      obtain ⟨t, -, rfl⟩ := List.mem_map.1 ha
      obtain ⟨u, -, rfl⟩ := List.mem_map.1 hb
      exact compareRows_defaultOrder t u
  rw [hsort, List.map_map]
  exact congrArg (List.mergeSort · _) (List.map_id tasks)

/-- The default order has no column whose values could be NaN. -/
theorem shaped_defaultOrder (missing : MissingPolicy) (s : Store) :
    (defaultOrder missing).Shaped s :=
  fun _ hkey => OrderKey.noConfusion hkey

theorem cursored_defaultOrder (missing : MissingPolicy) : (defaultOrder missing).Cursored := by
  cases missing <;> exact ⟨by decide, by decide⟩

end DefaultOrder

/-! ## Pages by number -/

theorem choosePager_eq_numbered {l : PageLimits} {perPage : Json} {page : Int} {pager : Pager}
    (h : choosePager l perPage (.int page) .null = .ok pager) :
    ∃ n, pager = .numbered n (max 1 page) := by
  simp only [choosePager, bind_eq_ok] at h
  obtain ⟨n, -, h⟩ := h
  have htoInteger : (Json.orElse (.int page) (.int 1)).toInteger
      = .ok (if page = 0 then 1 else page) := by
    by_cases hzero : page = 0
    · rw [hzero]
      rfl
    · rw [Json.orElse, if_pos (by simpa [Json.truthy] using hzero), if_neg hzero]
      rfl
  rw [if_neg (by decide), htoInteger, ok_bind, pure_eq_ok] at h
  refine ⟨n, h.symm.trans ?_⟩
  split_ifs with hzero
  · rw [hzero]
    rfl
  · rfl

theorem TaskOrder.items_of_numberedPage {o : TaskOrder} {s : Store} {tasks : List Task}
    {perPage page : Int} {p : Page} (h : o.numberedPage s tasks perPage page = .ok p) :
    p.perPage = perPage ∧ p.total = tasks.length
      ∧ p.items = ((o.sortTasks s tasks).drop ((page - 1) * perPage).toNat).take perPage.toNat := by
  rw [numberedPage, ite_error_eq_ok] at h
  obtain rfl := Except.ok.inj h.2
  refine ⟨rfl, rfl, ?_⟩
  rw [sortTasks, ← List.map_drop, ← List.map_take]

/-! ## What a query lists -/

/-- Whether a query previews a bulk operation: it states the filter by which the operation selects,
reaches archived tasks if the operation does, and asks for no order. -/
structure TaskQuery.Previews (q : TaskQuery) (filters : Json) (op : BulkOperation) : Prop where
  filters : q.filters = filters
  stated : q.savedFilterId = none
  unsaved : q.saveFilter = false
  unsorted : q.sortBy = none ∧ q.descending = false
  archived : q.includeArchived = op.reachesArchived

/-- Whether a client who reads the pages of a query, at moments at which the filter has a certain
meaning and with no requests in between, is given certain tasks in their order, by whatever cursors
and however large the pages are, and by their numbers. -/
structure TaskQuery.ListsInPages (q : TaskQuery) (c : Settings) (s : Store) (b : Board)
    (userId : String) (Means : Moment → Prop) (tasks : List Task) : Prop where
  comesToEnd : ∀ now, Means now → ∀ perPage, ∃ reads, PageChain c b userId q none s reads
    ∧ ∀ r ∈ reads, (r.now = now ∧ r.meanwhile = []) ∧ r.perPage = perPage
  byCursor : ∀ reads, PageChain c b userId q none s reads →
    (∀ r ∈ reads, Means r.now ∧ r.meanwhile = []) → reads.flatMap (·.items) = tasks
  byNumber : ∀ now, Means now → ∀ perPage page a,
    listTasks c now s b userId { q with perPage, page, cursor := none } = .ok a →
    a.2.page.total = tasks.length ∧ a.2.page.items = (tasks.drop ((max 1 page - 1)
      * a.2.page.perPage).toNat).take a.2.page.perPage.toNat

section Listing

variable {c : Settings} {now : Moment} {s : Store} {b : Board} {userId : String} {q : TaskQuery}
  {filters : Json} {op : BulkOperation} {tree : BuiltFilter}

theorem TaskQuery.Previews.chosenOrder_eq (hq : q.Previews filters op) (schema : BoardSchema) :
    q.chosenOrder c schema = .ok (defaultOrder c.missing, none) := by
  rw [TaskQuery.chosenOrder, hq.unsorted.1, hq.unsorted.2]
  rfl

/-- What a previewing query selects, wherever the filter is built into the same tree. -/
theorem TaskQuery.Previews.selected_eq (hq : q.Previews filters op)
    (hbuilt : buildFilter s now (s.schema b) false filters = .ok tree) :
    q.selected now s b userId = .ok (selectTasks s (s.schema b) op.reachesArchived
      (Selection.ofFilter (s.schema b) tree).condition) := by
  have hraw : queryFilter s b.id userId q = .ok (filters, none) := by
    rw [queryFilter, hq.stated, hq.filters]
  have htree : builtQueryFilter s now (s.schema b) filters (none : Option SavedFilter).isSome
      = .ok (some tree) := builtQueryFilter_of_build hbuilt
  rw [TaskQuery.selected, hraw, ok_bind]
  dsimp only
  rw [htree, hq.archived]
  rfl

theorem TaskQuery.Previews.listsInPages (hq : q.Previews filters op) (hpages : 0 < c.pages.usual)
    (hkeyed : s.WellKeyed) :
    q.ListsInPages c s b userId
      (fun now => buildFilter s now (s.schema b) false filters = .ok tree)
      ((defaultOrder c.missing).sortTasks s (selectTasks s (s.schema b) op.reachesArchived
        (Selection.ofFilter (s.schema b) tree).condition)) where
  comesToEnd now hbuilt perPage := by
    obtain ⟨reads, hchain, hreads⟩ := exists_pageChain_from hpages hq.unsaved perPage _
      ⟨hkeyed, none, hq.chosenOrder_eq _⟩ (shaped_defaultOrder _ s) (hq.selected_eq hbuilt)
      (fun t _ => (cursored_defaultOrder _).resumes s _ t) .start le_rfl
    exact ⟨reads, hchain, fun r hr => ⟨⟨(hreads r hr).1.1, (hreads r hr).1.2.1⟩, (hreads r hr).2⟩⟩
  byCursor reads hchain hreads := by
    have hcovers := hchain.covers hpages (cursored_defaultOrder _)
      ⟨hkeyed, none, hq.chosenOrder_eq _⟩ (fun r _ => shaped_defaultOrder _ r.before) .start
    have halike := hchain.selectsAlike fun r hr => (hreads r hr).2
    rw [hcovers.static s _ fun r hr => ⟨(halike r hr).same.values,
      selected_selectsAlike (halike r hr) (hq.selected_eq (hreads r hr).1)⟩,
      TaskOrder.tasksAfter_none]
  byNumber now hbuilt perPage page a hread := by
    obtain ⟨tasks, warning, pager, htasks, horder, hpager, hpage⟩ := listTasks_eq_ok hread
    obtain rfl := Except.ok.inj ((hq.selected_eq hbuilt).symm.trans htasks)
    have horder : q.chosenOrder c (s.schema b) = .ok (a.2.order, warning) := horder
    obtain ⟨horder, -⟩ := Prod.mk.inj (Except.ok.inj ((hq.chosenOrder_eq _).symm.trans horder))
    obtain ⟨n, rfl⟩ := choosePager_eq_numbered hpager
    rw [← horder] at hpage
    obtain ⟨rfl, htotal, hitems⟩ := TaskOrder.items_of_numberedPage hpage
    rw [(TaskOrder.sortTasks_perm ..).length_eq]
    exact ⟨htotal, hitems⟩

end Listing

/-! ## What an operation selects -/

section Targets

variable {c : Settings} {now : Moment} {s : Store} {b : Board} {operation params filters : Json}
  {op : BulkOperation} {change : TaskChange} {tree : BuiltFilter}

/-- A filter selects the tasks that it lists, if they are not too many. -/
theorem targetsByFilter_eq (archived : Bool) (limit : Int)
    (hbuilt : buildFilter s now (s.schema b) false filters = .ok tree) {tasks : List Task}
    (htasks : tasks = selectTasks s (s.schema b) archived
      (Selection.ofFilter (s.schema b) tree).condition) (missing : MissingPolicy) :
    targetsByFilter now s (s.schema b) archived limit filters
      = if limit < tasks.length then refuse (.tooManyTasks limit)
        else .ok ⟨(defaultOrder missing).sortTasks s tasks, []⟩ := by
  rw [targetsByFilter, hbuilt, ok_bind, sortTasks_defaultOrder, htasks]
  simp only [refuse_bind]
  rfl

theorem planBulk_filter (hprepared : prepareBulk now s b operation params = .ok (op, change))
    (hbuilt : buildFilter s now (s.schema b) false filters = .ok tree) :
    planBulk c now s (s.schema b) ⟨operation, params, .null, filters⟩
      = (targetsByFilter now s (s.schema b) op.reachesArchived c.bulkTasks filters).map
        fun targets => ⟨op, change, targets⟩ := by
  have hnull : filters.isNull = false := by
    rcases eq_arr_or_obj_of_build (mapError_eq_ok.1 hbuilt) with ⟨_, rfl⟩ | ⟨_, rfl⟩ <;> rfl
  simp only [prepareBulk, bind_eq_ok, pure_eq_ok, Prod.mk.injEq] at hprepared
  obtain ⟨op', hop, change', hchange, rfl, rfl⟩ := hprepared
  rw [planBulk]
  dsimp only
  rw [hop, ok_bind, hchange, ok_bind, selectTargets, hnull]
  rfl

/-- Tasks in reach that are named by their ids are planned for as they are. -/
theorem planBulk_naming (hprepared : prepareBulk now s b operation params = .ok (op, change))
    {targets : List Task} (hmost : targets.length ≤ c.bulkTasks) (hids : (s.tasks.map (·.id)).Nodup)
    (hnodup : (targets.map (·.id)).Nodup)
    (hreach : ∀ t ∈ targets, t ∈ s.tasks ∧ inScope (s.schema b) op.reachesArchived t = true) :
    planBulk c now s (s.schema b) (.naming operation params (targets.map (·.id)))
      = .ok ⟨op, change, ⟨targets, []⟩⟩ := by
  have hfound : ∀ t ∈ targets, s.target? b op t.id = some t := by
    intro t ht
    obtain ⟨hmem, hscope⟩ := hreach t ht
    have hfind : s.task? t.id = some t := Store.find?_key Task.id hids hmem
    rw [Store.target?, hfind, Option.filter_some, if_pos hscope]
  have hdistinct := distinct_of_nodup hnodup
  have hlength : (distinct (targets.map (·.id))).length ≤ c.bulkTasks := by
    rwa [hdistinct, List.length_map]
  have htasks : (targets.map (·.id)).filterMap (s.target? b op) = targets := by
    rw [List.filterMap_map]
    exact (List.filterMap_congr hfound).trans (List.filterMap_some ..)
  have hmissing : (targets.map (·.id)).filter (fun id => (s.target? b op id).isNone) = [] := by
    rw [List.filter_eq_nil_iff]
    intro id hid
    obtain ⟨t, ht, rfl⟩ := List.mem_map.1 hid
    rw [hfound t ht]
    exact Bool.false_ne_true
  simp only [prepareBulk, bind_eq_ok, pure_eq_ok, Prod.mk.injEq] at hprepared
  obtain ⟨op', hop, change', hchange, rfl, rfl⟩ := hprepared
  rw [planBulk, BulkRequest.naming]
  dsimp only
  rw [hop, ok_bind, hchange, ok_bind, selectTargets_ofStrings hlength, hdistinct, htasks, hmissing]
  rfl

end Targets

/-! ## Requests -/

/-- Whether a request asks for a bulk operation on tasks of a board. -/
structure Request.AsksFor (r : Request) (board : String) (q : BulkRequest) : Prop where
  route : Route.ofSegments? r.segments = some (.bulk board)
  method : r.method = "POST"
  operation : bodyField r "operation" = .ok q.operation
  params : bodyField r "params" = .ok q.params
  taskIds : bodyField r "task_ids" = .ok q.taskIds
  filters : bodyField r "filters" = .ok q.filters

section Requests

variable {c : Settings} {now : Moment} {s : Store} {b : Board} {board : String} {r : Request}
  {u : User} {q : BulkRequest}

variable (c now) in
/-- A bulk operation that its sender may ask for is carried out or refused. -/
theorem handle_bulk (hr : r.AsksFor board q) (hboard : s.board? board = some b)
    (hu : authorize s r b = .ok u) :
    handle c now s r = match runBulk c now s (s.schema b) q with
      | .ok (op, run) => (bulkReply op run, run.store)
      | .error e => (.ofRefusal 400 e, bulkLeftover c now s (s.schema b) q) := by
  have haccepts : (Route.bulk board).accepts r.method = true := by
    rw [hr.method]
    rfl
  have hoptions : (r.method == "OPTIONS") = false := by
    rw [hr.method]
    decide
  have hhead : (r.method == "HEAD") = false := by
    rw [hr.method]
    decide
  have hroute : handleRoute c now s r (.bulk board) = handleBulk c now s r b := by
    rw [handleRoute, onBoard, boardOrReply, hboard, hoptions]
    simp only [Bool.false_eq_true, if_false, ok_bind]
    rw [hu, ok_bind]
  simp only [handle, hr.route, haccepts, if_true, hroute, hhead]
  rw [handleBulk, hr.operation, hr.params, hr.taskIds, hr.filters]
  simp only [ok_bind]
  rcases runBulk c now s (s.schema b) q with e | ⟨op, run⟩ <;> rfl

/-- An operation that cannot be planned is refused, and nothing is stored. -/
theorem handle_unplanned {e : Refusal} (hr : r.AsksFor board q) (hboard : s.board? board = some b)
    (hu : authorize s r b = .ok u) (hplan : planBulk c now s (s.schema b) q = .error e) :
    handle c now s r = (.ofRefusal 400 e, s) := by
  have hrun : runBulk c now s (s.schema b) q = .error e := by
    rw [runBulk, hplan]
    rfl
  have hleft : bulkLeftover c now s (s.schema b) q = s := by
    rw [bulkLeftover, hplan]
  rw [handle_bulk c now hr hboard hu, hrun]
  dsimp only
  rw [hleft]

end Requests

/-- A bulk operation by a filter acts on what a query lists that previews it. If the tasks that
match are not too many, the operation is planned for the tasks on the pages of the query, in the
order in which they are listed, just as it would be for these tasks by their ids. And if they are
too many, it is refused, and nothing is stored. -/
theorem bulk_acts_on_listed {c : Settings} {now : Moment} {s : Store} {b : Board}
    {operation params filters : Json} {q : TaskQuery} {op : BulkOperation} {change : TaskChange}
    {tree : BuiltFilter} (userId : String) (hpages : 0 < c.pages.usual) (hkeyed : s.WellKeyed)
    (hprepared : prepareBulk now s b operation params = .ok (op, change))
    (hbuilt : buildFilter s now (s.schema b) false filters = .ok tree)
    (hq : q.Previews filters op) :
    ∃ matching, q.selected now s b userId = .ok matching
      ∧ (matching.length ≤ c.bulkTasks → ∃ targets,
        planBulk c now s (s.schema b) ⟨operation, params, .null, filters⟩
            = .ok ⟨op, change, ⟨targets, []⟩⟩
          ∧ planBulk c now s (s.schema b) (.naming operation params (targets.map (·.id)))
            = .ok ⟨op, change, ⟨targets, []⟩⟩
          ∧ targets.Perm matching
          ∧ q.ListsInPages c s b userId
            (fun later => buildFilter s later (s.schema b) false filters = .ok tree) targets)
      ∧ (c.bulkTasks < matching.length → ∀ r board u, s.board? board = some b →
        r.AsksFor board ⟨operation, params, .null, filters⟩ → authorize s r b = .ok u →
        handle c now s r = (.error 400 ("Bulk operations are limited to " ++ toString c.bulkTasks
          ++ " tasks."), s)) := by
  have hselected : q.selected now s b userId = .ok _ := hq.selected_eq hbuilt
  have hplan := planBulk_filter (c := c) hprepared hbuilt
  have htargets := targetsByFilter_eq op.reachesArchived c.bulkTasks hbuilt rfl c.missing
  refine ⟨_, hselected, fun hmost => ?within, fun hmany r board u hboard hr hu => ?beyond⟩
  case within =>
    rw [if_neg (by omega)] at htargets
    rw [htargets] at hplan
    have hperm := TaskOrder.sortTasks_perm (defaultOrder c.missing) s (selectTasks s (s.schema b)
      op.reachesArchived (Selection.ofFilter (s.schema b) tree).condition)
    have hnodup := hkeyed.ids.sublist ((selected_sublist hselected).map _)
    refine ⟨_, hplan, planBulk_naming hprepared ?_ hkeyed.ids ?_ ?_, hperm,
      hq.listsInPages hpages hkeyed⟩
    · rwa [hperm.length_eq]
    · exact ((hperm.map _).nodup_iff).2 hnodup
    · intro t ht
      have hmem := hperm.mem_iff.1 ht
      rw [selectTasks, List.mem_filter, Bool.and_eq_true] at hmem
      exact ⟨hmem.1, hmem.2.1⟩
  case beyond =>
    rw [if_pos hmany] at htargets
    rw [htargets] at hplan
    exact handle_unplanned hr hboard hu hplan

section Example

open Sample

/-- Two tasks in one stage, the first of which has the later position. -/
def Sample.twoReviews : Store :=
  { twoBoards with
    tasks := [{ task "t" with position := 1 }, task "u"]
    values := [⟨"t", "stage", .str "review"⟩, ⟨"u", "stage", .str "review"⟩] }

/-- The request to archive all tasks of the stage. -/
def Sample.archiveRequest : Request :=
  { moveRequest with
    body := .document (.obj [("operation", .str "archive"), ("filters", stageFilter)]) }

theorem archiveRequest_asksFor :
    archiveRequest.AsksFor "board" ⟨.str "archive", .null, .null, stageFilter⟩ where
  route := by
    have hsegments : archiveRequest.segments = ["api", "boards", "board", "tasks", "bulk"] := by
      show (((PercentCoding.decode "/api/boards/board/tasks/bulk").toList.dropWhile
        (· == '/')).splitOn '/').map String.ofList = _
      decide +kernel
    rw [hsegments]
    decide
  method := rfl
  operation := rfl
  params := rfl
  taskIds := rfl
  filters := rfl

/-- One page of one task after another, and the plan. With room for one task only, the request is
refused. -/
theorem bulk_acts_on_listed_two_reviews :
    (Sample.twoReviews.WellKeyed
      ∧ prepareBulk Moment.first Sample.twoReviews board (.str "archive") .null
        = .ok (.archive, .archive)
      ∧ buildFilter Sample.twoReviews Moment.first (Sample.twoReviews.schema board) false
        stageFilter = .ok stageTree
      ∧ stageQuery.Previews stageFilter .archive)
    ∧ (∃ targets, planBulk .usual Moment.first Sample.twoReviews (Sample.twoReviews.schema board)
        ⟨.str "archive", .null, .null, stageFilter⟩ = .ok ⟨.archive, .archive, ⟨targets, []⟩⟩
      ∧ ∃ reads, PageChain .usual board "u" stageQuery none Sample.twoReviews reads
        ∧ (∀ r ∈ reads, r.perPage = some 1) ∧ reads.flatMap (·.items) = targets
        ∧ targets.length = 2)
    ∧ handle { Settings.usual with bulkTasks := 1 } Moment.first Sample.twoReviews archiveRequest
      = (.error 400 "Bulk operations are limited to 1 tasks.", Sample.twoReviews) := by
  have hkeyed : Sample.twoReviews.WellKeyed := ⟨by decide, by decide⟩
  have hprepared : prepareBulk Moment.first Sample.twoReviews board (.str "archive") .null
      = .ok (.archive, .archive) := rfl
  have hbuilt : buildFilter Sample.twoReviews Moment.first (Sample.twoReviews.schema board) false
      stageFilter = .ok stageTree := buildFilter_stageFilter
  have hq : stageQuery.Previews stageFilter .archive := ⟨rfl, rfl, rfl, ⟨rfl, rfl⟩, rfl⟩
  have hselected : stageQuery.selected Moment.first Sample.twoReviews board "u"
      = .ok Sample.twoReviews.tasks := by
    have hschema : Sample.twoReviews.schema board = _ := schema_twoBoards
    rw [hq.selected_eq hbuilt, hschema]
    rfl
  obtain ⟨u, hu⟩ : ∃ u, authorize Sample.twoReviews archiveRequest board = .ok u :=
    authorize_twoBoards
  refine ⟨⟨hkeyed, hprepared, hbuilt, hq⟩, ?_, ?_⟩
  · obtain ⟨matching, hmatching, hwithin, -⟩ := bulk_acts_on_listed (c := .usual) "u"
      (by decide) hkeyed hprepared hbuilt hq
    obtain rfl := Except.ok.inj (hselected.symm.trans hmatching)
    obtain ⟨targets, hplan, -, hperm, hlists⟩ := hwithin (by decide)
    obtain ⟨reads, hchain, hreads⟩ := hlists.comesToEnd _ hbuilt (some 1)
    refine ⟨targets, hplan, reads, hchain, fun r hr => (hreads r hr).2, ?_, hperm.length_eq⟩
    exact hlists.byCursor reads hchain fun r hr =>
      ⟨(hreads r hr).1.1 ▸ hbuilt, (hreads r hr).1.2⟩
  · obtain ⟨matching, hmatching, -, hbeyond⟩ := bulk_acts_on_listed
      (c := { Settings.usual with bulkTasks := 1 }) "u" (by decide) hkeyed hprepared hbuilt hq
    obtain rfl := Except.ok.inj (hselected.symm.trans hmatching)
    exact hbeyond (by decide) archiveRequest "board" u rfl archiveRequest_asksFor hu

end Example

end BoardQuery
