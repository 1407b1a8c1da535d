import BoardQuery.Proofs.Api.CursorRequests
import BoardQuery.Proofs.Query.LeafTests
import BoardQuery.Proofs.Query.PageChain

/-!
# Pages by number

A page that is asked for by its number is a slice of one list: the tasks that the query selects, in
its order, each of them once, whether or not they have a row in the column of the order
(`TaskOrder.joinedRows_eq`). A page past the end is empty. Only a page that starts beyond 64 bits is
no slice, for the request ends in an internal error then (`numbered_page_slices`).
-/

namespace BoardQuery

/-! ## The rows that are put in order -/

/-- Tasks with the values by which they are ordered, as the store joins them: each task with every
row that it has in the column of the order, and alone if it has none. -/
def TaskOrder.joinedRows (o : TaskOrder) (s : Store) (tasks : List Task) : List (Task × Cell) :=
  tasks.flatMap fun t =>
    match o.key with
    | .native a => [(t, t.cell a)]
    | .column id =>
      match s.rowsAt t.id id with
      | [] => [(t, .null)]
      | rows => rows.map fun row => (t, Cell.ofStored row.value)

/-- The join neither drops a task nor lists one twice. -/
theorem TaskOrder.joinedRows_eq {o : TaskOrder} {s : Store} (hs : s.UniqueRows)
    (tasks : List Task) : o.joinedRows s tasks = tasks.map fun t => (t, o.cell s t) := by
  rw [joinedRows, ← List.flatMap_pure_eq_map]
  refine List.flatMap_congr fun t _ => ?_
  rcases hkey : o.key with a | id
  · simp only [cell, hkey]
    rfl
  · simp only [Store.rowsAt_of_unique hs, Function.comp_apply, cell, hkey]
    cases s.value? t.id id <;> rfl

/-- Whether a list is that of some tasks in an order: by missing flag, then by value, the greater
first in a descending order, and then by id. -/
structure TaskOrder.Arranges (o : TaskOrder) (s : Store) (tasks list : List Task) : Prop where
  perm : list.Perm tasks
  joined : (list.map fun t => (t, o.cell s t)).Perm (o.joinedRows s tasks)
  pairwise : list.Pairwise fun t u => o.compareRows (o.rowKey s t) (o.rowKey s u) = .lt

/-- Whether a page is the slice of a list that its number asks for. -/
structure Page.Slices (p : Page) (list : List Task) (perPage page : Int) : Prop where
  items : p.items = (list.drop ((page - 1) * perPage).toNat).take perPage.toNat
  size : p.perPage = perPage
  number : p.page = some page
  total : p.total = list.length
  hasMore : p.hasMore = true ↔ page * perPage < list.length
  nextCursor : p.nextCursor.isSome = p.hasMore
  past : list.length ≤ (page - 1) * perPage → p.items = []

section Pages

variable {o : TaskOrder} {s : Store} {tasks list : List Task} {p : Page} {n page : Int}

theorem TaskOrder.sortTasks_arranges (hrows : s.UniqueRows) (hids : (tasks.map (·.id)).Nodup)
    (hsound : ∀ t ∈ tasks, (o.cell s t).Sound) : o.Arranges s tasks (o.sortTasks s tasks) where
  perm := sortTasks_perm o s tasks
  joined := by
    rw [joinedRows_eq hrows]
    exact (sortTasks_perm o s tasks).map _
  pairwise := by
    refine (sortTasks_pairwise hids hsound).imp_of_mem fun ht hu h => ?_
    rw [compareRows_eq]
    · exact h
    · exact hsound _ ((sortTasks_perm o s tasks).mem_iff.1 ht)
    · exact hsound _ ((sortTasks_perm o s tasks).mem_iff.1 hu)

/-- A page of which the start fits 64 bits is a slice of the sorted list. -/
theorem TaskOrder.page_slices (hn : 0 < n) (hpage : 1 ≤ page)
    (hfits : fitsInteger ((page - 1) * n) = true) :
    ∃ p, o.page s tasks (.numbered n page) = .ok p ∧ p.Slices (o.sortTasks s tasks) n page := by
  have hlength : (o.sortTasks s tasks).length = tasks.length := (sortTasks_perm o s tasks).length_eq
  have hitems : (((o.sortRows s tasks).drop ((page - 1) * n).toNat).take n.toNat).map (·.1)
      = ((o.sortTasks s tasks).drop ((page - 1) * n).toNat).take n.toNat := by
    rw [sortTasks, List.map_take, List.map_drop]
  rw [TaskOrder.page, numberedPage]
  simp only [hfits, Bool.not_true, Bool.false_eq_true, if_false]
  refine ⟨_, rfl, hitems, rfl, rfl, ?total, ?hasMore, ?nextCursor, fun hpast => ?past⟩
  case total => rw [hlength]
  case hasMore => rw [hlength, decide_eq_true_iff]
  case nextCursor =>
    by_cases hmore : page * n < tasks.length
    · -- What is left of the list after the page before is not empty.
      have hstart : ((page - 1) * n).toNat < tasks.length := by
        have hbefore : (page - 1) * n = page * n - n := by ring
        have hnonneg : 0 ≤ (page - 1) * n := mul_nonneg (by omega) hn.le
        omega
      have hne : ((o.sortTasks s tasks).drop ((page - 1) * n).toNat).take n.toNat ≠ [] :=
        List.ne_nil_of_length_pos (by rw [List.length_take, List.length_drop, hlength]; omega)
      rw [hitems, nextCursor, decide_eq_true hmore, if_pos rfl, List.getLast?_eq_some_getLast hne]
      rfl
    · rw [nextCursor, decide_eq_false hmore]
      rfl
  case past =>
    rw [hitems, List.drop_of_length_le (by omega), List.take_nil]

theorem TaskOrder.page_outOfRange (hfits : fitsInteger ((page - 1) * n) = false) :
    o.page s tasks (.numbered n page) = .error .outOfRange := by
  rw [TaskOrder.page, TaskOrder.numberedPage, hfits]
  rfl

end Pages

/-! ## Queries -/

/-- The query for the first page. -/
def TaskQuery.first (q : TaskQuery) : TaskQuery :=
  { q with page := 1 }

/-- The size of the pages of a query. -/
def TaskQuery.pageSize (q : TaskQuery) (c : Settings) : Int :=
  q.perPage.getD c.pages.usual

section Parameters

variable {l : TaskQuery.Limits} {params : Fields} {q : TaskQuery}

/-- A count that is stated is from one on, and up to the limit if there is one. -/
theorem bounds_of_readCount {name : String} {most v : Option Int}
    (h : TaskQuery.readCount params name most = .ok (.valid v)) :
    ∀ n ∈ v, 1 ≤ n ∧ ∀ m ∈ most, n ≤ m := by
  unfold TaskQuery.readCount at h
  dsimp only at h
  split_ifs at h
  · obtain rfl := Validated.valid.inj (Except.ok.inj h)
    exact nofun
  · split at h
    · exact absurd h (by simp [TaskQuery.reject])
    · intro n hn
      rcases most with _ | m <;> dsimp only at h <;> split_ifs at h with hbounds
      · obtain rfl := Validated.valid.inj (Except.ok.inj h)
        obtain rfl := Option.mem_some.1 hn
        exact ⟨hbounds, nofun⟩
      · exact absurd h (by simp [TaskQuery.reject])
      · obtain rfl := Validated.valid.inj (Except.ok.inj h)
        obtain rfl := Option.mem_some.1 hn
        simp only [Bool.and_eq_true, decide_eq_true_eq] at hbounds
        exact ⟨hbounds.1, fun m' hm' => Option.mem_some.1 hm' ▸ hbounds.2⟩
      · exact absurd h (by simp [TaskQuery.reject])
    · exact absurd h (by simp [TaskQuery.reject])
    · exact absurd h (by simp [TaskQuery.reject])
    · exact absurd h (by simp)

/-- The counts of a query that is accepted are within their limits. -/
theorem counts_of_ofParameters (h : TaskQuery.ofParameters l params = .ok (.valid q)) :
    (∀ n ∈ q.perPage, 1 ≤ n ∧ n ≤ l.perPage) ∧ 1 ≤ q.page := by
  obtain ⟨-, -, hperPage, page, hpage, hnumber⟩ := parts_of_ofParameters h
  refine ⟨fun n hn => ?_, ?_⟩
  · obtain ⟨hone, hmost⟩ := bounds_of_readCount hperPage n hn
    exact ⟨hone, hmost _ rfl⟩
  · rw [← hnumber]
    rcases page with _ | n
    · exact le_rfl
    · exact (bounds_of_readCount hpage n rfl).1

end Parameters

section Listings

variable {c : Settings} {now : Moment} {s : Store} {b : Board} {userId : String} {q : TaskQuery}

theorem pageSize_pos (hpages : 0 < c.pages.usual)
    (hperPage : ∀ n ∈ q.perPage, 1 ≤ n ∧ n ≤ c.pages.most) : 0 < q.pageSize c := by
  rw [TaskQuery.pageSize]
  rcases hq : q.perPage with _ | n
  · exact hpages
  · exact (hperPage n hq).1

/-- Counts within their limits are taken as they are. -/
theorem choosePager_within (hperPage : ∀ n ∈ q.perPage, 1 ≤ n ∧ n ≤ c.pages.most) {page : Int}
    (hpage : 1 ≤ page) :
    choosePager c.pages ((q.perPage.map Json.int).getD .null) (.int page) .null
      = .ok (.numbered (q.pageSize c) page) := by
  have hclamp : c.pages.clamp ((q.perPage.map Json.int).getD .null) = .ok (q.pageSize c) := by
    rw [TaskQuery.pageSize]
    rcases hq : q.perPage with _ | n
    · rfl
    · obtain ⟨hone, hmost⟩ := hperPage n hq
      have hn : max 1 (min n c.pages.most) = n := by omega
      exact congrArg Except.ok hn
  have htruthy : (Json.int page).truthy = true := bne_iff_ne.2 (by omega)
  rw [choosePager, hclamp, ok_bind, if_neg (by decide), Json.orElse, if_pos htruthy]
  exact congrArg (fun page => Except.ok (Pager.numbered _ page)) (max_eq_right hpage)

/-- A query for a page by number is refused as it would be for the first page, or else it is
answered exactly if the start of the page fits 64 bits. -/
theorem listTasks_numbered (hcursor : q.cursor = none) (hpages : 0 < c.pages.usual)
    (hperPage : ∀ n ∈ q.perPage, 1 ≤ n ∧ n ≤ c.pages.most) (hpage : 1 ≤ q.page) :
    (∃ e, listTasks c now s b userId q.first = .error e
        ∧ listTasks c now s b userId q = .error e)
      ∨ (fitsInteger ((q.page - 1) * q.pageSize c) = true
        ∧ ∃ a, listTasks c now s b userId q = .ok a)
      ∨ fitsInteger ((q.page - 1) * q.pageSize c) = false
        ∧ listTasks c now s b userId q = .error (.fault .outOfRange) := by
  have hpager : choosePager c.pages ((q.perPage.map Json.int).getD .null) (.int q.page)
      (.ofOption q.cursor) = .ok (.numbered (q.pageSize c) q.page) := by
    rw [hcursor]
    exact choosePager_within hperPage hpage
  have hfirst : choosePager c.pages ((q.perPage.map Json.int).getD .null) (.int 1)
      (.ofOption q.cursor) = .ok (.numbered (q.pageSize c) 1) := by
    rw [hcursor]
    exact choosePager_within hperPage le_rfl
  obtain ⟨o, warning, horder⟩ := q.exists_chosenOrder c (s.schema b)
  rcases listTasks_paged now userId horder hpager hfirst with
    hrefused | ⟨tasks, ⟨p, a, hp, ha⟩ | ⟨f, hf, he⟩⟩
  · exact .inl hrefused
  · refine .inr (.inl ⟨?_, a, ha⟩)
    by_contra hfits
    rw [TaskOrder.page_outOfRange (by simpa using hfits)] at hp
    exact absurd hp (by simp)
  · rcases hfits : fitsInteger ((q.page - 1) * q.pageSize c) with _ | _
    · rw [TaskOrder.page_outOfRange hfits] at hf
      obtain rfl := Except.error.inj hf
      exact .inr (.inr ⟨rfl, he⟩)
    · obtain ⟨p, hp, -⟩ := TaskOrder.page_slices (pageSize_pos hpages hperPage) hpage hfits
      exact absurd (hp.symm.trans hf) (by simp)

end Listings

section Requests

variable {c : Settings} {s : Store} {b : Board} {board : String} {r : Request} {u : User}
  {q : TaskQuery} {o : TaskOrder} {warning : Option QueryWarning}

/-- What a request for a page by number comes to. If it is not refused as the same request for the
first page would be, it is answered with the slice of one list that the number asks for, unless the
start of the page goes beyond 64 bits: then it ends in an internal error. -/
theorem numbered_page_slices (now : Moment) (hlists : r.ListsTasks board)
    (hboard : s.board? board = some b) (hu : authorize s r b = .ok u)
    (hq : TaskQuery.ofParameters c.limits r.parameters = .ok (.valid q)) (hcursor : q.cursor = none)
    (hpages : 0 < c.pages.usual) (hkeyed : s.WellKeyed) (hrows : s.UniqueRows)
    (horder : q.chosenOrder c (s.schema b) = .ok (o, warning)) (hshaped : o.Shaped s) :
    (∃ e, listTasks c now s b u.id q.first = .error e
        ∧ (handle c now s r).1 = .ofRefusal 400 e)
      ∨ (fitsInteger ((q.page - 1) * q.pageSize c) = true ∧ ∃ tasks list s' l,
        q.selected now s b u.id = .ok tasks ∧ o.Arranges s tasks list
          ∧ l.page.Slices list (q.pageSize c) q.page
          ∧ (handle c now s r).1 = listingReply s' u.id q l)
      ∨ fitsInteger ((q.page - 1) * q.pageSize c) = false
        ∧ (handle c now s r).1 = Reply.crash := by
  obtain ⟨hperPage, hpage⟩ := counts_of_ofParameters hq
  rw [handle_query hlists hboard hu hq]
  rcases listTasks_numbered hcursor hpages hperPage hpage with
    ⟨e, hfirst, h⟩ | ⟨hfits, ⟨s', l⟩, h⟩ | ⟨hfits, h⟩
  · rw [h]
    exact .inl ⟨e, hfirst, rfl⟩
  · obtain ⟨tasks, warning', pager, hselected, horder', hpager, hp⟩ := listTasks_eq_ok h
    obtain ⟨rfl, rfl⟩ := Prod.mk.inj (Except.ok.inj (horder.symm.trans horder'))
    rw [hcursor] at hpager
    obtain rfl := Except.ok.inj ((choosePager_within hperPage hpage).symm.trans hpager)
    obtain ⟨p, hp', hslices⟩ := TaskOrder.page_slices (pageSize_pos hpages hperPage) hpage hfits
    obtain rfl := Except.ok.inj (hp'.symm.trans hp)
    have hsub := selected_sublist hselected
    have harranges := TaskOrder.sortTasks_arranges hrows (hkeyed.ids.sublist (hsub.map _))
      fun t ht => TaskOrder.cell_sound hkeyed hshaped (hsub.subset ht)
    rw [h]
    exact .inr (.inl ⟨hfits, tasks, _, s', l, hselected, harranges, hslices, rfl⟩)
  · rw [h]
    exact .inr (.inr ⟨hfits, rfl⟩)

end Requests

namespace Sample

/-- The request for a page of the tasks of the board. -/
def pageRequest (page : Int) : Request :=
  { stageRequest with body := .document (.obj [("page", .int page)]) }

/-- The query that it states. -/
def pageQuery (page : Int) : TaskQuery :=
  { cursorQuery "" with page }

theorem pageRequest_listsTasks {page : Int} : (pageRequest page).ListsTasks "board" :=
  ⟨savedRequest_route "", .inr rfl, rfl⟩

theorem ofParameters_pageRequest (page : Int) (h : 1 ≤ page) :
    TaskQuery.ofParameters Settings.usual.limits (pageRequest page).parameters
      = .ok (.valid (pageQuery page)) := by
  have hcount : TaskQuery.readCount (pageRequest page).parameters "page" none
      = .ok (.valid (some page)) :=
    congrArg Except.ok (if_pos h)
  rw [TaskQuery.ofParameters, hcount]
  rfl

theorem pageQuery_selected (page : Int) (userId : String) :
    (pageQuery page).selected Moment.first twoBoards board userId = .ok twoBoards.tasks := rfl

/-- The first page is answered. -/
theorem pageQuery_first (page : Int) (userId : String) : ∃ a,
    listTasks .usual Moment.first twoBoards board userId (pageQuery page).first = .ok a :=
  listTasks_of_selected rfl (pageQuery_selected 1 userId) rfl rfl rfl

theorem pageQuery_order (page : Int) :
    (pageQuery page).chosenOrder .usual (twoBoards.schema board)
      = .ok (defaultOrder .last, none) := by
  have hdirection : statedDescending (.str "asc") = .ok false := rfl
  change chooseOrder .last (twoBoards.schema board) .null (.str "asc") = _
  rw [schema_twoBoards, chooseOrder, hdirection]
  rfl

end Sample

section Examples

open Sample

/-- The third page of a board with one task is empty. -/
theorem numbered_page_slices_past :
    ∃ u s' l, authorize twoBoards (pageRequest 3) board = .ok u
      ∧ (handle .usual Moment.first twoBoards (pageRequest 3)).1
        = listingReply s' u.id (pageQuery 3) l
      ∧ l.page.items = [] ∧ l.page.total = 1 ∧ l.page.hasMore = false := by
  obtain ⟨u, hu⟩ := authorize_twoBoards
  have hu : authorize twoBoards (pageRequest 3) board = .ok u := hu
  have hshaped : (defaultOrder .last).Shaped twoBoards := nofun
  rcases numbered_page_slices (c := .usual) Moment.first pageRequest_listsTasks rfl hu
    (ofParameters_pageRequest 3 (by decide)) rfl (by decide) ⟨by decide, by decide⟩ (by decide)
    (pageQuery_order 3) hshaped with ⟨e, he, -⟩ | ⟨-, tasks, list, s', l, hselected, harranges,
      hslices, hreply⟩ | ⟨hfits, -⟩
  · obtain ⟨a, ha⟩ := pageQuery_first 3 u.id
    exact absurd (ha.symm.trans he) (by simp)
  · obtain rfl := Except.ok.inj ((pageQuery_selected 3 u.id).symm.trans hselected)
    have hlength : list.length = 1 := harranges.perm.length_eq
    refine ⟨u, s', l, hu, hreply, hslices.past ?_, ?_, ?_⟩
    · rw [hlength]
      decide
    · rw [hslices.total, hlength]
    · refine Bool.eq_false_iff.2 fun hmore => absurd (hslices.hasMore.1 hmore) ?_
      rw [hlength]
      decide
  · exact absurd hfits (by decide)

/-- A page number is accepted whose page is an internal error, where the first page is answered. -/
theorem numbered_page_crashes :
    TaskQuery.ofParameters Settings.usual.limits (pageRequest (2 ^ 63)).parameters
        = .ok (.valid (pageQuery (2 ^ 63)))
      ∧ (∃ u a, authorize twoBoards (pageRequest (2 ^ 63)) board = .ok u
        ∧ listTasks .usual Moment.first twoBoards board u.id (pageQuery (2 ^ 63)).first = .ok a)
      ∧ (handle .usual Moment.first twoBoards (pageRequest (2 ^ 63))).1.status = 500 := by
  obtain ⟨u, hu⟩ := authorize_twoBoards
  have hu : authorize twoBoards (pageRequest (2 ^ 63)) board = .ok u := hu
  have hq := ofParameters_pageRequest (2 ^ 63) (by decide)
  obtain ⟨a, ha⟩ := pageQuery_first (2 ^ 63) u.id
  refine ⟨hq, ⟨u, a, hu, ha⟩, ?_⟩
  rw [handle_query pageRequest_listsTasks rfl hu hq]
  rcases listTasks_numbered (c := .usual) (q := pageQuery (2 ^ 63)) rfl (by decide) nofun
    (by decide) with ⟨e, he, -⟩ | ⟨hfits, -⟩ | ⟨-, h⟩
  · exact absurd (ha.symm.trans he) (by simp)
  · exact absurd hfits (by decide)
  · rw [h]
    rfl

end Examples

end BoardQuery
