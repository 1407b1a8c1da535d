import BoardQuery.Proofs.Api.Runs
import BoardQuery.Proofs.Query.PageRows
import BoardQuery.Proofs.Sample
import BoardQuery.Proofs.Service.Listings

/-!
# Chains of pages

A client reads a first page and follows the cursors to the end, while other requests are carried
out between its reads (`PageChain`). The rows come in order, every task that stays selected and in
its place is listed exactly once, and no cursor that was given out is refused
(`pageChain_lists_each_once`). The invariant is that the pages from a cursor on hold what comes
after the place that the cursor stands for.
-/

namespace BoardQuery

open Std

/-- A page as a client has read it. -/
structure PageRead where
  now : Moment
  perPage : Option Int
  before : Store
  after : Store
  listing : Listing
  /-- What is requested of the service before the next page is read. -/
  meanwhile : List (Moment × Request)

namespace PageRead

/-- The tasks on the page. -/
def items (r : PageRead) : List Task := r.listing.page.items

/-- The rows on the page, as they were when it was read. -/
def rows (o : TaskOrder) (r : PageRead) : List RowKey := r.items.map (o.rowKey r.before)

/-- Whether a task was selected when the page was read. -/
def Selects (b : Board) (userId : String) (q : TaskQuery) (r : PageRead) (t : Task) : Prop :=
  ∃ tasks, q.selected r.now r.before b userId = .ok tasks ∧ t ∈ tasks

end PageRead

/-- The pages that a client reads from a cursor on, each by the cursor of the one before, until
there is no cursor. -/
inductive PageChain (c : Settings) (b : Board) (userId : String) (q : TaskQuery) :
    Option String → Store → List PageRead → Prop
  | last {cursor : Option String} {r : PageRead}
    (hread : listTasks c r.now r.before b userId (q.readOn r.perPage cursor)
      = .ok (r.after, r.listing))
    (hend : r.listing.page.nextCursor = none) : PageChain c b userId q cursor r.before [r]
  | next {cursor : Option String} {r : PageRead} {next : String} {rest : List PageRead}
    (hread : listTasks c r.now r.before b userId (q.readOn r.perPage cursor)
      = .ok (r.after, r.listing))
    (hnext : r.listing.page.nextCursor = some next)
    (hrest : PageChain c b userId q (some next) (serve c r.after r.meanwhile) rest) :
    PageChain c b userId q cursor r.before (r :: rest)

/-- Whether no value in the column of an order is NaN, which no canonical value is. -/
def TaskOrder.Shaped (o : TaskOrder) (s : Store) : Prop :=
  ∀ columnId, o.key = .column columnId → ∀ v ∈ s.values, v.columnId = columnId → v.value ≠ .num .nan

theorem TaskOrder.Shaped.of_values {o : TaskOrder} {s s' : Store} (h : o.Shaped s)
    (hvalues : s'.values = s.values) : o.Shaped s' := by
  intro columnId hkey v hv
  rw [hvalues] at hv
  exact h columnId hkey v hv

theorem Cell.sound_ofStored {v : Json} (h : v ≠ .num .nan) : (Cell.ofStored v).Sound := by
  rcases v with _ | b | n | (_ | ⟨negative, code, le⟩) | s | items | fields
  · trivial
  · cases b <;> exact rfl
  · rw [ofStored]
    split_ifs with hfits
    · exact hfits
    · exact fun hnan => Binary64.noConfusion hnan
  · exact absurd rfl h
  · exact fun hnan => Binary64.noConfusion hnan
  · trivial
  · trivial
  · trivial

theorem TaskOrder.cell_sound {o : TaskOrder} {s : Store} {t : Task} (hs : s.WellKeyed)
    (hshaped : o.Shaped s) (ht : t ∈ s.tasks) : (o.cell s t).Sound := by
  rcases hkey : o.key with a | columnId
  · have hposition := hs.positions t ht
    have htext (m : Option String) : (Cell.ofText? m).Sound := by
      rcases m with _ | m <;> trivial
    simp only [cell, hkey]
    cases a
    case position => exact hposition
    case description => exact htext _
    case assignee => exact htext _
    case creator => exact htext _
    case dueDate => exact htext _
    case startDate => exact htext _
    case completedAt => exact htext _
    case archivedAt => exact htext _
    all_goals trivial
  · simp only [cell, hkey, Store.value?]
    rcases hfind : s.values.find? fun v => v.taskId == t.id && v.columnId == columnId with _ | v
    · rw [hfind]
      trivial
    · have hv := List.find?_some hfind
      rw [Bool.and_eq_true, beq_iff_eq, beq_iff_eq] at hv
      rw [hfind]
      exact Cell.sound_ofStored (hshaped columnId hkey v (List.mem_of_find?_eq_some hfind) hv.2)

section Chain

variable {c : Settings} {b : Board} {userId : String} {q : TaskQuery} {o : TaskOrder}

/-- What holds of a store before and after every read: tasks are told apart by their ids, and the
query asks for the same order. -/
structure Readable (c : Settings) (b : Board) (q : TaskQuery) (o : TaskOrder) (s : Store) :
    Prop where
  keyed : s.WellKeyed
  order : ∃ warning, q.chosenOrder c (s.schema b) = .ok (o, warning)

theorem Readable.after_serve {s : Store} (h : Readable c b q o s)
    (requests : List (Moment × Request)) :
    Readable c b q o (serve c s requests) where
  keyed := serve_wellKeyed requests h.keyed
  order := by
    rw [(serve_sameSchema c s requests).schema_eq b]
    exact h.order

theorem Readable.after_listTasks {now : Moment} {s s' : Store} {q' : TaskQuery} {l : Listing}
    (h : Readable c b q o s) (hread : listTasks c now s b userId q' = .ok (s', l)) :
    Readable c b q o s' where
  keyed := h.keyed.of_tasks (listTasks_sameButFilters hread).tasks
  order := by
    rw [(listTasks_sameButFilters hread).schema_eq b]
    exact h.order

theorem selected_sublist {now : Moment} {s : Store} {tasks : List Task}
    (h : q.selected now s b userId = .ok tasks) : tasks.Sublist s.tasks := by
  simp only [TaskQuery.selected, bind_eq_ok, pure_eq_ok] at h
  obtain ⟨⟨raw, applied⟩, -, tree, -, rfl⟩ := h
  exact List.filter_sublist

/-- A page that is read by a cursor holds what comes after the place of the cursor. -/
theorem read_pageAfter (hpages : 0 < c.pages.usual) {r : PageRead} {k : Option RowKey}
    {cursor : Option String} (hready : Readable c b q o r.before) (hshaped : o.Shaped r.before)
    (hmark : o.Marks k cursor)
    (hread : listTasks c r.now r.before b userId (q.readOn r.perPage cursor)
      = .ok (r.after, r.listing)) :
    ∃ tasks, q.selected r.now r.before b userId = .ok tasks ∧ (tasks.map (·.id)).Nodup
      ∧ (∀ t ∈ tasks, (o.cell r.before t).Sound) ∧ o.PageAfter k r.before tasks r.listing.page := by
  obtain ⟨tasks, warning, pager, htasks, horder, hpager, hpage⟩ := listTasks_eq_ok hread
  have htasks : q.selected r.now r.before b userId = .ok tasks := htasks
  obtain ⟨warning', horder'⟩ := hready.order
  have hsame : r.listing.order = o := by
    have heq := horder.symm.trans horder'
    exact (Prod.mk.inj (Except.ok.inj heq)).1
  have hsub := selected_sublist htasks
  have hids := hready.keyed.ids.sublist (hsub.map _)
  have hsound t ht := TaskOrder.cell_sound hready.keyed hshaped (hsub.subset (a := t) ht)
  obtain ⟨pager', p, hpager', hpage', hafter⟩ :=
    TaskOrder.page_after hpages hids hsound hmark r.perPage
  obtain rfl := Except.ok.inj (hpager.symm.trans hpager')
  rw [hsame, hpage'] at hpage
  obtain rfl := Except.ok.inj hpage
  exact ⟨tasks, htasks, hids, hsound, hafter⟩

end Chain

/-! ## From places to the pages after them -/

/-- Pages that list what comes after a place, with the places between them. -/
inductive Covers (b : Board) (userId : String) (q : TaskQuery) (o : TaskOrder) :
    Option RowKey → List PageRead → Prop
  | last {k : Option RowKey} {r : PageRead} {tasks : List Task}
    (hselected : q.selected r.now r.before b userId = .ok tasks) (hids : (tasks.map (·.id)).Nodup)
    (hsound : ∀ t ∈ tasks, (o.cell r.before t).Sound)
    (hitems : r.items = o.tasksAfter k r.before tasks)
    (hcursor : r.listing.page.nextCursor = none) : Covers b userId q o k [r]
  | next {k : Option RowKey} {r : PageRead} {rest : List PageRead} {tasks : List Task} {t : Task}
    (hselected : q.selected r.now r.before b userId = .ok tasks) (hids : (tasks.map (·.id)).Nodup)
    (hsound : ∀ t ∈ tasks, (o.cell r.before t).Sound) (hlast : r.items.getLast? = some t)
    (hitems : r.items ++ o.tasksAfter (some (o.rowKey r.before t)) r.before tasks
      = o.tasksAfter k r.before tasks)
    (hcursor : r.listing.page.nextCursor = some (o.cursorAfter r.before t))
    (hrest : Covers b userId q o (some (o.rowKey r.before t)) rest) :
    Covers b userId q o k (r :: rest)

section Covering

variable {c : Settings} {b : Board} {userId : String} {q : TaskQuery} {o : TaskOrder}
  {reads : List PageRead} {k : Option RowKey}

theorem PageChain.covers (hpages : 0 < c.pages.usual) (ho : o.Cursored) {s : Store}
    {cursor : Option String} (hchain : PageChain c b userId q cursor s reads)
    (hready : Readable c b q o s) (hshaped : ∀ r ∈ reads, o.Shaped r.before)
    (hmark : o.Marks k cursor) : Covers b userId q o k reads := by
  induction hchain generalizing k with
  | @last cursor r hread hend =>
    obtain ⟨tasks, hselected, hids, hsound, hafter⟩ :=
      read_pageAfter hpages hready (hshaped r List.mem_cons_self) hmark hread
    cases hafter with
    | last hitems => exact .last hselected hids hsound hitems hend
    | more hlast hrest hcursor => exact absurd (hend.symm.trans hcursor) (by simp)
  | @next cursor r next rest hread hnext hrest ih =>
    obtain ⟨tasks, hselected, hids, hsound, hafter⟩ :=
      read_pageAfter hpages hready (hshaped r List.mem_cons_self) hmark hread
    cases hafter with
    | last hitems hcursor => exact absurd (hnext.symm.trans hcursor) (by simp)
    | @more t hlast hitems hcursor =>
      obtain rfl := Option.some.inj (hnext.symm.trans hcursor)
      have ht := (TaskOrder.mem_of_append_eq hitems (List.mem_of_getLast? hlast)).1
      exact .next hselected hids hsound hlast hitems hnext
        (ih ((hready.after_listTasks hread).after_serve r.meanwhile)
          (fun r' hr' => hshaped r' (List.mem_cons_of_mem r hr')) (ho.marks (hsound t ht)))

/-- Every row on the pages comes after the place. -/
theorem Covers.after (h : Covers b userId q o k reads) :
    ∀ row ∈ reads.flatMap (·.rows o), ∀ place ∈ k, o.keyOrder place row = .lt := by
  induction h with
  | @last k r tasks hselected hids hsound hitems hcursor =>
    intro row hrow place hplace
    rw [List.flatMap_singleton, PageRead.rows, hitems] at hrow
    obtain ⟨t, ht, rfl⟩ := List.mem_map.1 hrow
    exact (TaskOrder.mem_tasksAfter.1 ht).2 place hplace
  | @next k r rest tasks t hselected hids hsound hlast hitems hcursor hrest ih =>
    have hpage u (hu : u ∈ r.items) := (TaskOrder.mem_of_append_eq hitems hu).2
    intro row hrow place hplace
    rcases List.mem_append.1 (List.flatMap_cons ▸ hrow) with hrow | hrow
    · obtain ⟨u, hu, rfl⟩ := List.mem_map.1 hrow
      exact hpage u hu place hplace
    · exact TransCmp.lt_trans (hpage t (List.mem_of_getLast? hlast) place hplace)
        (ih row hrow _ rfl)

/-- The rows come in order. -/
theorem Covers.increasing (h : Covers b userId q o k reads) :
    (reads.flatMap (·.rows o)).Pairwise fun row row' => o.keyOrder row row' = .lt := by
  induction h with
  | @last k r tasks hselected hids hsound hitems hcursor =>
    rw [List.flatMap_singleton, PageRead.rows, hitems, List.pairwise_map]
    exact TaskOrder.tasksAfter_pairwise hids hsound
  | @next k r rest tasks t hselected hids hsound hlast hitems hcursor hrest ih =>
    have hpage := TaskOrder.tasksAfter_pairwise (k := k) hids hsound
    rw [← hitems, List.pairwise_append] at hpage
    obtain ⟨taken, htaken⟩ := List.getLast?_eq_some_iff.1 hlast
    have hupto : ∀ u ∈ r.items, u ≠ t →
        o.keyOrder (o.rowKey r.before u) (o.rowKey r.before t) = .lt := by
      intro u hu hne
      have hsorted := hpage.1
      rw [htaken, List.pairwise_append] at hsorted
      rw [htaken] at hu
      rcases List.mem_append.1 hu with hu | hu
      · exact hsorted.2.2 u hu t List.mem_cons_self
      · exact absurd (List.mem_singleton.1 hu) hne
    rw [List.flatMap_cons, List.pairwise_append]
    refine ⟨?_, ih, ?_⟩
    · rw [PageRead.rows, List.pairwise_map]
      exact hpage.1
    · intro row hrow row' hrow'
      obtain ⟨u, hu, rfl⟩ := List.mem_map.1 hrow
      have hafter := hrest.after row' hrow' _ rfl
      by_cases hne : u = t
      · rw [hne]
        exact hafter
      · exact TransCmp.lt_trans (hupto u hu hne) hafter

theorem Covers.sound (h : Covers b userId q o k reads) :
    ∀ r ∈ reads, ∀ t, r.Selects b userId q t → (o.cell r.before t).Sound := by
  induction h with
  | @last k r tasks hselected hids hsound hitems hcursor =>
    rintro r' hr' t ⟨tasks', htasks', ht⟩
    obtain rfl := List.mem_singleton.1 hr'
    obtain rfl := Except.ok.inj (hselected.symm.trans htasks')
    exact hsound t ht
  | @next k r rest tasks t hselected hids hsound hlast hitems hcursor hrest ih =>
    rintro r' hr' t ⟨tasks', htasks', ht⟩
    rcases List.mem_cons.1 hr' with rfl | hr'
    · obtain rfl := Except.ok.inj (hselected.symm.trans htasks')
      exact hsound t ht
    · exact ih r' hr' t ⟨tasks', htasks', ht⟩

/-- A listed task was selected when its page was read. -/
theorem Covers.selects (h : Covers b userId q o k reads) :
    ∀ r ∈ reads, ∀ t ∈ r.items, r.Selects b userId q t := by
  induction h with
  | @last k r tasks hselected hids hsound hitems hcursor =>
    intro r' hr' t ht
    obtain rfl := List.mem_singleton.1 hr'
    rw [hitems] at ht
    exact ⟨tasks, hselected, (TaskOrder.mem_tasksAfter.1 ht).1⟩
  | @next k r rest tasks t hselected hids hsound hlast hitems hcursor hrest ih =>
    intro r' hr' u hu
    rcases List.mem_cons.1 hr' with rfl | hr'
    · exact ⟨tasks, hselected, (TaskOrder.mem_of_append_eq hitems hu).1⟩
    · exact ih r' hr' u hu

/-- A task that is selected at one place is listed once if the place comes after the one from which
the pages start, and else not at all. -/
theorem count_tasksAfter {s : Store} {tasks : List Task} {place : RowKey}
    (hids : (tasks.map (·.id)).Nodup) {t : Task} (ht : t ∈ tasks)
    (hplace : o.keyOrder (o.rowKey s t) place = .eq) :
    ((o.tasksAfter k s tasks).map (·.id)).count place.id
      = (k.all fun start => o.keyOrder start place == .lt).toNat := by
  have hid : t.id = place.id := o.id_eq_of_keyOrder_eq hplace
  have hnodup : ((o.tasksAfter k s tasks).map (·.id)).Nodup := by
    have hsorted := ((TaskOrder.sortTasks_perm o s tasks).map (·.id)).nodup_iff.2 hids
    exact hsorted.sublist (List.filter_sublist.map _)
  have hmem : place.id ∈ (o.tasksAfter k s tasks).map (·.id)
      ↔ ∀ start ∈ k, o.keyOrder start place = .lt := by
    have hcongr (start : RowKey) :
        o.keyOrder start (o.rowKey s t) = o.keyOrder start place :=
      TransCmp.congr_right hplace
    simp only [← hcongr, List.mem_map]
    constructor
    · rintro ⟨u, hu, huid⟩
      obtain ⟨hu, hafter⟩ := TaskOrder.mem_tasksAfter.1 hu
      obtain rfl := List.inj_on_of_nodup_map hids hu ht (huid.trans hid.symm)
      exact hafter
    · exact fun hafter => ⟨t, TaskOrder.mem_tasksAfter.2 ⟨ht, hafter⟩, hid⟩
  rw [hnodup.count]
  rcases k with _ | start
  · simp [hmem]
  · by_cases hlt : o.keyOrder start place = .lt
    · simp [hmem, hlt]
    · simp [hmem, hlt, beq_eq_false_iff_ne.2 hlt]

theorem Covers.count (place : RowKey) (h : Covers b userId q o k reads)
    (hkept : ∀ r ∈ reads, ∃ t, r.Selects b userId q t
      ∧ o.keyOrder (o.rowKey r.before t) place = .eq) :
    ((reads.flatMap (·.items)).map (·.id)).count place.id
      = (k.all fun start => o.keyOrder start place == .lt).toNat := by
  induction h with
  | @last k r tasks hselected hids hsound hitems hcursor =>
    obtain ⟨t, ⟨tasks', htasks', ht⟩, hplace⟩ := hkept r List.mem_cons_self
    obtain rfl := Except.ok.inj (hselected.symm.trans htasks')
    rw [List.flatMap_singleton, hitems]
    exact count_tasksAfter hids ht hplace
  | @next k r rest tasks last hselected hids hsound hlast hitems hcursor hrest ih =>
    obtain ⟨t, ⟨tasks', htasks', ht⟩, hplace⟩ := hkept r List.mem_cons_self
    obtain rfl := Except.ok.inj (hselected.symm.trans htasks')
    -- What the page lists and what comes after its last task make up what comes after the place.
    have hall := count_tasksAfter (k := k) hids ht hplace
    rw [← hitems, List.map_append, List.count_append, count_tasksAfter hids ht hplace] at hall
    rw [List.flatMap_cons, List.map_append, List.count_append,
      ih fun r' hr' => hkept r' (List.mem_cons_of_mem r hr')]
    exact hall

theorem rowKey_congr {s s' : Store} (h : s'.values = s.values) : o.rowKey s' = o.rowKey s := by
  funext t
  simp only [TaskOrder.rowKey, TaskOrder.cell, Store.value?, h]

theorem tasksAfter_congr {s s' : Store} (h : s'.values = s.values) (tasks : List Task) :
    o.tasksAfter k s' tasks = o.tasksAfter k s tasks := by
  simp only [TaskOrder.tasksAfter, TaskOrder.sortTasks, TaskOrder.sortRows, rowKey_congr h]

theorem resumes_congr {s s' : Store} (h : s'.values = s.values) {tasks : List Task} {t : Task} :
    o.Resumes s' tasks t ↔ o.Resumes s tasks t := by
  rw [TaskOrder.Resumes, TaskOrder.Resumes, tasksAfter_congr h, tasksAfter_congr h, rowKey_congr h]

/-- Without changes in between, the pages make up the sorted list. -/
theorem Covers.static (s : Store) (tasks : List Task) (h : Covers b userId q o k reads)
    (hstatic : ∀ r ∈ reads, r.before.values = s.values
      ∧ q.selected r.now r.before b userId = .ok tasks) :
    reads.flatMap (·.items) = o.tasksAfter k s tasks := by
  induction h with
  | @last k r tasks' hselected hids hsound hitems hcursor =>
    obtain ⟨hvalues, htasks⟩ := hstatic r List.mem_cons_self
    obtain rfl := Except.ok.inj (hselected.symm.trans htasks)
    rw [List.flatMap_singleton, hitems, tasksAfter_congr hvalues]
  | @next k r rest tasks' t hselected hids hsound hlast hitems hcursor hrest ih =>
    obtain ⟨hvalues, htasks⟩ := hstatic r List.mem_cons_self
    obtain rfl := Except.ok.inj (hselected.symm.trans htasks)
    rw [List.flatMap_cons, ih fun r' hr' => hstatic r' (List.mem_cons_of_mem r hr'),
      ← tasksAfter_congr hvalues, hitems, tasksAfter_congr hvalues]

end Covering

/-! ## Chains -/

section Chains

variable {c : Settings} {b : Board} {userId : String} {q : TaskQuery} {o : TaskOrder}
  {reads : List PageRead}

/-- Whether a task is selected at every page, always at the same place in the order. -/
structure KeepsPlace (b : Board) (userId : String) (q : TaskQuery) (o : TaskOrder)
    (reads : List PageRead) (id : String) : Prop where
  selected : ∀ r ∈ reads, ∃ t, r.Selects b userId q t ∧ t.id = id
  place : ∀ r ∈ reads, ∀ r' ∈ reads, ∀ t t', r.Selects b userId q t → r'.Selects b userId q t' →
    t.id = id → t'.id = id → o.compareRows (o.rowKey r.before t) (o.rowKey r'.before t') = .eq

/-- A task that is selected at every page with the same row keeps its place. -/
theorem KeepsPlace.of_rows {t : Task} (row : RowKey) (hrow : row.value.Sound)
    (h : ∀ r ∈ reads, r.before.WellKeyed ∧ r.Selects b userId q t ∧ o.rowKey r.before t = row) :
    KeepsPlace b userId q o reads t.id where
  selected r hr := ⟨t, (h r hr).2.1, rfl⟩
  place r hr r' hr' u u' hu hu' hid hid' := by
    have honly (r : PageRead) (hr : r ∈ reads) (u : Task) (hu : r.Selects b userId q u)
        (hid : u.id = t.id) : o.rowKey r.before u = row := by
      obtain ⟨hkeyed, ⟨tasks, htasks, ht⟩, hrow⟩ := h r hr
      obtain ⟨tasks', htasks', hu⟩ := hu
      obtain rfl := Except.ok.inj (htasks.symm.trans htasks')
      have hsub := selected_sublist htasks
      rw [List.inj_on_of_nodup_map hkeyed.ids (hsub.subset hu) (hsub.subset ht) hid, hrow]
    rw [honly r hr u hu hid, honly r' hr' u' hu' hid', o.compareRows_eq hrow hrow, o.keyOrder_self]
/-- Nothing is requested between the pages, so each is read from a store that selects as the first
one did. -/
theorem PageChain.selectsAlike {s : Store} {cursor : Option String}
    (hchain : PageChain c b userId q cursor s reads) (hquiet : ∀ r ∈ reads, r.meanwhile = []) :
    ∀ r ∈ reads, s.SelectsAlike r.before := by
  induction hchain with
  | last hread hend =>
    intro r' hr'
    obtain rfl := List.mem_singleton.1 hr'
    exact .refl _
  | @next cursor r next rest hread hnext hrest ih =>
    intro r' hr'
    rcases List.mem_cons.1 hr' with rfl | hr'
    · exact .refl _
    · have hafter := ih (fun r' hr' => hquiet r' (List.mem_cons_of_mem r hr')) r' hr'
      rw [hquiet r List.mem_cons_self] at hafter
      exact (listTasks_selectsAlike hread).trans hafter

theorem PageChain.readable {s : Store} {cursor : Option String}
    (hchain : PageChain c b userId q cursor s reads) (hready : Readable c b q o s) :
    ∀ r ∈ reads, Readable c b q o r.after := by
  induction hchain with
  | last hread hend =>
    intro r' hr'
    obtain rfl := List.mem_singleton.1 hr'
    exact hready.after_listTasks hread
  | @next cursor r next rest hread hnext hrest ih =>
    intro r' hr'
    rcases List.mem_cons.1 hr' with rfl | hr'
    · exact hready.after_listTasks hread
    · exact ih ((hready.after_listTasks hread).after_serve r.meanwhile) r' hr'

/-- Every cursor that is given out stands for a place. -/
theorem Covers.marks {k : Option RowKey} (h : Covers b userId q o k reads) :
    ∀ r ∈ reads, ∀ next ∈ r.listing.page.nextCursor, ∃ place, o.Marks (some place) (some next) := by
  induction h with
  | @last k r tasks hselected hids hsound hitems hcursor =>
    intro r' hr' next hnext
    obtain rfl := List.mem_singleton.1 hr'
    exact absurd (hcursor.symm.trans hnext) (by simp)
  | @next k r rest tasks t hselected hids hsound hlast hitems hcursor hrest ih =>
    intro r' hr' next hnext
    rcases List.mem_cons.1 hr' with rfl | hr'
    · obtain rfl := Option.some.inj (hcursor.symm.trans hnext)
      have ht := (TaskOrder.mem_of_append_eq hitems (List.mem_of_getLast? hlast)).1
      exact ⟨_, .after (hsound t ht)⟩
    · exact ih r' hr' next hnext

/-- A cursor that stands for a place is answered whenever the first page is. -/
theorem Readable.answers {now : Moment} {s : Store} {place : RowKey} {next : String}
    {perPage : Option Int} (hready : Readable c b q o s) (hpages : 0 < c.pages.usual)
    (hshaped : o.Shaped s) (hmark : o.Marks (some place) (some next))
    (hfirst : ∃ a, listTasks c now s b userId (q.readOn perPage none) = .ok a) :
    ∃ a, listTasks c now s b userId (q.readOn perPage (some next)) = .ok a := by
  obtain ⟨a, ha⟩ := hfirst
  refine listTasks_readOn ha fun tasks o' warning htasks horder => ?_
  obtain ⟨warning', horder'⟩ := hready.order
  obtain ⟨rfl, -⟩ := Prod.mk.inj (Except.ok.inj (horder.symm.trans horder'))
  have hsub := selected_sublist htasks
  obtain ⟨pager, p, hpager, hpage, -⟩ := TaskOrder.page_after hpages
    (hready.keyed.ids.sublist (hsub.map _))
    (fun t ht => TaskOrder.cell_sound hready.keyed hshaped (hsub.subset ht)) hmark perPage
  exact ⟨pager, p, hpager, hpage⟩

/-- If nothing is requested in between, a client comes to the end, from any cursor. -/
theorem exists_pageChain_from (hpages : 0 < c.pages.usual) (hsave : q.saveFilter = false)
    {now : Moment} (perPage : Option Int) {tasks : List Task} :
    (n : Nat) → {s : Store} → {k : Option RowKey} → {cursor : Option String} →
    Readable c b q o s → o.Shaped s → q.selected now s b userId = .ok tasks →
    (∀ t ∈ tasks, o.Resumes s tasks t) → o.Marks k cursor → (o.tasksAfter k s tasks).length ≤ n →
    ∃ reads, PageChain c b userId q cursor s reads ∧ ∀ r ∈ reads,
      (r.now = now ∧ r.meanwhile = [] ∧ r.before.values = s.values) ∧ r.perPage = perPage
  | n, s, k, cursor, hready, hshaped, hselected, hresumes, hmark, hn => by
    have hsub := selected_sublist hselected
    obtain ⟨warning, horder⟩ := hready.order
    obtain ⟨pager, p, hpager, hpage, -⟩ := TaskOrder.page_after hpages
      (hready.keyed.ids.sublist (hsub.map _))
      (fun t ht => TaskOrder.cell_sound hready.keyed hshaped (hsub.subset ht)) hmark perPage
    obtain ⟨⟨s', l⟩, hread⟩ := listTasks_of_selected (q := q.readOn perPage cursor) hsave hselected
      horder hpager hpage
    let r : PageRead := ⟨now, perPage, s, s', l, []⟩
    obtain ⟨tasks', hselected', -, -, hafter⟩ :=
      read_pageAfter (r := r) hpages hready hshaped hmark hread
    obtain rfl := Except.ok.inj (hselected.symm.trans hselected')
    have halike := listTasks_selectsAlike hread
    cases hafter with
    | last hitems hcursor =>
      exact ⟨[r], .last hread hcursor, fun r' hr' => by
        rw [List.mem_singleton.1 hr']
        exact ⟨⟨rfl, rfl, rfl⟩, rfl⟩⟩
    | @more t hlast hitems hcursor =>
      have hlt : (o.tasksAfter (some (o.rowKey s t)) s tasks).length < n := by
        have hlength := congrArg List.length hitems
        rw [List.length_append] at hlength
        have hpos : 0 < r.listing.page.items.length :=
          List.length_pos_of_mem (List.mem_of_getLast? hlast)
        have hbefore : (o.tasksAfter k r.before tasks).length ≤ n := hn
        have hrest : (o.tasksAfter (some (o.rowKey r.before t)) r.before tasks).length
          = (o.tasksAfter (some (o.rowKey s t)) s tasks).length := rfl
        omega
      have ht := (TaskOrder.mem_of_append_eq hitems (List.mem_of_getLast? hlast)).1
      have hsame := halike.same.values
      have hrest := (tasksAfter_congr hsame tasks).trans (hresumes t ht)
      obtain ⟨reads, hchain, hreads⟩ := exists_pageChain_from hpages hsave perPage
        (o.tasksAfter (some (o.rowKey s t)) s tasks).length (hready.after_listTasks hread)
        (hshaped.of_values hsame) (selected_selectsAlike halike hselected)
        (fun u hu => (resumes_congr hsame).2 (hresumes u hu))
        (.after (TaskOrder.cell_sound hready.keyed hshaped (hsub.subset ht)))
        (Nat.le_of_eq (congrArg List.length hrest))
      refine ⟨r :: reads, .next hread hcursor hchain, fun r' hr' => ?_⟩
      rcases List.mem_cons.1 hr' with rfl | hr'
      · exact ⟨⟨rfl, rfl, rfl⟩, rfl⟩
      · obtain ⟨⟨hnow, hquiet, hvalues⟩, hsize⟩ := hreads r' hr'
        exact ⟨⟨hnow, hquiet, hvalues.trans hsame⟩, hsize⟩
  termination_by n => n

/-- A client that nobody else interferes with comes to the end. -/
theorem exists_pageChain {s : Store} {warning : Option QueryWarning} {now : Moment}
    {tasks : List Task} (hpages : 0 < c.pages.usual) (hkeyed : s.WellKeyed)
    (horder : q.chosenOrder c (s.schema b) = .ok (o, warning)) (ho : o.Cursored)
    (hshaped : o.Shaped s) (hsave : q.saveFilter = false)
    (hselected : q.selected now s b userId = .ok tasks) (perPage : Option Int) :
    ∃ reads, PageChain c b userId q none s reads
      ∧ ∀ r ∈ reads, r.now = now ∧ r.meanwhile = [] ∧ r.before.values = s.values := by
  obtain ⟨reads, hchain, hreads⟩ := exists_pageChain_from hpages hsave perPage
    (o.tasksAfter none s tasks).length ⟨hkeyed, warning, horder⟩ hshaped hselected
    (fun t _ => ho.resumes s tasks t) .start le_rfl
  exact ⟨reads, hchain, fun r hr => (hreads r hr).1⟩

/-- A client reads pages of a query from the first one on until there is no cursor, and anything is
requested in between. The rows it is given are in order, and a task that keeps its place is listed
once. If nothing is requested in between, and the filter does not change its meaning with time, it
is given the sorted list of what the query selects. No cursor that it is given is refused later by a
service that would answer the first page. -/
theorem pageChain_lists_each_once {s : Store} {warning : Option QueryWarning}
    (hpages : 0 < c.pages.usual) (hkeyed : s.WellKeyed)
    (horder : q.chosenOrder c (s.schema b) = .ok (o, warning)) (ho : o.Cursored)
    (hchain : PageChain c b userId q none s reads) (hshaped : ∀ r ∈ reads, o.Shaped r.before) :
    ((reads.flatMap (·.rows o)).Pairwise fun row row' => o.compareRows row row' = .lt)
      ∧ (∀ id, KeepsPlace b userId q o reads id →
        ((reads.flatMap (·.items)).map (·.id)).count id = 1)
      ∧ (∀ tasks, (∀ r ∈ reads, r.meanwhile = [] ∧ q.selected r.now s b userId = .ok tasks) →
        reads.flatMap (·.items) = (o.sortRows s tasks).map (·.1))
      ∧ ∀ r ∈ reads, ∀ next ∈ r.listing.page.nextCursor, ∀ now perPage requests,
        o.Shaped (serve c r.after requests) →
        (∃ a, listTasks c now (serve c r.after requests) b userId (q.readOn perPage none)
          = .ok a) →
        ∃ a, listTasks c now (serve c r.after requests) b userId (q.readOn perPage (some next))
          = .ok a := by
  have hready : Readable c b q o s := ⟨hkeyed, warning, horder⟩
  have hcovers := hchain.covers hpages ho hready hshaped .start
  refine ⟨?_, fun id hkept => ?_, fun tasks hquiet => ?_, ?_⟩
  · have hsound : ∀ row ∈ reads.flatMap (·.rows o), row.value.Sound := by
      intro row hrow
      obtain ⟨r, hr, hrow⟩ := List.mem_flatMap.1 hrow
      obtain ⟨t, ht, rfl⟩ := List.mem_map.1 hrow
      exact hcovers.sound r hr t (hcovers.selects r hr t ht)
    refine hcovers.increasing.imp_of_mem fun hrow hrow' hlt => ?_
    rw [o.compareRows_eq (hsound _ hrow) (hsound _ hrow')]
    exact hlt
  · have hne : reads ≠ [] := by
      cases hchain <;> simp
    obtain ⟨r₀, hr₀⟩ := List.exists_mem_of_ne_nil reads hne
    obtain ⟨t₀, ht₀, rfl⟩ := hkept.selected r₀ hr₀
    have hcount := hcovers.count (o.rowKey r₀.before t₀) fun r hr => by
      obtain ⟨t, ht, hid⟩ := hkept.selected r hr
      refine ⟨t, ht, ?_⟩
      rw [← o.compareRows_eq (hcovers.sound r hr t ht) (hcovers.sound r₀ hr₀ t₀ ht₀)]
      exact hkept.place r hr r₀ hr₀ t t₀ ht ht₀ hid rfl
    exact hcount
  · have halike := hchain.selectsAlike fun r hr => (hquiet r hr).1
    rw [hcovers.static s tasks fun r hr => ⟨(halike r hr).same.values,
      selected_selectsAlike (halike r hr) (hquiet r hr).2⟩, TaskOrder.tasksAfter_none]
    rfl
  · intro r hr next hnext now perPage requests hshaped' hfirst
    obtain ⟨place, hmark⟩ := hcovers.marks r hr next hnext
    have hreadable := (hchain.readable hready r hr).after_serve requests
    exact hreadable.answers hpages hshaped' hmark hfirst

end Chains

/-! ## Pages around a deletion -/

section Deletion

open Sample

/-- Three tasks in the order of their values, and a member. -/
def Sample.threeTasks : Store :=
  { store (column "Size" .number []) [task "x", task "z", task "y"]
      [("x", .int 5), ("z", .int 7)] with
    users := [⟨"u", "u@example.com", none, "token", true⟩]
    members := [⟨"u", board.workspaceId⟩] }

/-- The request to delete the task in the middle. -/
def Sample.deleteRequest : Request :=
  { moveRequest with
    body := .document (.obj [("operation", .str "delete"), ("task_ids", .arr [.str "z"])]) }

def Sample.bySize : TaskOrder := ⟨"Size", false, .column "Size", .last⟩

/-- What is left when the task in the middle has been deleted. -/
def Sample.withoutMiddle : Store :=
  serve .usual threeTasks [(Moment.first, deleteRequest)]

theorem Sample.threeTasks_readable :
    Readable .usual board (query "Size") bySize threeTasks where
  keyed := ⟨by decide, by decide⟩
  order := by
    have hschema := schema_store (c := column "Size" .number []) rfl
      [task "x", task "z", task "y"] [("x", .int 5), ("z", .int 7)]
    refine ⟨none, ?_⟩
    rw [show threeTasks.schema board = _ from hschema]
    rfl

theorem Sample.selected_threeTasks : (query "Size").selected Moment.first threeTasks board "u"
    = .ok [task "x", task "z", task "y"] := rfl

theorem Sample.selected_withoutMiddle :
    (query "Size").selected Moment.first withoutMiddle board "u" = .ok [task "x", task "y"] := by
  have htasks : withoutMiddle.tasks = [task "x", task "y"] := by decide +kernel
  show Except.ok (selectTasks withoutMiddle _ _ _) = _
  rw [selectTasks, htasks]
  rfl

theorem Sample.bySize_shaped : bySize.Shaped threeTasks ∧ bySize.Shaped withoutMiddle := by
  have hnumbers : (threeTasks.values ++ withoutMiddle.values).all (·.value.toInteger.isOk)
      = true := by decide +kernel
  have hnan (v : FieldValue) (hv : v ∈ threeTasks.values ++ withoutMiddle.values) :
      v.value ≠ .num .nan := by
    intro heq
    have hok := List.all_eq_true.1 hnumbers v hv
    rw [heq] at hok
    exact absurd hok (by decide)
  exact ⟨fun _ _ v hv _ => hnan v (List.mem_append_left _ hv),
    fun _ _ v hv _ => hnan v (List.mem_append_right _ hv)⟩

/-- The tasks that stay keep their rows. -/
theorem Sample.rowKey_withoutMiddle : ∀ t ∈ [task "x", task "y"],
    bySize.rowKey withoutMiddle t = bySize.rowKey threeTasks t := by
  decide +kernel

theorem Sample.bySize_cursored : bySize.Cursored := by
  unfold TaskOrder.Cursored
  decide

theorem Sample.first_of_threeTasks {a : Store × Listing}
    (h : listTasks .usual Moment.first threeTasks board "u" ((query "Size").readOn (some 1) none)
      = .ok a) :
    a.1 = threeTasks ∧ a.2.page.items = [task "x"]
      ∧ a.2.page.nextCursor = some (bySize.cursorAfter threeTasks (task "x")) := by
  obtain ⟨tasks, warning, pager, htasks, horder, hpager, hpage⟩ := listTasks_eq_ok h
  obtain ⟨warning', horder'⟩ := threeTasks_readable.order
  obtain rfl : [task "x", task "z", task "y"] = tasks := Except.ok.inj htasks
  obtain rfl : Pager.numbered 1 1 = pager := Except.ok.inj hpager
  have ho : a.2.order = bySize := congrArg Prod.fst (Except.ok.inj (horder.symm.trans horder'))
  have hp := Except.ok.inj (ho ▸ hpage)
  rw [← hp, TaskOrder.sortRows, List.mergeSort_of_pairwise (by decide)]
  exact ⟨listTasks_store rfl rfl h, rfl, rfl⟩

/-- A client reads the first page, the task in the middle is deleted, and the client reads on. -/
theorem Sample.exists_pageChain_deletion :
    ∃ r rest, PageChain .usual board "u" (query "Size") none threeTasks (r :: rest)
      ∧ r.items = [task "x"] ∧ r.meanwhile = [(Moment.first, deleteRequest)]
      ∧ ∀ r' ∈ r :: rest, r'.before.WellKeyed ∧ bySize.Shaped r'.before
        ∧ ∀ t ∈ [task "x", task "y"], r'.Selects board "u" (query "Size") t
          ∧ bySize.rowKey r'.before t = bySize.rowKey threeTasks t := by
  obtain ⟨warning, horder⟩ := threeTasks_readable.order
  obtain ⟨⟨s', l⟩, hread⟩ := listTasks_of_selected
    (q := (query "Size").readOn (some 1) none) rfl selected_threeTasks horder rfl rfl
  obtain ⟨rfl, hitems, hcursor⟩ := first_of_threeTasks hread
  have hready : Readable .usual board (query "Size") bySize withoutMiddle :=
    threeTasks_readable.after_serve _
  have hsound : (bySize.cell threeTasks (task "x")).Sound :=
    TaskOrder.cell_sound threeTasks_readable.keyed bySize_shaped.1 List.mem_cons_self
  obtain ⟨rest, hrest, hreads⟩ := exists_pageChain_from (by decide) rfl (some 1) _ hready
    bySize_shaped.2 selected_withoutMiddle (fun t _ => bySize_cursored.resumes _ _ t)
    (bySize_cursored.marks hsound) le_rfl
  have halike := hrest.selectsAlike fun r hr => (hreads r hr).1.2.1
  let r : PageRead :=
    ⟨Moment.first, some 1, threeTasks, threeTasks, l, [(Moment.first, deleteRequest)]⟩
  have hchain : PageChain .usual board "u" (query "Size") none r.before (r :: rest) :=
    .next hread hcursor hrest
  refine ⟨r, rest, hchain, hitems, rfl, fun r' hr' => ?_⟩
  rcases List.mem_cons.1 hr' with rfl | hr'
  · refine ⟨threeTasks_readable.keyed, bySize_shaped.1, fun t ht => ⟨⟨_, selected_threeTasks, ?_⟩,
      rfl⟩⟩
    simp only [List.mem_cons, List.not_mem_nil, or_false] at ht ⊢
    exact ht.imp_right .inr
  · have hsame := (halike r' hr').same
    refine ⟨hready.keyed.of_tasks hsame.tasks, bySize_shaped.2.of_values hsame.values,
      fun t ht => ⟨⟨_, ?_, ht⟩, ?_⟩⟩
    · rw [(hreads r' hr').1.1]
      exact selected_selectsAlike (halike r' hr') selected_withoutMiddle
    · exact (congrFun (rowKey_congr hsame.values) t).trans (rowKey_withoutMiddle t ht)

/-- If nothing happens between the pages, the three tasks are listed in order. If the one in the
middle is deleted after the first page, the other two are listed once each. -/
theorem pageChain_lists_each_once_sizes :
    (∃ reads, PageChain .usual board "u" (query "Size") none Sample.threeTasks reads
        ∧ (reads.flatMap (·.items)).map (·.id) = ["x", "z", "y"])
      ∧ ∃ r rest, PageChain .usual board "u" (query "Size") none Sample.threeTasks (r :: rest)
        ∧ r.items = [task "x"] ∧ r.meanwhile = [(Moment.first, Sample.deleteRequest)]
        ∧ ∀ t ∈ [task "x", task "y"],
          (((r :: rest).flatMap (·.items)).map (·.id)).count t.id = 1 := by
  have hkeyed := threeTasks_readable.keyed
  obtain ⟨warning, horder⟩ := threeTasks_readable.order
  constructor
  · obtain ⟨reads, hchain, hreads⟩ := exists_pageChain (by decide) hkeyed horder bySize_cursored
      bySize_shaped.1 rfl selected_threeTasks (some 1)
    have hmain := pageChain_lists_each_once (by decide) hkeyed horder bySize_cursored hchain
      fun r hr => bySize_shaped.1.of_values (hreads r hr).2.2
    refine ⟨reads, hchain, ?_⟩
    rw [hmain.2.2.1 _ fun r hr => ⟨(hreads r hr).2.1, (hreads r hr).1 ▸ selected_threeTasks⟩,
      TaskOrder.sortRows, List.mergeSort_of_pairwise (by decide)]
    rfl
  · obtain ⟨r, rest, hchain, hitems, hmeanwhile, hkept⟩ := exists_pageChain_deletion
    have hmain := pageChain_lists_each_once (by decide) hkeyed horder bySize_cursored hchain
      fun r' hr' => (hkept r' hr').2.1
    refine ⟨r, rest, hchain, hitems, hmeanwhile, fun t ht => hmain.2.1 t.id ?_⟩
    have hmem : t ∈ threeTasks.tasks := by
      simp only [List.mem_cons, List.not_mem_nil, or_false] at ht
      rcases ht with rfl | rfl
      · exact List.mem_cons_self
      · exact .tail _ (.tail _ List.mem_cons_self)
    refine .of_rows (bySize.rowKey threeTasks t)
      (TaskOrder.cell_sound hkeyed bySize_shaped.1 hmem) fun r' hr' => ?_
    obtain ⟨hkeyed, -, hplaces⟩ := hkept r' hr'
    exact ⟨hkeyed, hplaces t ht⟩

end Deletion

end BoardQuery
