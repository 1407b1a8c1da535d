import BoardQuery.Proofs.Query.PageChain
import BoardQuery.Proofs.Query.Stamps

/-!
# Pages in the order of stamps

A client that reads on after a task whose stamp the clock has written goes on from the place that
the task would have with the stamp in full. That is after the tasks between the two places in an
ascending order, and before the task itself in a descending one. So the pages list every task once
exactly if no such task stands between two pages, or it has no other between its two places
(`pageChain_stamps`, `resumes_iff_clear`).
-/

namespace BoardQuery

/-! ## Places of stamps -/

section Places

variable {o : TaskOrder} {k : StampKind} {s : Store} {tasks : List Task} {t u : Task}

/-- Whether all stamps of a store hold no fraction that their texts would lack. -/
def Store.WholeStamps (s : Store) : Prop :=
  ∀ t ∈ s.tasks, ∀ k, (t.stamp k).Whole

theorem Task.stamp_inFull (t : Task) (k : StampKind) : t.inFull.stamp k = (t.stamp k).inFull := by
  cases k <;> rfl

theorem Stamp.whole_inFull (st : Stamp) : st.inFull.Whole :=
  fun h => Bool.noConfusion h

/-- Rows stand by the moments of their stamps. At one moment those of the clock come first in an
ascending order and last in a descending one, and rows with stamps of one origin stand by their
ids. -/
theorem keyOrder_stamps (ho : o.key = .native k.attribute) (ht : (t.stamp k).Whole)
    (hu : (u.stamp k).Whole) : o.keyOrder (o.rowKey s t) (o.rowKey s u) = .lt
      ↔ (if o.descending then (u.stamp k).moment.instant < (t.stamp k).moment.instant
          else (t.stamp k).moment.instant < (u.stamp k).moment.instant)
        ∨ (t.stamp k).moment.instant = (u.stamp k).moment.instant
          ∧ if (t.stamp k).byClock = (u.stamp k).byClock then t.id < u.id
            else (t.stamp k).byClock = !o.descending := by
  have hcell (t : Task) : o.cell s t = .text (t.stamp k).text := by
    rw [TaskOrder.cell, ho]
    exact t.cell_stamp k
  have horder (x y : String) : (Cell.text x).order (.text y) = compare x y :=
    (Cell.sorted_eq_order (a := .text x) (b := .text y) trivial trivial).symm
  have hvalue : o.valueOrder (o.rowKey s t) (o.rowKey s u)
      = if o.descending then compare (u.stamp k).text (t.stamp k).text
        else compare (t.stamp k).text (u.stamp k).text := by
    simp only [TaskOrder.valueOrder, TaskOrder.rowKey, hcell, horder]
  have hflag : (o.rowKey s t).flag = (o.rowKey s u).flag := by
    simp only [TaskOrder.rowKey, hcell]
    rfl
  rw [TaskOrder.keyOrder_lt_iff, hvalue]
  simp only [hflag, lt_irrefl, false_or, true_and]
  have htext := Stamp.text_eq_iff ht hu
  have hlt := Stamp.text_lt_iff ht hu
  have hgt := Stamp.text_lt_iff hu ht
  cases o.descending
  · simp only [Bool.false_eq_true, if_false, compare_lt_iff_lt, Std.compare_eq_iff_eq, hlt, htext]
    cases (t.stamp k).byClock <;> cases (u.stamp k).byClock <;> simp [TaskOrder.rowKey]
  · simp only [if_true, compare_lt_iff_lt, Std.compare_eq_iff_eq, hgt,
      eq_comm (a := (u.stamp k).text), htext]
    cases (t.stamp k).byClock <;> cases (u.stamp k).byClock <;>
      simp [TaskOrder.rowKey, eq_comm (a := (u.stamp k).moment.instant)]

theorem TaskOrder.isLE_of_not_lt (o : TaskOrder) {a b : RowKey} (h : o.keyOrder b a ≠ .lt) :
    (o.keyOrder a b).isLE = true := by
  rw [o.keyOrder_swap]
  cases hcmp : o.keyOrder b a with
  | lt => exact absurd hcmp h
  | eq | gt => rfl

/-- Whether a client may read on after a task: its stamp is a bound one, or the order ascends and
of the other tasks of the moment those of the clock have lesser ids and the bound ones greater. -/
def Task.Clear (k : StampKind) (descending : Bool) (tasks : List Task) (t : Task) : Prop :=
  (t.stamp k).byClock = true → descending = false ∧ ∀ u ∈ tasks,
    (u.stamp k).moment = (t.stamp k).moment → u.id ≠ t.id →
      ((u.stamp k).byClock = true ↔ u.id < t.id)

theorem mem_tasksAfter_some {place : RowKey} : u ∈ o.tasksAfter (some place) s tasks
    ↔ u ∈ tasks ∧ o.keyOrder place (o.rowKey s u) = .lt := by
  simp [TaskOrder.mem_tasksAfter]

/-- The list goes on after a task as it does after its place with the stamp in full, if the same
tasks come after both. -/
theorem resumes_iff : o.Resumes s tasks t ↔ ∀ u ∈ tasks,
    o.keyOrder (o.rowKey s t.inFull) (o.rowKey s u) = .lt
      ↔ o.keyOrder (o.rowKey s t) (o.rowKey s u) = .lt := by
  constructor
  · intro h u hu
    have hmem : u ∈ o.tasksAfter (some (o.rowKey s t.inFull)) s tasks
        ↔ u ∈ o.tasksAfter (some (o.rowKey s t)) s tasks := by
      rw [show o.tasksAfter _ s tasks = _ from h]
    simpa [mem_tasksAfter_some, hu] using hmem
  · intro h
    refine List.filter_congr fun u hu => ?_
    have hu := h u ((TaskOrder.sortTasks_perm o s tasks).mem_iff.1 hu)
    rw [Option.all_some, Option.all_some, Bool.eq_iff_iff, beq_iff_eq, beq_iff_eq, hu]

theorem resumes_iff_clear (ho : o.key = .native k.attribute) (hids : (tasks.map (·.id)).Nodup)
    (hwhole : ∀ t ∈ tasks, (t.stamp k).Whole) (ht : t ∈ tasks) :
    o.Resumes s tasks t ↔ t.Clear k o.descending tasks := by
  have hinFull : (t.inFull.stamp k) = (t.stamp k).inFull := t.stamp_inFull k
  have hwhole' : (t.inFull.stamp k).Whole := hinFull ▸ (t.stamp k).whole_inFull
  rw [resumes_iff]
  cases hclock : (t.stamp k).byClock
  case false =>
    -- a bound stamp is in full
    have hsame : (t.stamp k).inFull = t.stamp k := by
      rw [Stamp.inFull, ← hclock]
    refine iff_of_true (fun u hu => ?_) fun h => absurd (hclock.symm.trans h) (by simp)
    rw [keyOrder_stamps ho hwhole' (hwhole u hu), keyOrder_stamps ho (hwhole t ht) (hwhole u hu),
      hinFull, hsame]
    rfl
  case true =>
    have hplaces u (hu : u ∈ tasks) : (o.keyOrder (o.rowKey s t.inFull) (o.rowKey s u) = .lt
        ↔ o.keyOrder (o.rowKey s t) (o.rowKey s u) = .lt)
        ↔ ((t.stamp k).moment.instant = (u.stamp k).moment.instant →
          if (u.stamp k).byClock then o.descending = true ↔ t.id < u.id
          else t.id < u.id ↔ o.descending = false) := by
      rw [keyOrder_stamps ho hwhole' (hwhole u hu), keyOrder_stamps ho (hwhole t ht) (hwhole u hu),
        hinFull, hclock]
      have hid : t.inFull.id = t.id := rfl
      rw [hid]
      generalize (t.id < u.id) = before
      by_cases hsame : (t.stamp k).moment.instant = (u.stamp k).moment.instant
      · cases (u.stamp k).byClock <;> cases o.descending <;> simp [Stamp.inFull, hsame]
      · simp [Stamp.inFull, hsame]
    rw [forall₂_congr hplaces, Task.Clear]
    constructor
    · intro h _
      have hascending : o.descending = false := by
        have hself := h t ht rfl
        rw [hclock, if_pos rfl] at hself
        exact Bool.eq_false_iff.2 fun hdescending => lt_irrefl _ (hself.1 hdescending)
      refine ⟨hascending, fun u hu hmoment hne => ?_⟩
      have hother := h u hu (by rw [hmoment])
      rw [hascending] at hother
      split_ifs at hother with hu'
      · exact iff_of_true hu' (lt_of_le_of_ne (not_lt.1 hother.2) hne)
      · exact iff_of_false hu' (not_lt.2 (hother.2 rfl).le)
    · intro h u hu hsame
      obtain ⟨hascending, hothers⟩ := h hclock
      by_cases hid : u.id = t.id
      · obtain rfl := List.inj_on_of_nodup_map hids hu ht hid
        rw [hclock, hascending, if_pos rfl]
        exact iff_of_false (by simp) (lt_irrefl _)
      · have hother := hothers u hu (Moment.instant_injective hsame).symm hid
        rw [hascending]
        split_ifs with hu'
        · exact iff_of_false (by simp) (not_lt.2 (hother.1 hu').le)
        · exact iff_of_true (lt_of_le_of_ne (not_lt.1 (hother.not.1 hu')) (Ne.symm hid)) rfl

end Places

/-! ## Chains of pages -/

/-- The task after which a client reads on. -/
def PageRead.last? (r : PageRead) : Option Task :=
  if r.listing.page.nextCursor.isSome then r.items.getLast? else none

/-- Pages of one list of tasks. Each lists what comes after a place, or the first of it, and then
the next one goes on from the place of its last task, with stamps in full. -/
inductive Continued (o : TaskOrder) (s : Store) (tasks : List Task) :
    Option RowKey → List PageRead → Prop
  | last {k : Option RowKey} {r : PageRead} (hlast : r.last? = none)
    (hitems : r.items = o.tasksAfter k s tasks) : Continued o s tasks k [r]
  | next {k : Option RowKey} {r : PageRead} {rest : List PageRead} {t : Task}
    (hlast : r.last? = some t) (hmem : t ∈ r.items)
    (hitems : r.items ++ o.tasksAfter (some (o.rowKey s t)) s tasks = o.tasksAfter k s tasks)
    (hrest : Continued o s tasks (some (o.rowKey s t.inFull)) rest) :
    Continued o s tasks k (r :: rest)

section Chain

variable {c : Settings} {b : Board} {userId : String} {q : TaskQuery} {o : TaskOrder} {s : Store}
  {tasks : List Task} {k : Option RowKey} {reads : List PageRead}

/-- The pages of a chain, if the query selects the same tasks at each of them. -/
theorem PageChain.continued (hpages : 0 < c.pages.usual) {s₀ : Store} {cursor : Option String}
    (hchain : PageChain c b userId q cursor s₀ reads) (hready : Readable c b q o s₀)
    (hshaped : ∀ r ∈ reads, o.Shaped r.before)
    (hstatic : ∀ r ∈ reads, r.before.values = s.values
      ∧ q.selected r.now r.before b userId = .ok tasks)
    (hmark : o.Marks k cursor) : Continued o s tasks k reads := by
  induction hchain generalizing k with
  | @last cursor r hread hend =>
    obtain ⟨hvalues, hselected⟩ := hstatic r List.mem_cons_self
    obtain ⟨tasks', hselected', -, -, hafter⟩ :=
      read_pageAfter hpages hready (hshaped r List.mem_cons_self) hmark hread
    obtain rfl := Except.ok.inj (hselected.symm.trans hselected')
    cases hafter with
    | last hitems =>
      refine .last ?_ (hitems.trans (tasksAfter_congr hvalues tasks))
      rw [PageRead.last?, hend]
      rfl
    | more hlast hrest hcursor => exact absurd (hend.symm.trans hcursor) (by simp)
  | @next cursor r next rest hread hnext hrest ih =>
    obtain ⟨hvalues, hselected⟩ := hstatic r List.mem_cons_self
    obtain ⟨tasks', hselected', -, hsound, hafter⟩ :=
      read_pageAfter hpages hready (hshaped r List.mem_cons_self) hmark hread
    obtain rfl := Except.ok.inj (hselected.symm.trans hselected')
    cases hafter with
    | last hitems hcursor => exact absurd (hnext.symm.trans hcursor) (by simp)
    | @more t hlast hitems hcursor =>
      obtain rfl := Option.some.inj (hnext.symm.trans hcursor)
      have ht := List.mem_of_getLast? hlast
      have hsound := hsound t (TaskOrder.mem_of_append_eq hitems ht).1
      rw [tasksAfter_congr hvalues, tasksAfter_congr hvalues, rowKey_congr hvalues] at hitems
      refine .next ?_ ht hitems ?_
      · rw [PageRead.last?, hnext]
        exact hlast
      · rw [← rowKey_congr hvalues]
        exact ih ((hready.after_listTasks hread).after_serve r.meanwhile)
          (fun r' hr' => hshaped r' (List.mem_cons_of_mem r hr'))
          (fun r' hr' => hstatic r' (List.mem_cons_of_mem r hr')) (.after hsound)

theorem Continued.last_mem (h : Continued o s tasks k reads) :
    ∀ r ∈ reads, ∀ t ∈ r.last?, t ∈ tasks := by
  induction h with
  | last hlast hitems =>
    intro r' hr' t ht
    obtain rfl := List.mem_singleton.1 hr'
    exact absurd (hlast.symm.trans ht) (by simp)
  | next hlast hmem hitems hrest ih =>
    intro r' hr' t ht
    rcases List.mem_cons.1 hr' with rfl | hr'
    · obtain rfl := Option.some.inj (hlast.symm.trans ht)
      exact (TaskOrder.mem_of_append_eq hitems hmem).1
    · exact ih r' hr' t ht

/-- If every page that is followed by another resumes, the pages make up the list. -/
theorem Continued.items_eq (h : Continued o s tasks k reads)
    (hresumes : ∀ r ∈ reads, ∀ t ∈ r.last?, o.Resumes s tasks t) :
    reads.flatMap (·.items) = o.tasksAfter k s tasks := by
  induction h with
  | @last k r hlast hitems => rw [List.flatMap_singleton, hitems]
  | @next k r rest t hlast hmem hitems hrest ih =>
    have hnext : o.Resumes s tasks t := hresumes r List.mem_cons_self t hlast
    rw [List.flatMap_cons, ih fun r' hr' => hresumes r' (List.mem_cons_of_mem r hr'), hnext, hitems]

/-- The first of what comes after a place is on the first of its pages. -/
theorem Continued.head_mem (h : Continued o s tasks k reads) {t : Task} {rest : List Task}
    (hhead : o.tasksAfter k s tasks = t :: rest) : t ∈ reads.flatMap (·.items) := by
  cases h with
  | last hlast hitems =>
    rw [List.flatMap_singleton, hitems, hhead]
    exact List.mem_cons_self
  | next hlast hmem hitems hrest =>
    obtain ⟨t', items, hcons⟩ := List.exists_cons_of_ne_nil (List.ne_nil_of_mem hmem)
    rw [hcons, hhead, List.cons_append] at hitems
    rw [List.flatMap_cons, hcons, (List.cons.inj hitems).1]
    exact List.mem_append_left _ List.mem_cons_self

/-- Whether the place of every task with its stamps in full is not before its own. -/
def NeverBefore (o : TaskOrder) (s : Store) (tasks : List Task) : Prop :=
  ∀ t ∈ tasks, o.keyOrder (o.rowKey s t.inFull) (o.rowKey s t) ≠ .lt

/-- Where no page starts before the end of the one before, all pages list what comes after the
place from which they start. -/
theorem Continued.after (h : Continued o s tasks k reads) (hnever : NeverBefore o s tasks) :
    ∀ t ∈ reads.flatMap (·.items), ∀ place ∈ k, o.keyOrder place (o.rowKey s t) = .lt := by
  induction h with
  | @last k r hlast hitems =>
    intro t ht
    rw [List.flatMap_singleton, hitems] at ht
    exact (TaskOrder.mem_tasksAfter.1 ht).2
  | @next k r rest u hlast hmem hitems hrest ih =>
    intro t ht place hplace
    rcases List.mem_append.1 (List.flatMap_cons ▸ ht) with ht | ht
    · exact (TaskOrder.mem_of_append_eq hitems ht).2 place hplace
    · obtain ⟨hu, hafter⟩ := TaskOrder.mem_of_append_eq hitems hmem
      have hle := o.isLE_of_not_lt (hnever u hu)
      exact Std.TransCmp.lt_trans (hafter place hplace)
        (Std.TransCmp.lt_of_isLE_of_lt hle (ih t ht _ rfl))

/-- The page that ends with a task resumes if what has been listed up to that task and the pages to
come list every task once. -/
theorem Continued.resumes_of_once {t : Task}
    (h : Continued o s tasks (some (o.rowKey s t.inFull)) reads) (ht : t ∈ tasks)
    (hids : (tasks.map (·.id)).Nodup) (hsound : ∀ t ∈ tasks, (o.cell s t).Sound)
    (hdirection : NeverBefore o s tasks
      ∨ ∀ t ∈ tasks, o.keyOrder (o.rowKey s t) (o.rowKey s t.inFull) ≠ .lt)
    {listed : List Task}
    (hlisted : listed ++ o.tasksAfter (some (o.rowKey s t)) s tasks = o.sortTasks s tasks)
    (honce : ∀ u ∈ tasks, (listed ++ reads.flatMap (·.items)).count u = 1) :
    o.Resumes s tasks t := by
  have hnodup : (o.sortTasks s tasks).Nodup :=
    (TaskOrder.sortTasks_perm o s tasks).nodup_iff.2 hids.of_map
  refine resumes_iff.2 fun u hu => ⟨fun hfull => ?_, fun hafter => ?_⟩
  · have hu' := mem_tasksAfter_some.2 ⟨hu, hfull⟩
    obtain ⟨v, rest, hcons⟩ := List.exists_cons_of_ne_nil (List.ne_nil_of_mem hu')
    have hsorted := TaskOrder.tasksAfter_pairwise (k := some (o.rowKey s t.inFull)) hids hsound
    -- the next page lists `v`, which therefore is not among those listed so far
    have hv := (mem_tasksAfter_some.1 (hcons ▸ List.mem_cons_self)).1
    have hnext := List.count_pos_iff.2 (h.head_mem hcons)
    have hfresh : v ∉ listed := by
      intro hbefore
      have hcount := honce v hv
      have hcounted := List.count_pos_iff.2 hbefore
      rw [List.count_append] at hcount
      omega
    have hlater : o.keyOrder (o.rowKey s t) (o.rowKey s v) = .lt := by
      have hall := (TaskOrder.sortTasks_perm o s tasks).mem_iff.2 hv
      rw [← hlisted] at hall
      exact (mem_tasksAfter_some.1 ((List.mem_append.1 hall).resolve_left hfresh)).2
    rw [hcons] at hu' hsorted
    rcases List.mem_cons.1 hu' with rfl | hu'
    · exact hlater
    · exact Std.TransCmp.lt_trans hlater ((List.pairwise_cons.1 hsorted).1 u hu')
  · rcases hdirection with hnever | hnever
    · -- `u` has not been listed so far, so it is on the pages to come
      rw [← hlisted, List.nodup_append] at hnodup
      have hfresh : u ∉ listed := fun hbefore =>
        hnodup.2.2 u hbefore u (mem_tasksAfter_some.2 ⟨hu, hafter⟩) rfl
      have hcount := honce u hu
      rw [List.count_append, List.count_eq_zero.2 hfresh] at hcount
      exact h.after hnever u (List.count_pos_iff.1 (by omega)) _ rfl
    · exact Std.TransCmp.lt_of_isLE_of_lt (o.isLE_of_not_lt (hnever t ht)) hafter

/-- If the pages list every task once, every page that is followed by another resumes. What has been
listed before the pages is what does not come after the place from which they start. -/
theorem Continued.resumes_of_count (h : Continued o s tasks k reads)
    (hids : (tasks.map (·.id)).Nodup) (hsound : ∀ t ∈ tasks, (o.cell s t).Sound)
    (hdirection : NeverBefore o s tasks
      ∨ ∀ t ∈ tasks, o.keyOrder (o.rowKey s t) (o.rowKey s t.inFull) ≠ .lt)
    {listed : List Task} (hlisted : listed ++ o.tasksAfter k s tasks = o.sortTasks s tasks)
    (honce : ∀ t ∈ tasks, (listed ++ reads.flatMap (·.items)).count t = 1) :
    ∀ r ∈ reads, ∀ t ∈ r.last?, o.Resumes s tasks t := by
  induction h generalizing listed with
  | @last k r hlast hitems =>
    intro r' hr' t ht
    obtain rfl := List.mem_singleton.1 hr'
    exact absurd (hlast.symm.trans ht) (by simp)
  | @next k r rest t hlast hmem hitems hrest ih =>
    have ht := (TaskOrder.mem_of_append_eq hitems hmem).1
    rw [← hitems, ← List.append_assoc] at hlisted
    have honce' : ∀ u ∈ tasks,
        ((listed ++ r.items) ++ rest.flatMap (·.items)).count u = 1 := by
      simpa only [List.flatMap_cons, List.append_assoc] using honce
    have hresumes := hrest.resumes_of_once ht hids hsound hdirection hlisted honce'
    intro r' hr'
    rcases List.mem_cons.1 hr' with rfl | hr'
    · intro t' ht'
      obtain rfl := Option.some.inj (hlast.symm.trans ht')
      exact hresumes
    · refine ih ?_ honce' r' hr'
      rw [show o.tasksAfter _ s tasks = _ from hresumes]
      exact hlisted

end Chain

section Stamps

variable {c : Settings} {b : Board} {userId : String} {q : TaskQuery} {o : TaskOrder} {s : Store}
  {tasks : List Task} {k : StampKind} {reads : List PageRead}

/-- The place of a task with its stamps in full is at or after its own in an ascending order, and at
or before it in a descending one. -/
theorem direction_of_stamps (ho : o.key = .native k.attribute)
    (hwhole : ∀ t ∈ tasks, (t.stamp k).Whole) : NeverBefore o s tasks
      ∨ ∀ t ∈ tasks, o.keyOrder (o.rowKey s t) (o.rowKey s t.inFull) ≠ .lt := by
  have hinFull (t : Task) := t.stamp_inFull k
  have hwhole' (t : Task) : (t.inFull.stamp k).Whole := hinFull t ▸ (t.stamp k).whole_inFull
  have hid (t : Task) : t.inFull.id = t.id := rfl
  cases hdirection : o.descending
  · refine .inl fun t ht => ?_
    rw [ne_eq, keyOrder_stamps ho (hwhole' t) (hwhole t ht), hinFull, hid, hdirection]
    cases (t.stamp k).byClock <;> simp [Stamp.inFull]
  · refine .inr fun t ht => ?_
    rw [ne_eq, keyOrder_stamps ho (hwhole t ht) (hwhole' t), hinFull, hid, hdirection]
    cases (t.stamp k).byClock <;> simp [Stamp.inFull]

theorem shaped_of_stamp (ho : o.key = .native k.attribute) (s : Store) : o.Shaped s :=
  fun _ hkey => absurd (ho.symm.trans hkey) (by simp)

/-- The pages of a chain in the order of a stamp, if nothing is requested in between. -/
theorem PageChain.continued_stamps (hpages : 0 < c.pages.usual) (hready : Readable c b q o s)
    (ho : o.key = .native k.attribute) (hchain : PageChain c b userId q none s reads)
    (hquiet : ∀ r ∈ reads, r.meanwhile = [] ∧ q.selected r.now s b userId = .ok tasks) :
    Continued o s tasks none reads := by
  have halike := hchain.selectsAlike fun r hr => (hquiet r hr).1
  exact hchain.continued hpages hready (fun r _ => shaped_of_stamp ho r.before)
    (fun r hr => ⟨(halike r hr).same.values, selected_selectsAlike (halike r hr) (hquiet r hr).2⟩)
    .start

/-- The pages of a chain in the order of a stamp, over one list of tasks, list every task once
exactly if no page goes on after a task that is not clear, and then they are the sorted list. -/
theorem pageChain_stamps (hpages : 0 < c.pages.usual) (hready : Readable c b q o s)
    (hwhole : s.WholeStamps) (ho : o.key = .native k.attribute)
    (hchain : PageChain c b userId q none s reads)
    (hquiet : ∀ r ∈ reads, r.meanwhile = [] ∧ q.selected r.now s b userId = .ok tasks) :
    ((∀ t ∈ tasks, (reads.flatMap (·.items)).count t = 1)
        ↔ ∀ r ∈ reads, ∀ t ∈ r.last?, t.Clear k o.descending tasks)
      ∧ ((∀ r ∈ reads, ∀ t ∈ r.last?, t.Clear k o.descending tasks) →
        reads.flatMap (·.items) = (o.sortRows s tasks).map (·.1)) := by
  have hcontinued := hchain.continued_stamps hpages hready ho hquiet
  have hsub : tasks.Sublist s.tasks := by
    have hne : reads ≠ [] := by
      cases hchain <;> simp
    obtain ⟨r, hr⟩ := List.exists_mem_of_ne_nil reads hne
    exact selected_sublist (hquiet r hr).2
  have hids := hready.keyed.ids.sublist (hsub.map _)
  have hsound t (ht : t ∈ tasks) :=
    TaskOrder.cell_sound hready.keyed (shaped_of_stamp ho s) (hsub.subset ht)
  have hwhole' t (ht : t ∈ tasks) := hwhole t (hsub.subset ht) k
  have hlisted : [] ++ o.tasksAfter none s tasks = o.sortTasks s tasks :=
    TaskOrder.tasksAfter_none o s tasks
  have hclear r (hr : r ∈ reads) t (ht : t ∈ r.last?) :
      o.Resumes s tasks t ↔ t.Clear k o.descending tasks :=
    resumes_iff_clear ho hids hwhole' (hcontinued.last_mem r hr t ht)
  have hitems (h : ∀ r ∈ reads, ∀ t ∈ r.last?, t.Clear k o.descending tasks) :
      reads.flatMap (·.items) = o.sortTasks s tasks :=
    hlisted ▸ hcontinued.items_eq fun r hr t ht => (hclear r hr t ht).2 (h r hr t ht)
  refine ⟨⟨fun honce r hr t ht => (hclear r hr t ht).1 ?_, fun h t ht => ?_⟩, hitems⟩
  · have hdirection := direction_of_stamps (s := s) ho hwhole'
    exact hcontinued.resumes_of_count hids hsound hdirection hlisted honce r hr t ht
  · have hnodup : (o.sortTasks s tasks).Nodup :=
      (TaskOrder.sortTasks_perm o s tasks).nodup_iff.2 hids.of_map
    rw [hitems h]
    exact List.count_eq_one_of_mem hnodup ((TaskOrder.sortTasks_perm o s tasks).mem_iff.2 ht)

/-- If all tasks that are selected are clear, a client comes to the end, whatever the size of its
pages, and has been given the sorted list. -/
theorem exists_pageChain_stamps {warning : Option QueryWarning} {now : Moment}
    (hpages : 0 < c.pages.usual) (hkeyed : s.WellKeyed) (hwhole : s.WholeStamps)
    (horder : q.chosenOrder c (s.schema b) = .ok (o, warning)) (ho : o.key = .native k.attribute)
    (hsave : q.saveFilter = false) (hselected : q.selected now s b userId = .ok tasks)
    (hclear : ∀ t ∈ tasks, t.Clear k o.descending tasks) (perPage : Option Int) :
    ∃ reads, PageChain c b userId q none s reads ∧ (∀ r ∈ reads, r.now = now
        ∧ r.perPage = perPage ∧ r.meanwhile = [])
      ∧ reads.flatMap (·.items) = (o.sortRows s tasks).map (·.1) := by
  have hsub := selected_sublist hselected
  have hids := hkeyed.ids.sublist (hsub.map _)
  have hready : Readable c b q o s := ⟨hkeyed, warning, horder⟩
  have hresumes t (ht : t ∈ tasks) : o.Resumes s tasks t :=
    (resumes_iff_clear ho hids (fun u hu => hwhole u (hsub.subset hu) k) ht).2 (hclear t ht)
  obtain ⟨reads, hchain, hreads⟩ := exists_pageChain_from hpages hsave perPage
    (o.tasksAfter none s tasks).length hready (shaped_of_stamp ho s) hselected hresumes .start
    le_rfl
  have hquiet r (hr : r ∈ reads) :
      r.meanwhile = [] ∧ q.selected r.now s b userId = .ok tasks := by
    obtain ⟨⟨hnow, hquiet, -⟩, -⟩ := hreads r hr
    exact ⟨hquiet, hnow ▸ hselected⟩
  have hcontinued := hchain.continued_stamps hpages hready ho hquiet
  refine ⟨reads, hchain, fun r hr => ?_, (pageChain_stamps hpages hready hwhole ho hchain hquiet).2
    fun r hr t ht => hclear t (hcontinued.last_mem r hr t ht)⟩
  obtain ⟨⟨hnow, hquiet, -⟩, hsize⟩ := hreads r hr
  exact ⟨hnow, hsize, hquiet⟩

end Stamps

end BoardQuery
