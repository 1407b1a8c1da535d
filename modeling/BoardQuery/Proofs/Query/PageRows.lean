import BoardQuery.Proofs.Outcome
import BoardQuery.Proofs.Query.CursorCodec

/-!
# The rows of a page

A page holds the first of the tasks after a place in the order, and if there are more, its cursor
stands for the place of its last task, with stamps in full (`TaskOrder.page_after`). The two kinds
of pages are alike in this: a first page starts at no place, and the others at the one that their
cursor names.
-/

namespace BoardQuery

open Std

namespace TaskOrder

variable {o : TaskOrder} {k : Option RowKey} {s : Store} {tasks : List Task}

/-- Some tasks in order. -/
def sortTasks (o : TaskOrder) (s : Store) (tasks : List Task) : List Task :=
  (o.sortRows s tasks).map (·.1)

/-- The tasks after a place, in order; without a place, all of them. -/
def tasksAfter (o : TaskOrder) (k : Option RowKey) (s : Store) (tasks : List Task) : List Task :=
  (o.sortTasks s tasks).filter fun t => k.all fun k => o.keyOrder k (o.rowKey s t) == .lt

theorem sortRows_eq_map (o : TaskOrder) (s : Store) (tasks : List Task) :
    o.sortRows s tasks = (o.sortTasks s tasks).map fun t => (t, o.rowKey s t) := by
  rw [sortTasks, List.map_map]
  refine (List.map_id _).symm.trans (List.map_congr_left fun r hr => ?_)
  obtain ⟨t, -, rfl⟩ := mem_sortRows.1 hr
  rfl

theorem sortTasks_perm (o : TaskOrder) (s : Store) (tasks : List Task) :
    (o.sortTasks s tasks).Perm tasks := by
  have hperm := (sortRows_perm (o := o) s tasks).map (·.1)
  simpa [sortTasks, Function.comp_def] using hperm

theorem mem_tasksAfter {t : Task} : t ∈ o.tasksAfter k s tasks
    ↔ t ∈ tasks ∧ ∀ place ∈ k, o.keyOrder place (o.rowKey s t) = .lt := by
  rw [tasksAfter, List.mem_filter, (sortTasks_perm o s tasks).mem_iff]
  rcases k with _ | place <;> simp

/-- What stands first among the tasks after a place is one of them. -/
theorem mem_of_append_eq {taken rest : List Task} (h : taken ++ rest = o.tasksAfter k s tasks)
    {t : Task} (ht : t ∈ taken) :
    t ∈ tasks ∧ ∀ place ∈ k, o.keyOrder place (o.rowKey s t) = .lt := by
  refine mem_tasksAfter.1 ?_
  rw [← h]
  exact List.mem_append_left _ ht

theorem tasksAfter_none (o : TaskOrder) (s : Store) (tasks : List Task) :
    o.tasksAfter none s tasks = o.sortTasks s tasks :=
  List.filter_eq_self.2 fun _ _ => rfl

section Sorted

variable (hids : (tasks.map (·.id)).Nodup) (hsound : ∀ t ∈ tasks, (o.cell s t).Sound)

include hids hsound

theorem sortTasks_pairwise : (o.sortTasks s tasks).Pairwise fun t u =>
    o.keyOrder (o.rowKey s t) (o.rowKey s u) = .lt := by
  have hrows := sortRows_pairwise hids hsound
  rw [sortRows_eq_map, List.pairwise_map] at hrows
  exact hrows

theorem tasksAfter_pairwise : (o.tasksAfter k s tasks).Pairwise fun t u =>
    o.keyOrder (o.rowKey s t) (o.rowKey s u) = .lt :=
  (sortTasks_pairwise hids hsound).filter _

/-- What is left of the tasks after a place, when those up to a task have been taken, are the tasks
after that task. -/
theorem tasksAfter_drop {n : Nat} {t : Task}
    (hlast : ((o.tasksAfter k s tasks).take n).getLast? = some t) :
    (o.tasksAfter k s tasks).drop n = o.tasksAfter (some (o.rowKey s t)) s tasks := by
  obtain ⟨taken, htaken⟩ := List.getLast?_eq_some_iff.1 hlast
  have hsplit : taken ++ [t] ++ (o.tasksAfter k s tasks).drop n = o.tasksAfter k s tasks := by
    rw [← htaken, List.take_append_drop]
  have hsorted := tasksAfter_pairwise (k := k) hids hsound
  rw [← hsplit, List.pairwise_append, List.pairwise_append] at hsorted
  obtain ⟨⟨-, -, hbefore⟩, -, hafter⟩ := hsorted
  have ht : t ∈ o.tasksAfter k s tasks := by
    rw [← hsplit]
    simp
  -- Of the tasks after the first place, those after `t` are the ones left.
  have hfilter : (o.tasksAfter k s tasks).filter
      (fun u => o.keyOrder (o.rowKey s t) (o.rowKey s u) == .lt)
      = (o.tasksAfter k s tasks).drop n := by
    rw [← hsplit, List.filter_append, List.filter_eq_nil_iff.2, List.nil_append, hsplit,
      List.filter_eq_self]
    · intro u hu
      exact beq_iff_eq.2 (hafter t (by simp) u hu)
    · intro u hu
      rcases List.mem_append.1 hu with hu | hu
      · rw [o.keyOrder_swap, hbefore u hu t (by simp)]
        decide
      · rw [List.mem_singleton.1 hu, o.keyOrder_self]
        decide
  rw [← hfilter, tasksAfter, tasksAfter, List.filter_filter]
  refine List.filter_congr fun u _ => ?_
  rcases k with _ | place
  · simp
  · have hplace := (mem_tasksAfter.1 ht).2 place rfl
    rcases hcmp : o.keyOrder (o.rowKey s t) (o.rowKey s u) with _ | _ | _
    · simp [hcmp, TransCmp.lt_trans hplace hcmp]
    · simp [hcmp]
    · simp [hcmp]

end Sorted

/-! ## Pages -/

/-- The place that a cursor stands for. Without a cursor, a client starts at no place. -/
inductive Marks (o : TaskOrder) : Option RowKey → Option String → Prop
  | start : Marks o none none
  | after {s : Store} {t : Task} (h : (o.cell s t).Sound) :
    Marks o (some (o.rowKey s t.inFull)) (some (o.cursorAfter s t))

/-- Whether a client that reads on after a task is given the tasks after it. -/
def Resumes (o : TaskOrder) (s : Store) (tasks : List Task) (t : Task) : Prop :=
  o.tasksAfter (some (o.rowKey s t.inFull)) s tasks = o.tasksAfter (some (o.rowKey s t)) s tasks

theorem Cursored.resumes (ho : o.Cursored) (s : Store) (tasks : List Task) (t : Task) :
    o.Resumes s tasks t := by
  rw [Resumes, ho.rowKey_inFull]

theorem Cursored.marks (ho : o.Cursored) {t : Task} (h : (o.cell s t).Sound) :
    o.Marks (some (o.rowKey s t)) (some (o.cursorAfter s t)) :=
  ho.rowKey_inFull s t ▸ .after h

/-- Whether a page holds the tasks after a place, or the first of them and a cursor for the rest. -/
inductive PageAfter (o : TaskOrder) (k : Option RowKey) (s : Store) (tasks : List Task) (p : Page) :
    Prop
  | last (hitems : p.items = o.tasksAfter k s tasks) (hcursor : p.nextCursor = none)
  | more {t : Task} (hlast : p.items.getLast? = some t)
    (hrest : p.items ++ o.tasksAfter (some (o.rowKey s t)) s tasks = o.tasksAfter k s tasks)
    (hcursor : p.nextCursor = some (o.cursorAfter s t))

theorem pageAfter_of_take (hids : (tasks.map (·.id)).Nodup)
    (hsound : ∀ t ∈ tasks, (o.cell s t).Sound) {n : Nat} (hn : 0 < n) {p : Page}
    (hitems : p.items = (o.tasksAfter k s tasks).take n)
    (hcursor : p.nextCursor = o.nextCursor s p.items (n < (o.tasksAfter k s tasks).length)) :
    o.PageAfter k s tasks p := by
  by_cases hmore : n < (o.tasksAfter k s tasks).length
  · have hne : (o.tasksAfter k s tasks).take n ≠ [] :=
      List.ne_nil_of_length_pos (by rw [List.length_take]; omega)
    have hlast := List.getLast?_eq_some_getLast hne
    set t := ((o.tasksAfter k s tasks).take n).getLast hne
    refine .more (t := t) (hitems ▸ hlast) ?_ ?_
    · rw [hitems, ← tasksAfter_drop hids hsound hlast, List.take_append_drop]
    · rw [hcursor, nextCursor, decide_eq_true hmore, if_pos rfl, hitems, hlast]
      rfl
  · refine .last ?_ ?_
    · rw [hitems, List.take_of_length_le (by omega)]
    · rw [hcursor, nextCursor, decide_eq_false hmore]
      rfl

theorem decodeCursor_empty (o : TaskOrder) :
    o.decodeCursor "" = .error (.unreadable .cursor) := by
  have hbytes : Base64.decode "".toUTF8.toList = some [] := Base64.decode_encode []
  rw [decodeCursor, Cursor.read, hbytes]
  rfl

theorem cursorAfter_ne_empty {t : Task} (h : (o.cell s t).Sound) :
    o.cursorAfter s t ≠ "" := by
  intro hempty
  have hbound := bound_cursorAfter h
  rw [hempty, decodeCursor_empty] at hbound
  exact absurd hbound (by simp)

theorem page_first {n : Int} (hids : (tasks.map (·.id)).Nodup)
    (hsound : ∀ t ∈ tasks, (o.cell s t).Sound) (hn : 0 < n) :
    ∃ p, o.page s tasks (.numbered n 1) = .ok p ∧ o.PageAfter none s tasks p := by
  have hskipped : ¬ (!fitsInteger ((1 - 1) * n)) = true := by
    rw [sub_self, zero_mul]
    decide
  rw [page, numberedPage, if_neg hskipped]
  refine ⟨_, rfl, pageAfter_of_take hids hsound (n := n.toNat) (by omega) ?_ ?_⟩
  · simp [tasksAfter_none, sortTasks]
  · have hlength : (o.tasksAfter none s tasks).length = tasks.length := by
      rw [tasksAfter_none, (sortTasks_perm o s tasks).length_eq]
    have hmore : (1 * n < (tasks.length : Int)) ↔ n.toNat < tasks.length := by omega
    simp only [hlength, hmore]

theorem page_continued {n : Int} {s₀ : Store} {t : Task}
    (hids : (tasks.map (·.id)).Nodup) (hsound : ∀ t ∈ tasks, (o.cell s t).Sound) (hn : 0 < n)
    (ht : (o.cell s₀ t).Sound) :
    ∃ p, o.page s tasks (.continued n (.str (o.cursorAfter s₀ t))) = .ok p
      ∧ o.PageAfter (some (o.rowKey s₀ t.inFull)) s tasks p := by
  obtain ⟨cursor, hcursor, hbound⟩ := bind_eq_ok.1 (bound_cursorAfter ht)
  have hplace := o.rowKey_places (sound_inFull ht)
  have hrows : ((o.sortRows s tasks).filter fun r =>
      o.isAfter (boundOf (o.rowKey s₀ t.inFull)) r.2).map (·.1)
        = o.tasksAfter (some (o.rowKey s₀ t.inFull)) s tasks := by
    rw [sortRows_eq_map, List.filter_map, List.map_map]
    refine (List.map_id _).trans (List.filter_congr fun u hu => ?_)
    have hu := o.rowKey_places (hsound u ((sortTasks_perm o s tasks).mem_iff.1 hu))
    rw [Function.comp_apply, Bool.eq_iff_iff, isAfter_iff hplace hu]
    simp
  rw [page, hcursor]
  simp only [ok_bind, hbound]
  refine ⟨_, rfl, pageAfter_of_take hids hsound (n := n.toNat) (by omega) ?_ ?_⟩
  · simp [pageAfter, List.map_take, hrows]
  · have hmore : (n < ((o.tasksAfter (some (o.rowKey s₀ t.inFull)) s tasks).length : Int))
        ↔ n.toNat < (o.tasksAfter (some (o.rowKey s₀ t.inFull)) s tasks).length := by omega
    simp only [pageAfter, ← hrows, List.length_map] at hmore ⊢
    simp only [hmore]

theorem clamp_pos {l : PageLimits} (hl : 0 < l.usual) (perPage : Option Int) :
    ∃ n, l.clamp ((perPage.map Json.int).getD .null) = .ok n ∧ 0 < n := by
  rcases perPage with _ | n
  · exact ⟨l.usual, rfl, hl⟩
  · exact ⟨max 1 (min n l.most), rfl, by omega⟩

/-- The page that a client reads by a cursor holds the tasks after the place that the cursor stands
for, as many as there are or as fit. -/
theorem page_after {l : PageLimits} {cursor : Option String} (hl : 0 < l.usual)
    (hids : (tasks.map (·.id)).Nodup) (hsound : ∀ t ∈ tasks, (o.cell s t).Sound)
    (hmark : o.Marks k cursor) (perPage : Option Int) :
    ∃ pager p,
      choosePager l ((perPage.map Json.int).getD .null) (.int 1) (.ofOption cursor) = .ok pager
        ∧ o.page s tasks pager = .ok p ∧ o.PageAfter k s tasks p := by
  obtain ⟨n, hclamp, hn⟩ := clamp_pos hl perPage
  cases hmark with
  | start =>
    obtain ⟨p, hp, hafter⟩ := page_first hids hsound hn
    refine ⟨.numbered n 1, p, ?_, hp, hafter⟩
    rw [choosePager, hclamp]
    rfl
  | @after s₀ t ht =>
    obtain ⟨p, hp, hafter⟩ := page_continued hids hsound hn ht
    refine ⟨.continued n (.str (o.cursorAfter s₀ t)), p, ?_, hp, hafter⟩
    have htruthy : (Json.str (o.cursorAfter s₀ t)).truthy = true :=
      bne_iff_ne.2 (cursorAfter_ne_empty ht)
    rw [choosePager, hclamp]
    simp only [ok_bind, Json.ofOption, htruthy, if_true]
    rfl

end TaskOrder

end BoardQuery
