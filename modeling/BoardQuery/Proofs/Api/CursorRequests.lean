import BoardQuery.Proofs.Api.CarriedFilters
import BoardQuery.Proofs.Query.CursorTexts
import BoardQuery.Proofs.Query.PageRows

/-!
# Requests with any cursor

A cursor only says where the page starts. So a request is refused as it would be without its
cursor, or it is answered, by a page or by one of the two sentences that refuse cursors, exactly if
the order of its query takes the text (`cursor_answered_iff`). A text that the order does not take
ends the request in an internal error.
-/

namespace BoardQuery

section Pages

variable {o : TaskOrder} {text : String}

theorem TaskQuery.exists_chosenOrder (q : TaskQuery) (c : Settings) (schema : BoardSchema) :
    ∃ o warning, q.chosenOrder c schema = .ok (o, warning) := by
  have hdirection : statedDescending (.str (if q.descending then "desc" else "asc"))
      = .ok q.descending := by
    cases q.descending <;> rfl
  rw [TaskQuery.chosenOrder, chooseOrder, hdirection, ok_bind]
  dsimp only
  split
  · exact ⟨_, _, rfl⟩
  · split_ifs
    · exact ⟨_, _, rfl⟩
    · exact ⟨_, _, rfl⟩

/-- With a cursor and for the first page, the pages are of one size. -/
theorem exists_pagers (l : PageLimits) (perPage : Option Int) (page : Json) (hne : text ≠ "") :
    ∃ n, choosePager l ((perPage.map Json.int).getD .null) page (.str text)
        = .ok (.continued n (.str text))
      ∧ choosePager l ((perPage.map Json.int).getD .null) (.int 1) .null
        = .ok (.numbered n 1) := by
  have htruthy : (Json.str text).truthy = true := bne_iff_ne.2 hne
  obtain ⟨n, hn⟩ : ∃ n, l.clamp ((perPage.map Json.int).getD .null) = .ok n := by
    cases perPage <;> exact ⟨_, rfl⟩
  refine ⟨n, ?_, ?_⟩
  · rw [choosePager, hn, ok_bind, if_pos htruthy]
    rfl
  · rw [choosePager, hn]
    rfl

theorem page_of_place (s : Store) (tasks : List Task) (n : Int) :
    o.page s tasks (.continued n (.str text)) = (o.place text).map (o.pageAfter s tasks n) := by
  rw [TaskOrder.page, TaskOrder.place]
  rcases o.decodeCursor text with f | cursor
  · rfl
  · rcases o.bound cursor with f | bound <;> rfl

theorem exists_firstPage (o : TaskOrder) (s : Store) (tasks : List Task) (n : Int) :
    ∃ p, o.page s tasks (.numbered n 1) = .ok p := by
  have hfits : fitsInteger ((1 - 1) * n) = true := by
    rw [sub_self, zero_mul]
    decide
  rw [TaskOrder.page, TaskOrder.numberedPage]
  simp only [hfits, Bool.not_true, Bool.false_eq_true, if_false]
  exact ⟨_, rfl⟩

end Pages

/-- The query that a client would start from: without its cursor, and then for the first page, since
the page of a cursor has no number. -/
def TaskQuery.fromStart (q : TaskQuery) : TaskQuery :=
  { q with cursor := none, page := if q.cursor.isSome then 1 else q.page }

theorem TaskQuery.fromStart_of_none {q : TaskQuery} (h : q.cursor = none) : q.fromStart = q := by
  obtain ⟨_, _, _, _, cursor, _, _, _, _, _, _, _⟩ := q
  obtain rfl : cursor = none := h
  rfl

section Listings

variable {c : Settings} {now : Moment} {s : Store} {b : Board} {userId : String} {q : TaskQuery}
  {o : TaskOrder} {warning : Option QueryWarning} {text : String}

variable (now userId) in
/-- A query is refused as it would be for a first page, or else it is answered exactly if its page
can be cut. -/
theorem listTasks_paged {pager : Pager} {page : Int} {cursor : Option String} {n : Int}
    (horder : q.chosenOrder c (s.schema b) = .ok (o, warning))
    (hpager : choosePager c.pages ((q.perPage.map Json.int).getD .null) (.int q.page)
      (.ofOption q.cursor) = .ok pager)
    (hfirst : choosePager c.pages ((q.perPage.map Json.int).getD .null) (.int page)
      (.ofOption cursor) = .ok (.numbered n 1)) :
    (∃ e, listTasks c now s b userId { q with page, cursor } = .error e
        ∧ listTasks c now s b userId q = .error e)
      ∨ ∃ tasks, (∃ p a, o.page s tasks pager = .ok p ∧ listTasks c now s b userId q = .ok a)
        ∨ ∃ f, o.page s tasks pager = .error f
          ∧ listTasks c now s b userId q = .error (.fault f) := by
  have horder : chooseOrder c.missing (s.schema b) (.ofOption q.sortBy)
      (.str (if q.descending then "desc" else "asc")) = .ok (o, warning) := horder
  rcases hq : listTasks c now s b userId q with e | a
  · simp only [listTasks, bind_eq_error, orFault_eq_error, orFault_eq_ok] at hq
    simp only [listTasks, bind_eq_error, orFault_eq_error, orFault_eq_ok]
    rcases hq with hraw | ⟨⟨raw, applied⟩, hraw, htree | ⟨tree, htree, ⟨f, h, -⟩ |
      ⟨⟨o', warning'⟩, horder', ⟨f, h, -⟩ | ⟨pager', hpager', hq⟩⟩⟩⟩
    -- The steps before the page are those for the first one, but for the pager, which cannot fail.
    · exact .inl ⟨e, .inl hraw, rfl⟩
    · exact .inl ⟨e, .inr ⟨_, hraw, .inl htree⟩, rfl⟩
    · exact absurd (horder.symm.trans h) (by simp)
    · exact absurd (hpager.symm.trans h) (by simp)
    obtain ⟨rfl, rfl⟩ := Prod.mk.inj (Except.ok.inj (horder.symm.trans horder'))
    obtain rfl := Except.ok.inj (hpager.symm.trans hpager')
    rcases hq with ⟨f, hf, rfl⟩ | ⟨p, -, hsave | ⟨_, -, h⟩⟩
    · exact .inr ⟨_, .inr ⟨f, hf, rfl⟩⟩
    · obtain ⟨p', hp'⟩ := exists_firstPage o s (selectTasks s (s.schema b) q.includeArchived
        ((tree.map (Selection.ofFilter (s.schema b))).getD ⟨none, []⟩).condition) n
      exact .inl ⟨e, .inr ⟨_, hraw, .inr ⟨_, htree, .inr ⟨_, horder, .inr ⟨_, hfirst, .inr ⟨_, hp',
        .inl hsave⟩⟩⟩⟩⟩, rfl⟩
    · exact absurd h (by simp [pure, Except.pure])
  · simp only [listTasks, bind_eq_ok, orFault_eq_ok] at hq
    obtain ⟨⟨raw, applied⟩, -, tree, -, ⟨o', warning'⟩, horder', pager', hpager', p, hp, -⟩ := hq
    obtain ⟨rfl, rfl⟩ := Prod.mk.inj (Except.ok.inj (horder.symm.trans horder'))
    obtain rfl := Except.ok.inj (hpager.symm.trans hpager')
    exact .inr ⟨_, .inl ⟨p, a, hp, rfl⟩⟩

/-- A query with a cursor is refused as it would be from the start, or else it is answered exactly
if the cursor stands for a place. -/
theorem listTasks_cursor (hcursor : q.cursor = some text) (hne : text ≠ "")
    (horder : q.chosenOrder c (s.schema b) = .ok (o, warning)) :
    (∃ e, listTasks c now s b userId q.fromStart = .error e
        ∧ listTasks c now s b userId q = .error e)
      ∨ (∃ bound a, o.place text = .ok bound ∧ listTasks c now s b userId q = .ok a)
      ∨ ∃ f, o.place text = .error f ∧ listTasks c now s b userId q = .error (.fault f) := by
  obtain ⟨n, hpager, hfirst⟩ := exists_pagers c.pages q.perPage (.int q.page) hne
  have hone : q.fromStart.page = 1 := by
    rw [TaskQuery.fromStart, hcursor]
    rfl
  have hfirst : choosePager c.pages ((q.perPage.map Json.int).getD .null) (.int q.fromStart.page)
      (.ofOption none) = .ok (.numbered n 1) := by
    rw [hone]
    exact hfirst
  have hpager : choosePager c.pages ((q.perPage.map Json.int).getD .null) (.int q.page)
      (.ofOption q.cursor) = .ok (.continued n (.str text)) := by
    rw [hcursor]
    exact hpager
  rcases listTasks_paged now userId horder hpager hfirst with
    hrefused | ⟨tasks, ⟨p, a, hp, ha⟩ | ⟨f, hf, he⟩⟩
  · exact .inl hrefused
  · rw [page_of_place, map_eq_ok] at hp
    obtain ⟨bound, hbound, -⟩ := hp
    exact .inr (.inl ⟨bound, a, hbound, ha⟩)
  · rw [page_of_place, map_eq_error] at hf
    exact .inr (.inr ⟨f, hf, he⟩)

/-- The tasks of a listing match, and belong to the board. -/
theorem listed_selected {s' : Store} {l : Listing}
    (h : listTasks c now s b userId q = .ok (s', l)) :
    ∃ tasks, q.selected now s b userId = .ok tasks ∧ ∀ t ∈ l.page.items,
      t ∈ tasks ∧ t ∈ s.tasks ∧ inScope (s.schema b) q.includeArchived t = true := by
  obtain ⟨tasks, -, pager, htasks, -, -, hpage⟩ := listTasks_eq_ok h
  refine ⟨tasks, htasks, fun t ht => ?_⟩
  have hmem := mem_of_page hpage t ht
  simp only [TaskQuery.selected, bind_eq_ok, pure_eq_ok] at htasks
  obtain ⟨⟨raw, applied⟩, -, tree, -, rfl⟩ := htasks
  have hselected := List.mem_filter.1 hmem
  rw [Bool.and_eq_true] at hselected
  exact ⟨hmem, hselected.1, hselected.2.1⟩

end Listings

/-- How a request for tasks with a cursor is answered: with a page of tasks that match and belong to
the board, or with one of the sentences by which a cursor is refused. -/
inductive Reply.AnswersCursor (now : Moment) (s : Store) (b : Board) (userId : String)
    (q : TaskQuery) : Reply → Prop
  | page {s' : Store} {l : Listing} {tasks : List Task}
    (hselected : q.selected now s b userId = .ok tasks)
    (hitems : ∀ t ∈ l.page.items,
      t ∈ tasks ∧ t ∈ s.tasks ∧ inScope (s.schema b) q.includeArchived t = true) :
    AnswersCursor now s b userId q (listingReply s' userId q l)
  | invalid : AnswersCursor now s b userId q (.error 400 "Invalid cursor")
  | otherSort :
    AnswersCursor now s b userId q (.error 400 "Cursor does not match the requested sort")

theorem Reply.AnswersCursor.status {now : Moment} {s : Store} {b : Board} {userId : String}
    {q : TaskQuery} {reply : Reply} (h : reply.AnswersCursor now s b userId q) :
    reply.status = 200 ∨ reply.status = 400 := by
  cases h with
  | page => exact .inl rfl
  | invalid => exact .inr rfl
  | otherSort => exact .inr rfl

section Requests

variable {c : Settings} {now : Moment} {s : Store} {b : Board} {board text : String} {r : Request}
  {u : User} {q : TaskQuery}

/-- A request for tasks is answered as its query is. -/
theorem handle_query (hlists : r.ListsTasks board) (hboard : s.board? board = some b)
    (hu : authorize s r b = .ok u)
    (hq : TaskQuery.ofParameters c.limits r.parameters = .ok (.valid q)) :
    (handle c now s r).1 = match listTasks c now s b u.id q with
      | .ok (s', l) => listingReply s' u.id q l
      | .error e => .ofRefusal 400 e := by
  rw [handle_listsTasks hlists hboard, hu, ok_bind, handleTaskList_eq, hq]
  dsimp only
  rcases listTasks c now s b u.id q with e | a <;> rfl

/-- A cursor is stated as any text; an empty one counts as none. -/
theorem readName_cursor {params : Fields} (hsent : Fields.get params "cursor" = .str text) :
    TaskQuery.readName params "cursor" (fun _ => true) .cursorNotText
      = .valid (if text = "" then none else some text) := by
  rw [TaskQuery.readName, hsent]
  by_cases hempty : text = ""
  · subst hempty
    rfl
  · have htruthy : (Json.str text).truthy = true := bne_iff_ne.2 hempty
    rw [Json.orElse, if_pos htruthy, if_neg hempty]
    rfl

theorem cursor_of_ofParameters {l : TaskQuery.Limits} {params : Fields}
    (hsent : Fields.get params "cursor" = .str text)
    (hq : TaskQuery.ofParameters l params = .ok (.valid q)) :
    q.cursor = if text = "" then none else some text :=
  Validated.valid.inj ((parts_of_ofParameters hq).2.1.symm.trans (readName_cursor hsent))

/-- What a request with a cursor comes to. -/
theorem handle_cursor {o : TaskOrder} {warning : Option QueryWarning} (now : Moment)
    (hlists : r.ListsTasks board) (hboard : s.board? board = some b)
    (hu : authorize s r b = .ok u)
    (hq : TaskQuery.ofParameters c.limits r.parameters = .ok (.valid q))
    (hsent : Fields.get r.parameters "cursor" = .str text)
    (horder : q.chosenOrder c (s.schema b) = .ok (o, warning)) :
    (∃ e, listTasks c now s b u.id q.fromStart = .error e
        ∧ (handle c now s r).1 = .ofRefusal 400 e)
      ∨ o.Takes text ∧ Reply.AnswersCursor now s b u.id q (handle c now s r).1
      ∨ ¬ o.Takes text ∧ (handle c now s r).1 = Reply.crash := by
  have hcursor := cursor_of_ofParameters hsent hq
  have hpage {a : Store × Listing} (hl : listTasks c now s b u.id q = .ok a) :
      Reply.AnswersCursor now s b u.id q (handle c now s r).1 := by
    obtain ⟨s', l⟩ := a
    obtain ⟨tasks, hselected, hitems⟩ := listed_selected hl
    rw [handle_query hlists hboard hu hq, hl]
    exact .page hselected hitems
  rw [handle_query hlists hboard hu hq] at hpage ⊢
  split_ifs at hcursor with hne
  · -- An empty text counts as no cursor. It is taken all the same, as every order refuses it.
    subst hne
    have htakes : o.Takes "" := by
      rcases o.decodeCursor_outcome "" with ⟨hstrays, -⟩ | ⟨-, h⟩
      · exact ⟨hstrays, fun cursor h => absurd (o.decodeCursor_empty.symm.trans h) (by simp)⟩
      · rw [o.decodeCursor_empty] at h
        simp at h
    rw [TaskQuery.fromStart_of_none hcursor]
    rcases hl : listTasks c now s b u.id q with e | a
    · exact .inl ⟨e, rfl, rfl⟩
    · rw [hl] at hpage
      exact .inr (.inl ⟨htakes, hpage rfl⟩)
  rcases listTasks_cursor hcursor hne horder with
    ⟨e, hstart, hl⟩ | ⟨bound, a, hbound, hl⟩ | ⟨f, hf, hl⟩
  · rw [hl]
    exact .inl ⟨e, hstart, rfl⟩
  · rcases o.place_outcome text with ⟨htakes, -⟩ | ⟨-, f, h, -⟩
    · exact .inr (.inl ⟨htakes, hpage hl⟩)
    · exact absurd (hbound.symm.trans h) (by simp)
  · rw [hl]
    rcases o.place_outcome text with ⟨htakes, ⟨bound, h⟩ | h | h⟩ | ⟨htakes, f', h, hsilent⟩
    · exact absurd (hf.symm.trans h) (by simp)
    · obtain rfl := Except.error.inj (hf.symm.trans h)
      exact .inr (.inl ⟨htakes, .invalid⟩)
    · obtain rfl := Except.error.inj (hf.symm.trans h)
      exact .inr (.inl ⟨htakes, .otherSort⟩)
    · obtain rfl := Except.error.inj (hf.symm.trans h)
      refine .inr (.inr ⟨htakes, ?_⟩)
      simp only [Reply.ofRefusal, hsilent]

/-- A cursor does not crash a query, unless it strays past the checks or the store cannot compare
with it. Whatever the order, a text is taken as a cursor or refused in one of two sentences exactly
if it does not stray. And a request that is not refused as it would be from the start is answered
exactly if the order of the query takes the text. -/
theorem cursor_answered_iff (now : Moment) (hlists : r.ListsTasks board)
    (hboard : s.board? board = some b) (hu : authorize s r b = .ok u)
    (hq : TaskQuery.ofParameters c.limits r.parameters = .ok (.valid q))
    (hsent : Fields.get r.parameters "cursor" = .str text) :
    (∀ o : TaskOrder, ((∃ key, o.decodeCursor text = .ok key)
        ∨ o.decodeCursor text = .error (.unreadable .cursor)
        ∨ o.decodeCursor text = .error (.unreadable .cursorOfOtherSort))
      ↔ ¬ Cursor.Strays text)
    ∧ ∃ o warning, q.chosenOrder c (s.schema b) = .ok (o, warning)
      ∧ ((∃ e, listTasks c now s b u.id q.fromStart = .error e
          ∧ (handle c now s r).1 = .ofRefusal 400 e)
        ∨ (Reply.AnswersCursor now s b u.id q (handle c now s r).1 ↔ o.Takes text)
          ∧ (¬ o.Takes text → (handle c now s r).1 = Reply.crash)) := by
  refine ⟨fun o => ?_, ?_⟩
  · rcases o.decodeCursor_outcome text with ⟨hstrays, h⟩ | ⟨hstrays, h⟩
    · exact iff_of_true h hstrays
    · refine iff_of_false ?_ (not_not_intro hstrays)
      rcases h with h | h <;> simp [h]
  · obtain ⟨o, warning, horder⟩ := q.exists_chosenOrder c (s.schema b)
    refine ⟨o, warning, horder, ?_⟩
    rcases handle_cursor now hlists hboard hu hq hsent horder with
      hrefused | ⟨htakes, hanswer⟩ | ⟨htakes, hcrash⟩
    · exact .inl hrefused
    · exact .inr ⟨iff_of_true hanswer htakes, fun h => absurd htakes h⟩
    · refine .inr ⟨iff_of_false (fun hanswer => ?_) htakes, fun _ => hcrash⟩
      rw [hcrash] at hanswer
      rcases hanswer.status with h | h <;> exact absurd h (by decide)

end Requests

namespace Sample

/-- The request for the tasks of the board that sends a text as the cursor. -/
def cursorRequest (text : String) : Request :=
  { savedRequest "" with query := [("cursor", text)] }

/-- The query that `cursorRequest` states. -/
def cursorQuery (text : String) : TaskQuery :=
  ⟨.null, none, none, 1, if text = "" then none else some text, none, false, [], false, false, none,
    false⟩

/-- What a cursor holds that states no order. -/
def strayDocument : Json :=
  .obj [("s", .null), ("m", .int 0), ("v", .int 0), ("t", .str "plain"), ("id", .str "t")]

def strayCursor : String :=
  String.ofList (Base64.encode strayDocument.write.toUTF8.toList)

variable {text : String}

theorem cursorRequest_listsTasks : (cursorRequest text).ListsTasks "board" :=
  ⟨savedRequest_route "", .inl rfl, rfl⟩

theorem ofParameters_cursorRequest :
    TaskQuery.ofParameters Settings.usual.limits (cursorRequest text).parameters
      = .ok (.valid (cursorQuery text)) := by
  have hsent : Fields.get (cursorRequest text).parameters "cursor" = .str text := rfl
  rw [TaskQuery.ofParameters, readName_cursor hsent]
  rfl

theorem cursorQuery_fromStart : (cursorQuery text).fromStart = cursorQuery "" := by
  unfold TaskQuery.fromStart cursorQuery
  simp

theorem cursorQuery_answered (text userId : String) : ∃ a,
    listTasks .usual Moment.first twoBoards board userId (cursorQuery text).fromStart = .ok a := by
  have hselected : (cursorQuery "").selected Moment.first twoBoards board userId
      = .ok twoBoards.tasks := rfl
  rw [cursorQuery_fromStart]
  exact listTasks_of_selected rfl hselected rfl rfl rfl

theorem strays_strayCursor : Cursor.Strays strayCursor := by
  have hnames : ["s", "m", "v", "t", "id"].Nodup := by decide
  have hzero : (Nat.toDigits 10 (0 : Int).natAbs).length ≤ maxIntegerDigits := by decide
  have hwritable : Json.Writable strayDocument :=
    ⟨hnames, trivial, hzero, hzero, trivial, trivial, trivial⟩
  have hread : Cursor.read strayCursor = .ok (.null, ⟨0, .plain (.int 0), "t"⟩) := by
    have hbytes := Base64.decode_encode strayDocument.write.toUTF8.toList
    rw [Cursor.read, strayCursor, hbytes, Option.elim_some, ok_bind, Json.readBytes_write hwritable]
    rfl
  exact .order hread .null

theorem authorize_cursorRequest (text : String) :
    ∃ u, authorize twoBoards (cursorRequest text) board = .ok u :=
  authorize_twoBoards

end Sample

section Examples

open Sample

/-- A text that is no cursor is refused. -/
theorem cursor_answered_iff_garbage :
    ((cursorRequest "!!!").ListsTasks "board" ∧ twoBoards.board? "board" = some board
      ∧ TaskQuery.ofParameters Settings.usual.limits (cursorRequest "!!!").parameters
        = .ok (.valid (cursorQuery "!!!"))
      ∧ Fields.get (cursorRequest "!!!").parameters "cursor" = .str "!!!")
    ∧ ∃ u, authorize twoBoards (cursorRequest "!!!") board = .ok u
      ∧ (∃ a, listTasks .usual Moment.first twoBoards board u.id (cursorQuery "!!!").fromStart
        = .ok a)
      ∧ Reply.AnswersCursor Moment.first twoBoards board u.id (cursorQuery "!!!")
        (handle .usual Moment.first twoBoards (cursorRequest "!!!")).1 := by
  obtain ⟨u, hu⟩ := authorize_cursorRequest "!!!"
  obtain ⟨a, hstart⟩ := cursorQuery_answered "!!!" u.id
  have hbytes : Base64.decode "!!!".toUTF8.toList = some [] := by decide +kernel
  have hrefused (o : TaskOrder) : o.decodeCursor "!!!" = .error (.unreadable .cursor) := by
    rw [TaskOrder.decodeCursor, Cursor.read, hbytes]
    rfl
  obtain ⟨hdecoded, o, warning, -, hreply⟩ := cursor_answered_iff (c := .usual)
    Moment.first cursorRequest_listsTasks rfl hu ofParameters_cursorRequest rfl
  have htakes : o.Takes "!!!" :=
    ⟨(hdecoded o).1 (.inr (.inl (hrefused o))), fun cursor h => absurd ((hrefused o).symm.trans h)
      (by simp)⟩
  refine ⟨⟨cursorRequest_listsTasks, rfl, ofParameters_cursorRequest, rfl⟩, u, hu, ⟨a, hstart⟩, ?_⟩
  rcases hreply with ⟨e, he, -⟩ | ⟨hanswer, -⟩
  · exact absurd (hstart.symm.trans he) (by simp)
  · exact hanswer.2 htakes

/-- A cursor that states no order is neither taken nor refused, whatever the order, and ends the
request in an internal error. -/
theorem cursor_crashes :
    (¬ ∃ key, (defaultOrder .last).decodeCursor strayCursor = .ok key)
    ∧ (defaultOrder .last).decodeCursor strayCursor ≠ .error (.unreadable .cursor)
    ∧ (defaultOrder .last).decodeCursor strayCursor ≠ .error (.unreadable .cursorOfOtherSort)
    ∧ (handle .usual Moment.first twoBoards (cursorRequest strayCursor)).1.status = 500 := by
  have hstrays := strays_strayCursor
  obtain ⟨u, hu⟩ := authorize_cursorRequest strayCursor
  obtain ⟨a, hstart⟩ := cursorQuery_answered strayCursor u.id
  obtain ⟨o, warning, horder⟩ := (cursorQuery strayCursor).exists_chosenOrder .usual
    (twoBoards.schema board)
  obtain ⟨e, he, -⟩ | ⟨htakes, -⟩ | ⟨-, hcrash⟩ := handle_cursor (c := .usual) Moment.first
    cursorRequest_listsTasks rfl hu ofParameters_cursorRequest rfl horder
  · exact absurd (hstart.symm.trans he) (by simp)
  · exact absurd hstrays htakes.read
  obtain ⟨h, -⟩ | ⟨-, h⟩ := (defaultOrder .last).decodeCursor_outcome strayCursor
  · exact absurd hstrays h
  · rw [hcrash]
    refine ⟨?_, ?_, ?_, rfl⟩ <;> rcases h with h | h <;> simp [h]

end Examples

end BoardQuery
