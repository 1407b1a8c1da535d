import BoardQuery.Proofs.Api.Runs
import BoardQuery.Proofs.Sample

/-!
# Who is let in

A request is carried out only for those it admits: on a board or a task, an active user with its
token who is a member of the workspace of the board (`Request.Admitted`). Anyone else is told one of
a few fixed sentences, and nothing is written (`refused_unless_admitted`), however often they ask
(`serve_refused`). One of the sentences is that of the limiter, which is asked before the sender is,
and one answer sends a path with double slashes on (`stranger_held_back_or_redirected`).

What the path names is looked up before the token is. So somebody without a token learns whether a
board or a task is there (`unidentified_learns_board`), but nothing else
(`unidentified_learns_only_ids`).
-/

namespace BoardQuery

namespace Route

/-- Whether a route is of a board or of a task, and not of the catalogue of column types. -/
def OfBoard : Route → Prop
  | .columnTypes | .columnType _ => False
  | _ => True

/-- The board that a route is of: the one that its path names, or the one that the task which its
path names is on. -/
def board? (s : Store) : Route → Option Board
  | .columnTypes | .columnType _ => none
  | .taskList board | .filterColumns board | .filterCheck board | .savedFilters board
  | .defaultFilter board _ | .savedFilter board _ | .bulk board => s.board? board
  | .fieldValues task | .fieldValue task _ => (s.task? task).bind fun t => s.board? t.boardId

/-- Whether the limiter is asked on a route. -/
def limits : Route → Bool
  | .taskList _ => true
  | _ => false

/-- What a route names that is not there. A task may be there without its board. -/
def missing? (s : Store) : Route → Option String
  | .columnTypes | .columnType _ => none
  | .taskList board | .filterColumns board | .filterCheck board | .savedFilters board
  | .defaultFilter board _ | .savedFilter board _ | .bulk board =>
    if (s.board? board).isSome then none else some "Board"
  | .fieldValues task | .fieldValue task _ =>
    match s.task? task with
    | none => some "Task"
    | some t => if (s.board? t.boardId).isSome then none else some "Board"

end Route

namespace Request

/-- Whether the method of a request asks for something to be read or written. -/
abbrev Plain (r : Request) : Prop :=
  r.method ∈ ["GET", "POST", "PUT", "DELETE"]

/-- Whether a request carries the token of a user who is active. -/
def Bears (r : Request) (u : User) : Prop :=
  u.active = true ∧ r.token? = some u.token

/-- Whether a request carries the token of an active user at all. -/
def Identified (s : Store) (r : Request) : Prop :=
  ∃ u ∈ s.users, r.Bears u

/-- Whether a request carries the token of an active user who is a member of the workspace of the
board that it is sent to. -/
def Admitted (s : Store) (r : Request) : Prop :=
  ∃ route b, Route.ofSegments? r.segments = some route ∧ route.board? s = some b
    ∧ ∃ u ∈ s.users, r.Bears u ∧ ⟨u.id, b.workspaceId⟩ ∈ s.members

/-- Whether a request is to a board or a task, unless nothing answers at its path. -/
def ToBoard (r : Request) : Prop :=
  ∀ route ∈ Route.ofSegments? r.segments, route.OfBoard

/-- Whether a request is held back on a route. -/
def limitedOn (r : Request) (route : Route) : Bool :=
  route.limits && r.limited

/-- Whether a request is one too many for the limiter, on a route on which it is asked. -/
def TooFrequent (r : Request) : Prop :=
  ∃ route, Route.ofSegments? r.segments = some route ∧ r.limitedOn route = true

/-- What a request names that is not there, among what is looked for at its path. -/
def missing? (s : Store) (r : Request) : Option String :=
  ((Route.ofSegments? r.segments).filter (·.accepts r.method)).bind (·.missing? s)

end Request

namespace Reply

/-- What those are told who are not admitted. -/
def refusals : List Reply :=
  [.error 401 "Unauthorized", .error 403 "Forbidden", .error 404 "Board not found",
    .error 404 "Task not found"]

/-- What is answered at a path that is not known or does not take the method. -/
def unrouted : List Reply :=
  [⟨308, none⟩, .error 404 "Not found", ⟨405, none⟩]

end Reply

section

variable {c : Settings} {now : Moment} {s : Store} {r : Request} {route : Route} {b : Board}
  {u : User}

/-! ## Tokens and members -/

theorem identified_of_sender? (h : sender? s r = some u) : u ∈ s.users ∧ r.Bears u := by
  simp only [sender?, Option.bind_eq_bind, Option.bind_eq_some_iff] at h
  obtain ⟨token, htoken, hfind⟩ := h
  have hu := List.find?_some hfind
  simp only [Bool.and_eq_true, beq_iff_eq] at hu
  exact ⟨List.mem_of_find?_eq_some hfind, hu.2, by rw [htoken, hu.1]⟩

theorem sender?_eq_none (h : ¬ r.Identified s) : sender? s r = none := by
  rcases hu : sender? s r with _ | u
  · rfl
  · exact absurd ⟨u, identified_of_sender? hu⟩ h

theorem authorize_of_unknown (h : sender? s r = none) :
    authorize s r b = .error (.error 401 "Unauthorized") := by
  simp only [authorize, authenticate, h, error_bind]

theorem authorize_refuses
    (h : ∀ u ∈ s.users, r.Bears u → ⟨u.id, b.workspaceId⟩ ∉ s.members) :
    authorize s r b = .error (.error 401 "Unauthorized")
      ∨ authorize s r b = .error (.error 403 "Forbidden") := by
  rcases hu : sender? s r with _ | u
  · exact .inl (authorize_of_unknown hu)
  · obtain ⟨hmem, hsent⟩ := identified_of_sender? hu
    have houtside : ¬ s.isMember u.id b.workspaceId = true := by
      rw [Store.isMember, List.contains_iff_mem]
      exact h u hmem hsent
    exact .inr (by simp only [authorize, authenticate, hu, ok_bind, if_neg houtside])

theorem Request.Plain.ne (h : r.Plain) : r.method ≠ "OPTIONS" ∧ r.method ≠ "HEAD" := by
  constructor <;> intro hmethod <;> simp [Plain, hmethod] at h

/-! ## What a route checks first -/

theorem onBoard_checks {id : String} (act : Board → User → Handled) (hr : r.Plain) :
    (s.board? id = none ∧ onBoard s r id act = .error (.error 404 "Board not found"))
      ∨ ∃ b, s.board? id = some b ∧ onBoard s r id act = authorize s r b >>= act b := by
  have hmethod : ¬ (r.method == "OPTIONS") = true := by simpa using hr.ne.1
  rcases hb : s.board? id with _ | b
  · refine .inl ⟨rfl, ?_⟩
    simp only [onBoard, boardOrReply, hb, error_bind]
  · refine .inr ⟨b, rfl, ?_⟩
    simp only [onBoard, boardOrReply, hb, ok_bind, if_neg hmethod]

theorem onLimitedBoard_checks {id : String} (act : Board → User → Handled) (hr : r.Plain) :
    (s.board? id = none ∧ onLimitedBoard s r id act = .error (.error 404 "Board not found"))
      ∨ ∃ b, s.board? id = some b
        ∧ ((r.limited = true ∧ onLimitedBoard s r id act = .error .heldBack)
          ∨ r.limited = false ∧ onLimitedBoard s r id act = authorize s r b >>= act b) := by
  have hheld : r.heldBack = r.limited := by
    rw [Request.heldBack, bne_iff_ne.2 hr.ne.1, Bool.and_true]
  rw [onLimitedBoard_eq, hheld]
  rcases onBoard_checks act hr with ⟨hb, h⟩ | ⟨b, hb, h⟩
  · exact .inl ⟨hb, by rw [hb, h]; rfl⟩
  · refine .inr ⟨b, hb, ?_⟩
    rw [hb, h]
    cases r.limited
    · exact .inr ⟨rfl, rfl⟩
    · exact .inl ⟨rfl, rfl⟩

theorem onTask_checks {id : String} {act : Task → Board → Handled} (hr : r.Plain) :
    (s.task? id = none ∧ onTask s r id act = .error (.error 404 "Task not found"))
      ∨ ∃ t, s.task? id = some t
        ∧ ((s.board? t.boardId = none ∧ onTask s r id act = .error (.error 404 "Board not found"))
          ∨ ∃ b, s.board? t.boardId = some b
            ∧ onTask s r id act = authorize s r b >>= fun _ => act t b) := by
  have hmethod : ¬ (r.method == "OPTIONS") = true := by simpa using hr.ne.1
  rcases ht : s.task? id with _ | t
  · refine .inl ⟨rfl, ?_⟩
    simp only [onTask, taskOrReply, ht, error_bind]
  · refine .inr ⟨t, rfl, ?_⟩
    rcases hb : s.board? t.boardId with _ | b
    · refine .inl ⟨rfl, ?_⟩
      simp only [onTask, taskOrReply, ht, boardOrReply, hb, Except.map, error_bind]
    · refine .inr ⟨b, rfl, ?_⟩
      simp only [onTask, taskOrReply, ht, boardOrReply, hb, Except.map, ok_bind, if_neg hmethod]

/-- Before anything is done on a board or a task, it is looked up, the limiter is asked on the one
route that it limits, and the sender is held against the members of the workspace. -/
theorem handleRoute_checks (hroute : route.OfBoard) (hr : r.Plain) :
    (∃ what ∈ ["Board", "Task"], route.missing? s = some what
        ∧ handleRoute c now s r route = .error (.error 404 (what ++ " not found")))
      ∨ ∃ b, route.missing? s = none ∧ route.board? s = some b
        ∧ ((r.limitedOn route = true ∧ handleRoute c now s r route = .error .heldBack)
          ∨ r.limitedOn route = false
            ∧ ∃ act, handleRoute c now s r route = authorize s r b >>= act) := by
  have honBoard {id : String} {act : Board → User → Handled} :
      (∃ what ∈ ["Board", "Task"],
        (if (s.board? id).isSome then none else some "Board") = some what
          ∧ onBoard s r id act = .error (.error 404 (what ++ " not found")))
      ∨ ∃ b, (if (s.board? id).isSome then none else some "Board") = none
        ∧ s.board? id = some b ∧ ((false = true ∧ onBoard s r id act = .error .heldBack)
          ∨ false = false ∧ ∃ act', onBoard s r id act = authorize s r b >>= act') := by
    rcases onBoard_checks _ hr with ⟨hb, h⟩ | ⟨b, hb, h⟩
    · exact .inl ⟨"Board", by decide, by rw [hb]; rfl, h⟩
    · exact .inr ⟨b, by rw [hb]; rfl, hb, .inr ⟨rfl, act b, h⟩⟩
  have honTask {id : String} {act : Task → Board → Handled} :
      (∃ what ∈ ["Board", "Task"], (Route.fieldValues id).missing? s = some what
          ∧ onTask s r id act = .error (.error 404 (what ++ " not found")))
      ∨ ∃ b, (Route.fieldValues id).missing? s = none ∧ (Route.fieldValues id).board? s = some b
        ∧ ((false = true ∧ onTask s r id act = .error .heldBack)
          ∨ false = false ∧ ∃ act', onTask s r id act = authorize s r b >>= act') := by
    rcases onTask_checks hr with ⟨ht, h⟩ | ⟨t, ht, ⟨hb, h⟩ | ⟨b, hb, h⟩⟩
    · exact .inl ⟨"Task", by decide, by simp [Route.missing?, ht], h⟩
    · exact .inl ⟨"Board", by decide, by simp [Route.missing?, ht, hb], h⟩
    · exact .inr ⟨b, by simp [Route.missing?, ht, hb], by simp [Route.board?, ht, hb],
        .inr ⟨rfl, _, h⟩⟩
  cases route with
  | columnTypes | columnType => exact absurd hroute (by simp [Route.OfBoard])
  | taskList board =>
    rcases onLimitedBoard_checks (handleTaskList c now s r) hr with
      ⟨hb, h⟩ | ⟨b, hb, ⟨hlimited, h⟩ | ⟨hlimited, h⟩⟩
    · exact .inl ⟨"Board", by decide, by rw [Route.missing?, hb]; rfl, h⟩
    · exact .inr ⟨b, by rw [Route.missing?, hb]; rfl, hb, .inl ⟨hlimited, h⟩⟩
    · exact .inr ⟨b, by rw [Route.missing?, hb]; rfl, hb, .inr ⟨hlimited, _, h⟩⟩
  | fieldValues | fieldValue =>
    rw [handleRoute]
    exact honTask
  | filterColumns | filterCheck | savedFilters | defaultFilter | savedFilter | bulk =>
    exact honBoard

/-- Whoever is no member of the workspace is refused. -/
theorem handleRoute_refuses (c : Settings) (now : Moment) (hroute : route.OfBoard) (hr : r.Plain)
    (h : ∀ b, route.board? s = some b → ∀ u ∈ s.users, r.Bears u →
      ⟨u.id, b.workspaceId⟩ ∉ s.members) :
    ∃ reply, (reply ∈ Reply.refusals ∨ (r.limitedOn route = true ∧ reply = .heldBack))
      ∧ handleRoute c now s r route = .error reply := by
  rcases handleRoute_checks hroute hr with ⟨what, hwhat, -, hreply⟩ | ⟨b, -, hb,
    ⟨hlimited, hreply⟩ | ⟨-, act, hreply⟩⟩
  · refine ⟨_, .inl ?_, hreply⟩
    simp only [List.mem_cons, List.not_mem_nil, or_false] at hwhat
    rcases hwhat with rfl | rfl <;> simp [Reply.refusals]
  · exact ⟨_, .inr ⟨hlimited, rfl⟩, hreply⟩
  · rcases authorize_refuses (h b hb) with hu | hu <;> rw [hu, error_bind] at hreply
    · exact ⟨_, .inl (by simp [Reply.refusals]), hreply⟩
    · exact ⟨_, .inl (by simp [Reply.refusals]), hreply⟩

/-- What somebody without a token is told, depending on whether the request is held back and on
what is missing. -/
def Reply.toUnknown (limited : Bool) : Option String → Reply
  | none => if limited then .heldBack else .error 401 "Unauthorized"
  | some what => .error 404 (what ++ " not found")

theorem Reply.toUnknown_inj {limited : Bool} {m₁ m₂ : Option String} :
    Reply.toUnknown limited m₁ = Reply.toUnknown limited m₂ ↔ m₁ = m₂ := by
  have hne (what : String) :
      (Reply.toUnknown limited none).status ≠ (Reply.toUnknown limited (some what)).status := by
    cases limited <;> simp [toUnknown, heldBack, error, json]
  refine ⟨fun h => ?_, congrArg _⟩
  rcases m₁ with _ | what₁ <;> rcases m₂ with _ | what₂
  · rfl
  · exact absurd (congrArg Reply.status h) (hne what₂)
  · exact absurd (congrArg Reply.status h).symm (hne what₁)
  · simp [toUnknown, error, json] at h
    rw [h]

theorem handleRoute_of_unknown (hr : r.Plain) (h : ¬ r.Identified s) :
    handleRoute c now s r route
      = .error (.toUnknown (r.limitedOn route) (route.missing? s)) := by
  have hservice (act : Handled) :
      onService s r act = .error (.error 401 "Unauthorized") := by
    have hmethod : ¬ (r.method == "OPTIONS") = true := by simpa using hr.ne.1
    simp only [onService, if_neg hmethod, authenticate, sender?_eq_none h, error_bind]
  by_cases hroute : route.OfBoard
  · rcases handleRoute_checks hroute hr with ⟨what, -, hmissing, hreply⟩ | ⟨b, hmissing, -,
      ⟨hlimited, hreply⟩ | ⟨hlimited, act, hreply⟩⟩
    · rw [hreply, hmissing]
      rfl
    · rw [hreply, hmissing, hlimited]
      rfl
    · rw [hreply, hmissing, hlimited, authorize_of_unknown (sender?_eq_none h), error_bind]
      rfl
  · cases route with
    | columnTypes | columnType => exact hservice _
    | _ => exact absurd trivial hroute

/-! ## The whole answer -/

/-- Whether nothing answers at the path of a request, or not to its method. -/
def Request.Unrouted (r : Request) : Prop :=
  ∀ route ∈ Route.ofSegments? r.segments, route.accepts r.method = false

theorem strayReply_unrouted (hr : r.Plain) : strayReply r ∈ Reply.unrouted := by
  have hhead : ¬ (r.method == "HEAD") = true := by simpa using hr.ne.2
  unfold strayReply
  split
  · split_ifs <;> simp [Reply.unrouted]
  · rw [if_neg hhead]
    simp [Reply.unrouted]

theorem handle_of_unrouted (hr : r.Plain) (h : r.Unrouted) :
    ∃ reply ∈ Reply.unrouted, ∀ c now s, handle c now s r = (reply, s) := by
  rcases hroute : Route.ofSegments? r.segments with _ | route
  · exact ⟨strayReply r, strayReply_unrouted hr, fun c now s => by simp only [handle, hroute]⟩
  · refine ⟨⟨405, none⟩, by simp [Reply.unrouted], fun c now s => ?_⟩
    simp only [handle, hroute, h route hroute, Bool.false_eq_true, if_false]

theorem handle_of_error (hr : r.Plain) (hroute : Route.ofSegments? r.segments = some route)
    (haccepts : route.accepts r.method = true) {reply : Reply}
    (h : handleRoute c now s r route = .error reply) : handle c now s r = (reply, s) := by
  have hmethod : ¬ (r.method == "HEAD") = true := by simpa using hr.ne.2
  simp only [handle, hroute, haccepts, if_true, h, Handled.settle, if_neg hmethod]

theorem unrouted_or_routed (r : Request) : r.Unrouted
    ∨ ∃ route, Route.ofSegments? r.segments = some route ∧ route.accepts r.method = true := by
  rcases hroute : Route.ofSegments? r.segments with _ | route
  · exact .inl fun route h => absurd (hroute.symm.trans h) (by simp)
  · rcases haccepts : route.accepts r.method
    · refine .inl fun route' h => ?_
      rw [← Option.some.inj (hroute.symm.trans h)]
      exact haccepts
    · exact .inr ⟨route, rfl, haccepts⟩

theorem handle_refuses (c : Settings) (now : Moment) (hr : r.Plain) (hboard : r.ToBoard)
    (h : ¬ r.Admitted s) :
    ∃ reply, (reply ∈ Reply.refusals ∨ (r.TooFrequent ∧ reply = .heldBack)
        ∨ (r.Unrouted ∧ reply ∈ Reply.unrouted))
      ∧ handle c now s r = (reply, s) := by
  rcases unrouted_or_routed r with hunrouted | ⟨route, hroute, haccepts⟩
  · obtain ⟨reply, hreply, hanswer⟩ := handle_of_unrouted hr hunrouted
    exact ⟨reply, .inr (.inr ⟨hunrouted, hreply⟩), hanswer c now s⟩
  · have houtside : ∀ b, route.board? s = some b → ∀ u ∈ s.users, r.Bears u →
        ⟨u.id, b.workspaceId⟩ ∉ s.members :=
      fun b hb u hu hbears hmember => h ⟨route, b, hroute, hb, u, hu, hbears, hmember⟩
    obtain ⟨reply, hreply, hanswer⟩ := handleRoute_refuses c now (hboard route hroute) hr houtside
    refine ⟨reply, ?_, handle_of_error hr hroute haccepts hanswer⟩
    exact hreply.imp_right fun h => .inl ⟨⟨route, hroute, h.1⟩, h.2⟩

theorem handle_of_unidentified (hr : r.Plain) (h : ¬ r.Identified s)
    (hroute : Route.ofSegments? r.segments = some route)
    (haccepts : route.accepts r.method = true) :
    handle c now s r = (.toUnknown (r.limitedOn route) (r.missing? s), s) := by
  have hmissing : r.missing? s = route.missing? s := by
    simp only [Request.missing?, hroute, Option.filter_some, haccepts, if_true, Option.bind_some]
  rw [hmissing]
  exact handle_of_error hr hroute haccepts (handleRoute_of_unknown hr h)

theorem missing?_of_unrouted (h : r.Unrouted) : r.missing? s = none := by
  rcases hroute : Route.ofSegments? r.segments with _ | route
  · simp only [Request.missing?, hroute, Option.filter_none, Option.bind_none]
  · simp only [Request.missing?, hroute, Option.filter_some, h route hroute, Bool.false_eq_true,
      if_false, Option.bind_none]

end

/-! ## Those who are not admitted -/

/-- Unless a request is sent by a member of the workspace, it is told one of a few fixed sentences,
and nothing is written. That it is one too many is only told where the limiter says so. -/
theorem refused_unless_admitted {c : Settings} {now : Moment} {s : Store} {r : Request}
    (hr : r.Plain) (hboard : r.ToBoard) (h : ¬ r.Admitted s) :
    ((handle c now s r).1 ∈ Reply.refusals
        ∨ (r.TooFrequent ∧ (handle c now s r).1 = .heldBack)
        ∨ (r.Unrouted ∧ (handle c now s r).1 ∈ Reply.unrouted))
      ∧ (handle c now s r).2 = s := by
  obtain ⟨reply, hreply, hanswer⟩ := handle_refuses c now hr hboard h
  rw [hanswer]
  exact ⟨hreply, rfl⟩

/-- Two boards, and a user who is a member of no workspace. -/
def Sample.withGuest : Store :=
  { twoBoards with
    users := twoBoards.users ++ [⟨"v", "v@example.com", none, "guest", true⟩] }

/-- The request of the guest to move the task to the other board. -/
def Sample.guestRequest : Request :=
  { moveRequest with authorization := some "Bearer guest" }

theorem Sample.guestRequest_not_admitted : ¬ guestRequest.Admitted withGuest := by
  rintro ⟨route, b, -, -, u, hu, ⟨-, htoken⟩, hmember⟩
  have hguest : guestRequest.token? = some "guest" := by decide +kernel
  have htoken : "guest" = u.token := Option.some.inj (hguest.symm.trans htoken)
  have hid : u.id = "u" := congrArg Membership.userId (List.mem_singleton.1 hmember)
  simp only [withGuest, twoBoards, List.cons_append, List.nil_append, List.mem_cons,
    List.not_mem_nil, or_false] at hu
  rcases hu with rfl | rfl
  · exact absurd htoken (by decide)
  · exact absurd hid (by decide)

/-- The guest is refused, and the task stays where it is. -/
theorem refused_unless_admitted_guest :
    (handle .usual Moment.first Sample.withGuest Sample.guestRequest).1 ∈ Reply.refusals
      ∧ (handle .usual Moment.first Sample.withGuest Sample.guestRequest).2
        = Sample.withGuest := by
  have hroute : Route.ofSegments? Sample.guestRequest.segments = some (.bulk "board") := by
    decide +kernel
  have hboard : Sample.guestRequest.ToBoard := by
    intro route h
    obtain rfl := Option.some.inj (hroute.symm.trans h)
    trivial
  have hplain : Sample.guestRequest.Plain := by decide
  obtain ⟨hreply | ⟨⟨route, hlist, hlimited⟩, -⟩ | ⟨hunrouted, -⟩, hsame⟩ :=
    @refused_unless_admitted .usual Moment.first _ _ hplain hboard Sample.guestRequest_not_admitted
  · exact ⟨hreply, hsame⟩
  · obtain rfl := Option.some.inj (hroute.symm.trans hlist)
    exact absurd hlimited (by decide)
  · exact absurd (hunrouted _ hroute) (by decide)

/-- The request to list the tasks of the board, without a token. -/
def Sample.anonymousRequest : Request where
  method := "GET"
  path := "/api/boards/board/tasks/filter"
  authorization := none
  query := []
  body := .absent

/-- Whoever sends no token is not identified, and admitted nowhere. -/
theorem unidentified_of_anonymous {r : Request} (h : r.authorization = none) (s : Store) :
    ¬ r.Identified s ∧ ¬ r.Admitted s := by
  have hnone : r.token? = none := by
    rw [Request.token?, h]
    rfl
  constructor
  · rintro ⟨u, -, -, htoken⟩
    exact absurd (hnone.symm.trans htoken) (by simp)
  · rintro ⟨-, -, -, -, u, -, ⟨-, htoken⟩, -⟩
    exact absurd (hnone.symm.trans htoken) (by simp)

/-- The same request, as one too many. -/
def Sample.frequentRequest : Request :=
  { anonymousRequest with limited := true }

/-- The same request, with a double slash in its path. -/
def Sample.slashedRequest : Request :=
  { anonymousRequest with path := "/api//boards/board/tasks/filter" }

/-- Without a token, a request that is one too many is answered with 429, and one with a double
slash in its path with 308. -/
theorem stranger_held_back_or_redirected :
    (Sample.frequentRequest.Plain ∧ Sample.frequentRequest.ToBoard
        ∧ ¬ Sample.frequentRequest.Admitted Sample.twoBoards
        ∧ (handle .usual Moment.first Sample.twoBoards Sample.frequentRequest).1
          = .error 429 "Too many requests")
      ∧ Sample.slashedRequest.Plain ∧ Sample.slashedRequest.ToBoard
        ∧ ¬ Sample.slashedRequest.Admitted Sample.twoBoards
        ∧ (handle .usual Moment.first Sample.twoBoards Sample.slashedRequest).1 = ⟨308, none⟩ := by
  have hlist : Route.ofSegments? Sample.frequentRequest.segments = some (.taskList "board") := by
    decide +kernel
  have hnone : Route.ofSegments? Sample.slashedRequest.segments = none := by decide +kernel
  have hmerged : Route.ofSegments? Sample.slashedRequest.mergedSegments
      = some (.taskList "board") := by decide +kernel
  refine ⟨⟨by decide, ?_, (unidentified_of_anonymous rfl _).2, ?_⟩,
    by decide, ?_, (unidentified_of_anonymous rfl _).2, ?_⟩
  · intro route h
    obtain rfl := Option.some.inj (hlist.symm.trans h)
    trivial
  · simp only [handle, hlist]
    rfl
  · intro route h
    exact absurd (hnone.symm.trans h) (by simp)
  · simp only [handle, hnone, strayReply, hmerged]
    rfl

/-- However many requests are sent by those who are not admitted, none of them changes anything. -/
theorem serve_refused {c : Settings} {s : Store} : (requests : List (Moment × Request)) →
    (∀ r ∈ requests, r.2.Plain ∧ r.2.ToBoard ∧ ¬ r.2.Admitted s) →
    serve c s requests = s
      ∧ ∀ reply ∈ replies c s requests,
        reply ∈ Reply.heldBack :: (Reply.refusals ++ Reply.unrouted)
  | [], _ => ⟨rfl, fun reply h => absurd h List.not_mem_nil⟩
  | r :: requests, h => by
    obtain ⟨hplain, hboard, hr⟩ := h r List.mem_cons_self
    obtain ⟨reply, hreply, hanswer⟩ := handle_refuses c r.1 hplain hboard hr
    obtain ⟨hrest, hreplies⟩ := serve_refused requests fun r' hr' => h r' (.tail r hr')
    rw [serve_cons, replies, hanswer]
    refine ⟨hrest, fun reply' hmem => ?_⟩
    rcases List.mem_cons.1 hmem with rfl | hmem
    · rw [List.mem_cons, List.mem_append]
      rcases hreply with hreply | ⟨-, hreply⟩ | ⟨-, hreply⟩
      · exact .inr (.inl hreply)
      · exact .inl hreply
      · exact .inr (.inr hreply)
    · exact hreplies reply' hmem

/-! ## Those without a token -/

/-- Somebody without a token is answered alike in any two stores in which the same is missing at
the path, and only then, and nothing is written. -/
theorem unidentified_learns_only_ids {c₁ c₂ : Settings} {now₁ now₂ : Moment} {s₁ s₂ : Store}
    {r : Request} (hr : r.Plain) (h₁ : ¬ r.Identified s₁) (h₂ : ¬ r.Identified s₂) :
    ((handle c₁ now₁ s₁ r).1 = (handle c₂ now₂ s₂ r).1 ↔ r.missing? s₁ = r.missing? s₂)
      ∧ (handle c₁ now₁ s₁ r).2 = s₁ := by
  rcases unrouted_or_routed r with hunrouted | ⟨route, hroute, haccepts⟩
  · obtain ⟨reply, -, hanswer⟩ := handle_of_unrouted hr hunrouted
    rw [hanswer, hanswer, missing?_of_unrouted hunrouted, missing?_of_unrouted hunrouted]
    exact ⟨⟨fun _ => rfl, fun _ => rfl⟩, rfl⟩
  · rw [handle_of_unidentified hr h₁ hroute haccepts, handle_of_unidentified hr h₂ hroute haccepts]
    dsimp only
    exact ⟨Reply.toUnknown_inj, rfl⟩

/-- Of the board, only that it is there is told. -/
theorem unidentified_learns_only_presence :
    (handle .usual Moment.first Sample.twoBoards Sample.anonymousRequest).1
      = (handle .usual Moment.first { Store.empty with boards := [Sample.board] }
        Sample.anonymousRequest).1 :=
  (unidentified_learns_only_ids (by decide)
    (unidentified_of_anonymous rfl _).1 (unidentified_of_anonymous rfl _).1).1.2
    (by decide +kernel)

/-- Somebody without a token is told whether there is a board. -/
theorem unidentified_learns_board :
    Sample.anonymousRequest.Plain ∧ ¬ Sample.anonymousRequest.Identified Sample.twoBoards
      ∧ ¬ Sample.anonymousRequest.Identified Store.empty
      ∧ (handle .usual Moment.first Sample.twoBoards Sample.anonymousRequest).1
        ≠ (handle .usual Moment.first Store.empty Sample.anonymousRequest).1 := by
  refine ⟨by decide, (unidentified_of_anonymous rfl _).1, (unidentified_of_anonymous rfl _).1,
    fun h => ?_⟩
  have hstatus := congrArg Reply.status h
  exact absurd hstatus (by decide +kernel)

end BoardQuery
