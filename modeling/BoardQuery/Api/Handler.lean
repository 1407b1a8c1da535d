import BoardQuery.Api.Reply
import BoardQuery.Api.Request
import BoardQuery.Api.Route

/-!
# Answering requests

A request is checked in steps: that its path and method are known, that the board or the task it
addresses exists, that the limiter lets it through if it asks for a list of tasks, that its sender
is known, and that the sender is a member of the workspace. Only then is it carried out. A request
that fails leaves the store as it was, but for a bulk operation that a fault ends midway.
-/

namespace BoardQuery

/-- A reply, and the store after it. -/
abbrev Answered := Reply × Store

/-- What a handler comes to: a reply and the store after it, or the reply of a request that failed
and left the store as it was. -/
abbrev Handled := Except Reply Answered

/-- The store that a request was sent to goes on where the handler has no other. -/
def Handled.settle (s : Store) : Handled → Answered
  | .ok a => a
  | .error r => (r, s)

/-- The outcome of a service, with refusals told under a status. -/
def orReply {α : Type} (status : Nat) (r : Outcome α) : Except Reply α :=
  r.mapError (Reply.ofRefusal status)

/-- The active user with the token of a request. -/
def sender? (s : Store) (r : Request) : Option User := do
  let token ← r.token?
  s.users.find? fun u => u.token == token && u.active

/-- The sender of a request. -/
def authenticate (s : Store) (r : Request) : Except Reply User :=
  match sender? s r with
  | some u => .ok u
  | none => .error (.error 401 "Unauthorized")

/-- The sender of a request on a board, a member of its workspace. -/
def authorize (s : Store) (r : Request) (b : Board) : Except Reply User := do
  let u ← authenticate s r
  if s.isMember u.id b.workspaceId then return u else .error (.error 403 "Forbidden")

def boardOrReply (s : Store) (id : String) : Except Reply Board :=
  match s.board? id with
  | some b => .ok b
  | none => .error (.error 404 "Board not found")

/-- A task and its board. -/
def taskOrReply (s : Store) (id : String) : Except Reply (Task × Board) :=
  match s.task? id with
  | some t => (boardOrReply s t.boardId).map fun b => (t, b)
  | none => .error (.error 404 "Task not found")

/-- A field of the body; a body without fields fails the request. -/
def bodyField (r : Request) (name : String) : Except Reply Json :=
  (r.field name).mapError fun _ => Reply.crash

/-! ## The routes -/

def handleColumnTypes (s : Store) : Handled := do
  let entries ← orReply 500 (orFault ColumnType.catalogue)
  return (.data entries, s)

def handleColumnType (s : Store) (name : String) : Handled := do
  match ColumnType.ofName? name with
  | some t => return (.data (← orReply 500 (orFault t.describe)), s)
  | none => .error (.error 404 ("Unknown column type '" ++ name ++ "'"))

def handleTaskList (c : Settings) (now : Moment) (s : Store) (r : Request) (b : Board) (u : User) :
    Handled := do
  match ← orReply 400 (orFault (TaskQuery.ofParameters c.limits r.parameters)) with
  | .invalid errors => .error (.ofParameterErrors errors)
  | .valid q => do
    let (s, listing) ← orReply 400 (listTasks c now s b u.id q)
    return (listingReply s u.id q listing, s)

def handleFilterColumns (s : Store) (b : Board) : Handled :=
  .ok (.data (.arr ((availableColumns (s.schema b)).map (·.toJson))), s)

/-- Only issues of the filter are told; any other refusal fails the request. -/
def handleFilterCheck (c : Settings) (now : Moment) (s : Store) (r : Request) (b : Board) :
    Handled := do
  let raw ← bodyField r "filters"
  match buildFilter s now (s.schema b) false raw with
  | .ok t => return (filterReply c t, s)
  | .error (.filter issues) => .error (.filterRefused issues)
  | .error _ => .error .crash

def handleSavedFilters (s : Store) (b : Board) (u : User) : Handled :=
  .ok (.data (.arr ((usableFilters s b.id u.id).map (savedFilterJson u.id))), s)

def handleSaveFilter (now : Moment) (s : Store) (r : Request) (b : Board) (u : User) :
    Handled := do
  let draft : FilterDraft := {
    name := ← bodyField r "name"
    definition := ← bodyField r "filters"
    description := ← bodyField r "description"
    isPublic := (← bodyField r "is_public").truthy
    isDefault := (← bodyField r "is_default").truthy }
  let (s, id) ← orReply 400 (saveFilter now s (s.schema b) u.id draft)
  return (.json 201 [("data", s.filterJson u.id (some id))], s)

def handleDefaultFilter (s : Store) (b : Board) (u : User) (id : String) : Handled := do
  let s ← orReply 404 (chooseDefault s id b.id u.id)
  return (.data (s.filterJson u.id (some id)), s)

def handleDeleteFilter (s : Store) (b : Board) (u : User) (id : String) : Handled := do
  return (.success, ← orReply 404 (deleteFilter s id b.id u.id))

/-- A fault ends the operation, but not what has been stored before it. -/
def handleBulk (c : Settings) (now : Moment) (s : Store) (r : Request) (b : Board) : Handled := do
  let request : BulkRequest := {
    operation := ← bodyField r "operation"
    params := ← bodyField r "params"
    taskIds := ← bodyField r "task_ids"
    filters := ← bodyField r "filters" }
  match runBulk c now s (s.schema b) request with
  | .ok (op, run) => return (bulkReply op run, run.store)
  | .error r => return (.ofRefusal 400 r, bulkLeftover c now s (s.schema b) request)

def handleFieldValues (s : Store) (t : Task) : Handled :=
  .ok (.data (taskValues s t), s)

def handlePutValues (now : Moment) (s : Store) (r : Request) (t : Task) (b : Board) : Handled := do
  let values ← bodyField r "values"
  let s ← orReply 400 (setValues (s.surroundings now) s t (s.schema b) values)
  return (.data (taskValues s t), s)

def handleClearValue (s : Store) (t : Task) (b : Board) (columnId : String) : Handled := do
  match (s.columnsOf b.id).find? (·.id == columnId) with
  | some column => return (.success, ← orReply 400 (clearValue s t column))
  | none => .error (.error 404 "Column not found")

/-! ## The whole -/

/-- Carries out a request on a board, once its sender may. -/
def onBoard (s : Store) (r : Request) (id : String) (act : Board → User → Handled) : Handled := do
  let b ← boardOrReply s id
  if r.method == "OPTIONS" then return (⟨200, none⟩, s)
  act b (← authorize s r b)

/-- Carries out a request on a board that the limiter lets through. The board is looked up before
the limiter is asked, and the sender is only afterwards. -/
def onLimitedBoard (s : Store) (r : Request) (id : String) (act : Board → User → Handled) :
    Handled := do
  let _ ← boardOrReply s id
  if r.heldBack then .error .heldBack else onBoard s r id act

/-- Carries out a request on a task, once its sender may. -/
def onTask (s : Store) (r : Request) (id : String) (act : Task → Board → Handled) : Handled := do
  let (t, b) ← taskOrReply s id
  if r.method == "OPTIONS" then return (⟨200, none⟩, s)
  let _ ← authorize s r b
  act t b

/-- Carries out a request that any known user may send. -/
def onService (s : Store) (r : Request) (act : Handled) : Handled := do
  if r.method == "OPTIONS" then return (⟨200, none⟩, s)
  let _ ← authenticate s r
  act

/-- Carries out a request on a route that takes its method. -/
def handleRoute (c : Settings) (now : Moment) (s : Store) (r : Request) : Route → Handled
  | .columnTypes => onService s r (handleColumnTypes s)
  | .columnType name => onService s r (handleColumnType s name)
  | .taskList board => onLimitedBoard s r board (handleTaskList c now s r)
  | .filterColumns board => onBoard s r board fun b _ => handleFilterColumns s b
  | .filterCheck board => onBoard s r board fun b _ => handleFilterCheck c now s r b
  | .savedFilters board =>
    onBoard s r board fun b u =>
      if r.method == "POST" then handleSaveFilter now s r b u else handleSavedFilters s b u
  | .defaultFilter board id => onBoard s r board fun b u => handleDefaultFilter s b u id
  | .savedFilter board id => onBoard s r board fun b u => handleDeleteFilter s b u id
  | .bulk board => onBoard s r board fun b _ => handleBulk c now s r b
  | .fieldValues task =>
    onTask s r task fun t b =>
      if r.method == "PUT" then handlePutValues now s r t b else handleFieldValues s t
  | .fieldValue task column => onTask s r task fun t b => handleClearValue s t b column

/-- The reply to a request with a path that leads to no route. A path with double slashes that
leads to one without them is sent there. -/
def strayReply (r : Request) : Reply :=
  match Route.ofSegments? r.mergedSegments with
  | some route => if route.accepts r.method then ⟨308, none⟩ else ⟨405, none⟩
  | none => if r.method == "HEAD" then ⟨404, none⟩ else .error 404 "Not found"

/-- Answers a request. -/
def handle (c : Settings) (now : Moment) (s : Store) (r : Request) : Answered :=
  match Route.ofSegments? r.segments with
  | none => (strayReply r, s)
  | some route =>
    if route.accepts r.method then
      let (reply, s) := (handleRoute c now s r route).settle s
      if r.method == "HEAD" then ({ reply with body := none }, s) else (reply, s)
    else (⟨405, none⟩, s)

end BoardQuery
