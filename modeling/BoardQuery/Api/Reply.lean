import BoardQuery.Service.Listing
import BoardQuery.Service.Bulk

/-!
# Replies

How answers are written: tasks, saved filters, listings, and refusals with their statuses.
-/

namespace BoardQuery

/-- The answer to a request. -/
structure Reply where
  status : Nat
  body : Option Json

/-- The headers that every reply carries; one without a value is not sent. -/
def securityHeaders : List (String × Option String) := [
  ("X-Content-Type-Options", some "nosniff"),
  ("X-Frame-Options", some "DENY"),
  ("Referrer-Policy", some "strict-origin-when-cross-origin"),
  ("Content-Security-Policy", some "default-src 'none'; frame-ancestors 'none';"),
  ("Strict-Transport-Security", none)]

namespace Reply

def json (status : Nat) (fields : Fields) : Reply := ⟨status, some (.obj fields)⟩

def error (status : Nat) (message : String) : Reply := json status [("error", .str message)]

def data (v : Json) : Reply := json 200 [("data", v)]

def success : Reply := json 200 [("success", .bool true)]

def crash : Reply := error 500 "Internal server error"

/-- The reply to a request that the limiter holds back. -/
def heldBack : Reply := error 429 "Too many requests"

def filterRefused (issues : List Issue) : Reply :=
  json 422 [("error", .str "Invalid filter definition"), ("errors", .arr (issues.map (·.toJson)))]

/-- The reply to a refusal. A sentence is told with the status of the route. -/
def ofRefusal (status : Nat) (r : Refusal) : Reply :=
  match r with
  | .filter issues => filterRefused issues
  | .values keys =>
    json 422 [("error", .str "Invalid field values"),
      ("errors", .obj (keys.map fun k => (k.1, .ofStrings k.2.messages)))]
  | .value path problems =>
    json 422 [("error", .str (problemsText path problems)),
      ("errors", .obj [("path", .str path), ("messages", .ofStrings (problems.map (·.message)))])]
  | r =>
    match r.text? with
    | some text => error status text
    | none => crash

def ofParameterErrors (errors : List ParameterError) : Reply :=
  json 400 [("error", .str "Invalid query parameters"),
    ("errors", .obj (errors.map fun e => (e.name, .ofStrings e.messages)))]

end Reply

/-- A moment in an answer. -/
def momentJson (m : Option Moment) : Json :=
  .ofOption (m.map (·.isoText))

def User.toJson (u : User) : Json :=
  .obj [("id", .str u.id), ("email", .str u.email), ("full_name", .ofOption u.fullName)]

/-- The user with an id, as an answer tells of them. -/
def Store.userJson (s : Store) (id : Option String) : Json :=
  ((id.bind s.user?).map User.toJson).getD .null

/-- What an inclusion adds to a task. Some add nothing. -/
def inclusionFields (s : Store) (t : Task) : Inclusion → Fields
  | .customValues =>
    [("custom_values", .obj ((s.valuesOf t.id).map fun v => (v.columnId, v.value)))]
  | .assignee => [("assignee", s.userJson t.assignee)]
  | .creator => [("creator", s.userJson t.creator)]
  | .board =>
    [("board", .obj [("id", .str t.boardId),
      ("name", .ofOption ((s.board? t.boardId).map (·.name)))])]
  | _ => []

/-- A task in an answer. -/
def taskJson (s : Store) (inclusions : List Inclusion) (t : Task) : Json :=
  .obj ([("id", .str t.id), ("board_id", .str t.boardId), ("workspace_id", .str t.workspaceId),
    ("title", .str t.title), ("description", .ofOption t.description), ("status", .str t.status),
    ("priority", .str t.priority), ("assignee_id", .ofOption t.assignee),
    ("creator_id", .ofOption t.creator), ("position", .int t.position),
    ("due_date", momentJson t.dueDate), ("start_date", momentJson t.startDate),
    ("completed_at", momentJson t.completedAt), ("archived_at", momentJson t.archivedAt),
    ("created_at", momentJson t.createdAt.moment), ("updated_at", momentJson t.updatedAt.moment)] ++
    inclusions.flatMap (inclusionFields s t))

/-- A saved filter in an answer to a user. -/
def savedFilterJson (userId : String) (f : SavedFilter) : Json :=
  .obj [("id", .str f.id), ("board_id", .str f.boardId), ("user_id", .str f.userId),
    ("name", .str f.name), ("description", .ofOption f.description),
    ("filter_definition", f.definition), ("is_public", .bool f.isPublic),
    ("is_default", .bool f.isDefault), ("is_owner", .bool (f.userId == userId)),
    ("usage_count", .int f.usageCount), ("last_used_at", momentJson f.lastUsedAt),
    ("created_at", momentJson f.createdAt)]

/-- The saved filter with an id, as an answer tells of it. -/
def Store.filterJson (s : Store) (userId : String) (id : Option String) : Json :=
  ((id.bind s.filter?).map (savedFilterJson userId)).getD .null

/-- A listing in an answer. -/
def listingReply (s : Store) (userId : String) (q : TaskQuery) (l : Listing) : Reply :=
  .json 200 [
    ("data", .arr (l.page.items.map (taskJson s q.inclusions))),
    ("pagination", l.page.toJson),
    ("meta", .obj [
      ("filters_applied", .int l.conditions),
      ("filter_summary", .str l.summary),
      ("sort", l.order.toJson),
      ("warnings", .arr (l.warnings.map (·.toJson))),
      ("statistics", l.statistics),
      ("diagnostics", l.diagnostics.toJson),
      ("applied_saved_filter", s.filterJson userId l.appliedFilter),
      ("saved_filter", s.filterJson userId l.savedFilter)])]

/-- What is told about a filter that has been built. -/
def filterReply (c : Settings) (t : BuiltFilter) : Reply :=
  .json 200 [("valid", .bool true), ("filters", t.toRaw.toDocument),
    ("filter_summary", .str t.toRaw.summary), ("filters_applied", .int t.size),
    ("diagnostics", (diagnose c (some t)).toJson)]

/-- The outcome of a bulk operation in an answer. -/
def bulkReply (op : BulkOperation) (run : BulkRun) : Reply :=
  .data (.obj [("operation", .str op.name), ("successful_count", .int run.succeeded.length),
    ("failed_count", .int run.failed.length), ("successful_tasks", .ofStrings run.succeeded),
    ("failed_tasks", .arr (run.failed.map fun f =>
      .obj [("task_id", .str f.1), ("error", .str f.2)]))])

end BoardQuery
