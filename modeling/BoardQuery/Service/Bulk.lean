import BoardQuery.Service.SavedFilters
import BoardQuery.Service.Settings

/-!
# Bulk operations

One operation on many tasks, which are named by their ids or selected by a filter. The operation
and its parameters are checked before any task is touched. Then each task is changed by itself: one
that fails stays as it was, and the others go on. A fault ends the operation, which then has no
answer, but the changes before it may have been stored.
-/

namespace BoardQuery

/-- What can be done to many tasks. -/
inductive BulkOperation where
  | setStatus
  | setPriority
  | assign
  | setDueDate
  | move
  | archive
  | unarchive
  | delete
  | addLabels
  | removeLabels
  | setField
  deriving DecidableEq, Repr

namespace BulkOperation

def every : List BulkOperation := [.setStatus, .setPriority, .assign, .setDueDate, .move, .archive,
  .unarchive, .delete, .addLabels, .removeLabels, .setField]

def name : BulkOperation → String
  | .setStatus => "set_status"
  | .setPriority => "set_priority"
  | .assign => "assign"
  | .setDueDate => "set_due_date"
  | .move => "move"
  | .archive => "archive"
  | .unarchive => "unarchive"
  | .delete => "delete"
  | .addLabels => "add_labels"
  | .removeLabels => "remove_labels"
  | .setField => "set_field"

def ofName? (s : String) : Option BulkOperation :=
  every.find? (·.name == s)

/-- The operation that a value names. Arrays and objects cannot be names at all. -/
def ofJson (v : Json) : Outcome BulkOperation :=
  if !v.isScalar then .error (.fault .wrongShape)
  else
    match v.str?.bind ofName? with
    | some op => .ok op
    | none => refuse (.unknownOperation v (every.map (·.name)))

/-- Archived tasks are only reached by the operations that make sense for them. -/
def reachesArchived (op : BulkOperation) : Bool :=
  op == .unarchive || op == .delete

end BulkOperation

/-- An operation with its parameters, ready to be applied to a task. -/
inductive TaskChange where
  | status (name : String)
  | priority (name : String)
  | assignee (userId : Option String)
  | dueDate (date : Option Moment)
  /-- To a board with these columns. -/
  | board (target : Board) (columns : List BoardColumn)
  | archive
  | unarchive
  | delete
  | addLabels (column : BoardColumn) (labels : List String)
  | removeLabels (column : BoardColumn) (labels : List String)
  | field (column : BoardColumn) (raw : Json)

/-! ## Preparation -/

/-- A parameter of an operation; a set of parameters must be an object. -/
def bulkParameter (params : Json) (name : String) : Except Fault Json :=
  match params.orElse (.obj []) with
  | .obj fields => .ok (Fields.get fields name)
  | _ => .error .noFields

/-- A name out of a list. -/
def nameIn? (names : List String) (v : Json) : Option String :=
  v.str?.filter names.contains

/-- The text under which the store looks a value up; NaN has none. -/
def lookupText (v : Json) : Except Fault (Option String) :=
  match v with
  | .str s => .ok (some s)
  | .bool b => .ok (some (if b then "1" else "0"))
  | .int n => if fitsInteger n then .ok (some (String.ofList (intText n))) else .error .outOfRange
  | .num .nan => .ok none
  | .num x => .ok (some (String.ofList (NumberStyle.stored.text x)))
  | _ => .error .refused

/-- The user to assign, who must belong to the workspace; null assigns no one. -/
def prepareAssignee (s : Store) (workspaceId : String) (v : Json) : Outcome TaskChange := do
  if v.isNull then return .assignee none
  match ← orFault (lookupText v) with
  | some id =>
    if s.isMember id workspaceId then return .assignee (some id) else refuse (.notMember v)
  | none => refuse (.notMember v)

/-- The due date to set; null clears it. -/
def prepareDueDate (now : Moment) (v : Json) : Outcome TaskChange := do
  if v.isNull then return .dueDate none
  match ← orFault (v.toMoment? now) with
  | some m => return .dueDate (some m)
  | none => refuse (.noDueDate v)

/-- The id that a value gives for a board: a scalar, alone in an array or as the only field `id`. -/
def boardIdValue (v : Json) : Except Fault Json :=
  match v.orElse (.str "") with
  | .arr [v] => .ok v
  | .arr _ => .error .refused
  | .obj [(name, v)] => if name == "id" then .ok v else .error .refused
  | .obj _ => .error .refused
  | v => .ok v

/-- The board to move to, another one of the same workspace. -/
def prepareMove (s : Store) (schema : BoardSchema) (v : Json) : Outcome TaskChange := do
  let id ← orFault (boardIdValue v)
  let key ← if id.isNull then pure none else orFault (lookupText id)
  match (key.bind s.board?).filter (·.workspaceId == schema.workspaceId) with
  | none => refuse .targetNotFound
  | some target =>
    if target.id == schema.boardId then refuse .alreadyThere
    else return .board target (s.columns.filter (·.boardId == target.id))

/-- The column that a parameter names. -/
def namedColumn (schema : BoardSchema) (v : Json) : Except Fault (Option BoardColumn) :=
  match v.orElse (.str "") with
  | .str name => .ok (schema.find? name)
  | _ => .error .noFields

/-- A labels column, and the labels in canonical form. -/
def prepareLabels (env : Surroundings) (schema : BoardSchema) (name labels : Json)
    (change : BoardColumn → List String → TaskChange) : Outcome TaskChange := do
  match ← orFault (namedColumn schema name) with
  | none => refuse (.notLabelsColumn name)
  | some c => do
    let t ← orFault c.columnType
    if t != .labels then refuse (.notLabelsColumn name)
    match ((← validateFor env c "labels" labels).strings?).getD [] with
    | [] => refuse .noLabels
    | labels => return change c labels

/-- An operation with its parameters. -/
def prepareChange (env : Surroundings) (s : Store) (schema : BoardSchema) (op : BulkOperation)
    (params : Json) : Outcome TaskChange := do
  let parameter (name : String) : Outcome Json := orFault (bulkParameter params name)
  match op with
  | .setStatus => do
    let v ← parameter "status"
    match nameIn? taskStatuses v with
    | some name => return .status name
    | none => refuse (.unknownStatus v)
  | .setPriority => do
    let v ← parameter "priority"
    match nameIn? taskPriorities v with
    | some name => return .priority name
    | none => refuse (.unknownPriority v)
  | .assign => do prepareAssignee s schema.workspaceId (← parameter "assignee_id")
  | .setDueDate => do prepareDueDate env.now (← parameter "due_date")
  | .move => do prepareMove s schema (← parameter "target_board_id")
  | .archive => return .archive
  | .unarchive => return .unarchive
  | .delete => return .delete
  | .addLabels => do
    prepareLabels env schema (← parameter "column") (← parameter "labels") .addLabels
  | .removeLabels => do
    prepareLabels env schema (← parameter "column") (← parameter "labels") .removeLabels
  | .setField => do
    let name ← parameter "column"
    match ← orFault (namedColumn schema name) with
    | some c => return .field c (← parameter "value")
    | none => refuse (.unknownColumn name)

/-! ## Selection -/

/-- Which tasks an operation is for. -/
structure Targets where
  tasks : List Task
  /-- The ids that name no task in reach. -/
  missing : List String

/-- The tasks with the given ids, in the order given. -/
def targetsById (s : Store) (schema : BoardSchema) (archived : Bool) (limit : Int) (ids : Json) :
    Outcome Targets := do
  match ids.strings? with
  | none => refuse .badTaskIds
  | some ids => do
    let ids := distinct ids
    if limit < ids.length then refuse (.tooManyTasks limit)
    let found (id : String) : Option Task := (s.task? id).filter (inScope schema archived)
    return ⟨ids.filterMap found, ids.filter fun id => (found id).isNone⟩

/-- The tasks that a filter selects, in the order of a board. -/
def targetsByFilter (now : Moment) (s : Store) (schema : BoardSchema) (archived : Bool)
    (limit : Int) (filters : Json) : Outcome Targets := do
  let tree ← buildFilter s now schema false filters
  let tasks := selectTasks s schema archived (Selection.ofFilter schema tree).condition
  if limit < tasks.length then refuse (.tooManyTasks limit)
  return ⟨tasks.mergeSort fun a b =>
    a.position < b.position || (a.position == b.position && a.id ≤ b.id), []⟩

/-- The tasks that an operation is for, by their ids or by a filter. -/
def selectTargets (now : Moment) (s : Store) (schema : BoardSchema) (archived : Bool) (limit : Int)
    (ids filters : Json) : Outcome Targets :=
  if ids.isNull == filters.isNull then refuse .noSelection
  else if ids.isNull then targetsByFilter now s schema archived limit filters
  else targetsById s schema archived limit ids

/-! ## Application -/

/-- A task with a status. One that is done keeps its first time of completion. -/
def Task.withStatus (now : Moment) (name : String) (t : Task) : Task :=
  { t with
    status := name
    completedAt := if name == "done" then some (t.completedAt.getD now) else none }

/-- The value of a task in the column of a board with the same name and type. -/
def movedValue? (s : Store) (columns : List BoardColumn) (v : FieldValue) :
    Except Fault (Option FieldValue) :=
  match s.column? v.columnId with
  | none => .error .noFields
  | some source =>
    .ok ((columns.find? fun c => c.name == source.name && c.typeName == source.typeName).map
      fun c => { v with columnId := c.id })

/-- The place after the last task of a board. -/
def nextPosition (s : Store) (boardId : String) : Int :=
  match ((s.tasks.filter (·.boardId == boardId)).map (·.position)).max? with
  | some p => p + 1
  | none => 0

/-- Moves a task to the end of another board, unless its place there is beyond 64 bits. The values
of columns that the board also has go with it, the others are dropped. -/
def moveTask (now : Moment) (s : Store) (t : Task) (target : Board) (columns : List BoardColumn) :
    Outcome Store := do
  let rows ← orFault ((s.valuesOf t.id).mapM (movedValue? s columns))
  let rows := rows.filterMap id
  let position := nextPosition s target.id
  if !fitsInteger position then .error (.fault .outOfRange)
  if (distinct (rows.map (·.columnId))).length != rows.length then .error (.fault .refused)
  return (s.replaceValues t.id rows).updateTask now t.id fun t =>
    { t with boardId := target.id, position }

/-- The labels that a task holds in a column. -/
def currentLabels (s : Store) (t : Task) (c : BoardColumn) : Except Fault (List Json) :=
  (((s.value? t.id c.id).getD .null).orElse (.arr [])).elements

/-- The labels without those to remove. Only scalars can be labels. -/
def withoutLabels (removed : List String) (current : List Json) : Except Fault (List Json) :=
  if current.all Json.isScalar then
    .ok (current.filter fun l => !l.str?.any removed.contains)
  else .error .wrongShape

/-- Applies a change to a task. -/
def applyChange (env : Surroundings) (s : Store) (t : Task) : TaskChange → Outcome Store
  | .status name => .ok (s.updateTask env.now t.id (Task.withStatus env.now name))
  | .priority name => .ok (s.updateTask env.now t.id fun t => { t with priority := name })
  | .assignee id => .ok (s.updateTask env.now t.id fun t => { t with assignee := id })
  | .dueDate d => .ok (s.updateTask env.now t.id fun t => { t with dueDate := d })
  | .board target columns => moveTask env.now s t target columns
  | .archive =>
    .ok (s.updateTask env.now t.id fun t =>
      { t with archivedAt := some (t.archivedAt.getD env.now) })
  | .unarchive => .ok (s.updateTask env.now t.id fun t => { t with archivedAt := none })
  | .delete => .ok (s.eraseTask t.id)
  | .addLabels c labels => do
    let current ← orFault (currentLabels s t c)
    setValue env s t c (.arr (current ++ labels.map .str))
  | .removeLabels c labels => do
    let current ← orFault (currentLabels s t c)
    setValue env s t c (.arr (← orFault (withoutLabels labels current)))
  | .field c raw => setValue env s t c raw

/-- What a bulk operation has come to so far. -/
structure BulkRun where
  store : Store
  succeeded : List String
  /-- The ids that failed, each with the reason. -/
  failed : List (String × String)

/-- The text with which a task fails; a fault without a text ends the whole operation. -/
def failureText? : Refusal → Option String
  | .fault .refused => some "The store refused the change."
  | r => r.text?

/-- Applies a change to one more task. A task that fails stays as it was. -/
def BulkRun.step (env : Surroundings) (change : TaskChange) (run : BulkRun) (t : Task) :
    Outcome BulkRun :=
  match applyChange env run.store t change with
  | .ok s => .ok { run with store := s, succeeded := run.succeeded ++ [t.id] }
  | .error r =>
    match failureText? r with
    | some text => .ok { run with failed := run.failed ++ [(t.id, text)] }
    | none => .error r

/-- A bulk operation as it is asked for. -/
structure BulkRequest where
  operation : Json
  params : Json
  taskIds : Json
  filters : Json

/-- A bulk operation with its parameters and its tasks, before any of them is changed. -/
structure BulkPlan where
  operation : BulkOperation
  change : TaskChange
  targets : Targets

/-- Prepares a bulk operation on tasks of a board. -/
def planBulk (c : Settings) (now : Moment) (s : Store) (schema : BoardSchema) (r : BulkRequest) :
    Outcome BulkPlan := do
  let op ← BulkOperation.ofJson r.operation
  let change ← prepareChange (s.surroundings now) s schema op r.params
  let targets ← selectTargets now s schema op.reachesArchived c.bulkTasks r.taskIds r.filters
  return ⟨op, change, targets⟩

/-- What a bulk operation has come to before its first task. -/
def BulkPlan.start (p : BulkPlan) (s : Store) : BulkRun :=
  ⟨s, [], p.targets.missing.map fun id => (id, "Task not found on this board.")⟩

/-- Carries out a bulk operation on tasks of a board. -/
def runBulk (c : Settings) (now : Moment) (s : Store) (schema : BoardSchema) (r : BulkRequest) :
    Outcome (BulkOperation × BulkRun) := do
  let plan ← planBulk c now s schema r
  let run ← plan.targets.tasks.foldlM (BulkRun.step (s.surroundings now) plan.change) (plan.start s)
  return (plan.operation, run)

/-- Applies a change to one task after another, up to the first that fails. -/
def changeUntilFailure (env : Surroundings) (change : TaskChange) : Store → List Task → Store
  | s, [] => s
  | s, t :: tasks =>
    match applyChange env s t change with
    | .ok s => changeUntilFailure env change s tasks
    | .error _ => s

/-- The store after a bulk operation that has no answer. Each change is made under a savepoint of
its own. As long as no transaction is open, releasing the savepoint stores the change for good. A
change that fails leaves a transaction open, and what follows it is dropped with the operation. -/
def bulkLeftover (c : Settings) (now : Moment) (s : Store) (schema : BoardSchema)
    (r : BulkRequest) : Store :=
  match planBulk c now s schema r with
  | .ok plan => changeUntilFailure (s.surroundings now) plan.change s plan.targets.tasks
  | .error _ => s

end BoardQuery
