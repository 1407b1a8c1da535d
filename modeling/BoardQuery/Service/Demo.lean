import BoardQuery.Column.Catalogue
import BoardQuery.Service.FieldValues

/-!
# A board to try things on

A user with a workspace, a board with typed columns and tasks that have values in them. Values are
written like all others, through the validation of their columns.
-/

namespace BoardQuery

/-- An id of a kind that is not among those taken. The highest number that can be needed is tried
first. -/
def freshId (kind : String) (taken : List String) : String :=
  let named (n : Nat) : String := kind ++ "-" ++ toString n
  let free := (List.range (taken.length + 1)).reverse.find? fun n => !taken.contains (named n)
  named (free.getD 0)

/-- The ids of the workspaces that boards and memberships are in. -/
def Store.workspaceIds (s : Store) : List String :=
  s.boards.map (·.workspaceId) ++ s.members.map (·.workspaceId)

/-- The user with an address, who is added if there is none. -/
def demoUser (s : Store) (email : String) : User × Store :=
  match s.users.find? (·.email == email) with
  | some u => (u, s)
  | none =>
    let id := freshId "user" (s.users.map (·.id))
    let u : User := ⟨id, email, some "Demo User", freshId "token" (s.users.map (·.token)), true⟩
    (u, { s with users := s.users ++ [u] })

/-- The names, types and options of the columns. -/
def demoColumns : List (String × ColumnType × Options) := [
  ("Budget", .currency, [("currency_code", .str "USD")]),
  ("Labels", .labels, []),
  ("Launch date", .date, []),
  ("Reviewed", .checkbox, []),
  ("Contact email", .email, [])]

/-- The entry of a list that the `i`-th task gets, in turn. -/
def inTurn (items : List String) (i : Nat) : String :=
  (items[i % items.length]?).getD ""

/-- The `i`-th task. -/
def demoTask (now : Moment) (id : String) (board : Board) (user : User) (i : Nat) : Task where
  id := id
  boardId := board.id
  workspaceId := board.workspaceId
  title := "Sample task " ++ toString (i + 1)
  description := some ""
  status := inTurn taskStatuses i
  priority := inTurn taskPriorities i
  assignee := if i % 2 == 0 then some user.id else none
  creator := some user.id
  position := i
  dueDate := none
  startDate := none
  completedAt := none
  archivedAt := none
  createdAt := .ofClock now
  updatedAt := .ofClock now

/-- The values of the `i`-th task, by the names of their columns. Every fourth task has no budget
and no date, and every fifth has an address. A date must lie within the calendar. -/
def demoValues (today : Date) (i : Nat) : Except Fault (List (String × Json)) := do
  let planned ←
    if i % 4 == 3 then pure []
    else
      match today.addDays? (7 * i) with
      | some d => pure [("Budget", Json.int (250 * (i + 1))), ("Launch date", .str d.text)]
      | none => throw .outOfRange
  let address := Json.str ("owner" ++ toString i ++ "@example.com")
  let contact := if i % 5 == 0 then [("Contact email", address)] else []
  return [("Labels", .ofStrings [inTurn ["frontend", "backend", "design", "ops"] i]),
    ("Reviewed", .bool (i % 3 == 0))] ++ planned ++ contact

/-- Writes the `i`-th task with its values. -/
def addDemoTask (now : Moment) (schema : BoardSchema) (board : Board) (user : User) (s : Store)
    (i : Nat) : Outcome Store := do
  let t := demoTask now (freshId "task" (s.tasks.map (·.id))) board user i
  let values ← orFault (demoValues now.date i)
  values.foldlM (fun s v =>
    match schema.find? v.1 with
    | some c => setValue (s.surroundings now) s t c v.2
    | none => .ok s) { s with tasks := s.tasks ++ [t] }

/-- Writes a board in a workspace of its own, of which the user is a member. -/
def addDemoBoard (s : Store) (user : User) : Board × Store :=
  let workspaceId := freshId "workspace" s.workspaceIds
  let board : Board := ⟨freshId "board" (s.boards.map (·.id)), workspaceId, "Launch Plan"⟩
  let columns := demoColumns.zipIdx.map fun ((name, t, options), i) =>
    { id := freshId ("column-" ++ toString i) (s.columns.map (·.id))
      boardId := board.id
      name
      typeName := t.name
      options
      position := i
      required := false
      width := some t.defaultWidth : BoardColumn }
  (board, { s with
    members := s.members ++ [⟨user.id, workspaceId⟩]
    boards := s.boards ++ [board]
    columns := s.columns ++ columns })

/-- Writes the board with some tasks for a user. -/
def addDemo (now : Moment) (s : Store) (user : User) (tasks : Int) : Outcome (Board × Store) := do
  let (board, s) := addDemoBoard s user
  let s ← (List.range tasks.toNat).foldlM (addDemoTask now (s.schema board) board user) s
  return (board, s)

end BoardQuery
