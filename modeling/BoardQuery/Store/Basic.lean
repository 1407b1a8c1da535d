import BoardQuery.Board.Schema
import BoardQuery.Store.Task

/-!
# The store

What the service keeps: users, the members of workspaces, boards with their columns, tasks, the
values of columns, and saved filters. Each is a list in the order in which its rows were written.
-/

namespace BoardQuery

/-- Someone who may send requests, by a token. -/
structure User where
  id : String
  email : String
  fullName : Option String
  token : String
  active : Bool
  deriving DecidableEq

/-- That a user belongs to a workspace. -/
structure Membership where
  userId : String
  workspaceId : String
  deriving DecidableEq

structure Board where
  id : String
  workspaceId : String
  name : String
  deriving DecidableEq

/-- The value that a task has in a column. -/
structure FieldValue where
  taskId : String
  columnId : String
  value : Json

/-- A filter that a user has stored for a board under a name. -/
structure SavedFilter where
  id : String
  userId : String
  boardId : String
  name : String
  description : Option String
  definition : Json
  isPublic : Bool
  isDefault : Bool
  usageCount : Int
  lastUsedAt : Option Moment
  createdAt : Moment

/-- Everything that the service keeps. -/
structure Store where
  users : List User
  members : List Membership
  boards : List Board
  columns : List BoardColumn
  tasks : List Task
  values : List FieldValue
  filters : List SavedFilter
  /-- How many filters have been written since the store was opened. -/
  filtersWritten : Nat

namespace Store

def empty : Store := ⟨[], [], [], [], [], [], [], 0⟩

def user? (s : Store) (id : String) : Option User :=
  s.users.find? (·.id == id)

def userExists (s : Store) (id : String) : Bool :=
  (s.user? id).isSome

def isMember (s : Store) (userId workspaceId : String) : Bool :=
  s.members.contains ⟨userId, workspaceId⟩

def board? (s : Store) (id : String) : Option Board :=
  s.boards.find? (·.id == id)

def task? (s : Store) (id : String) : Option Task :=
  s.tasks.find? (·.id == id)

def column? (s : Store) (id : String) : Option BoardColumn :=
  s.columns.find? (·.id == id)

def filter? (s : Store) (id : String) : Option SavedFilter :=
  s.filters.find? (·.id == id)

/-- The columns of a board in the order of their positions. -/
def columnsOf (s : Store) (boardId : String) : List BoardColumn :=
  (s.columns.filter (·.boardId == boardId)).mergeSort fun a b => a.position ≤ b.position

def schema (s : Store) (b : Board) : BoardSchema :=
  ⟨b.id, b.workspaceId, s.columnsOf b.id⟩

/-! ## Values -/

/-- The rows of a task. -/
def valuesOf (s : Store) (taskId : String) : List FieldValue :=
  s.values.filter (·.taskId == taskId)

/-- The value of a task in a column, if it has a row there. -/
def value? (s : Store) (taskId columnId : String) : Option Json :=
  (s.values.find? fun v => v.taskId == taskId && v.columnId == columnId).map (·.value)

/-- Writes the value of a task in a column. A row that is there keeps its place. -/
def putValue (s : Store) (taskId columnId : String) (value : Json) : Store :=
  if (s.value? taskId columnId).isSome then
    { s with values := s.values.map fun v =>
        if v.taskId == taskId && v.columnId == columnId then { v with value } else v }
  else { s with values := s.values ++ [⟨taskId, columnId, value⟩] }

def eraseValue (s : Store) (taskId columnId : String) : Store :=
  { s with values := s.values.filter fun v => !(v.taskId == taskId && v.columnId == columnId) }

/-- Puts other rows in the place of those of a task. -/
def replaceValues (s : Store) (taskId : String) (rows : List FieldValue) : Store :=
  { s with values := s.values.filter (·.taskId != taskId) ++ rows }

/-! ## Tasks -/

/-- Changes a task. A task that comes out different gets the time of the change. -/
def updateTask (s : Store) (now : Moment) (id : String) (change : Task → Task) : Store :=
  { s with tasks := s.tasks.map fun t =>
      if t.id == id && change t != t then { change t with updatedAt := .ofClock now } else t }

def eraseTask (s : Store) (id : String) : Store :=
  { s with
    tasks := s.tasks.filter (·.id != id)
    values := s.values.filter (·.taskId != id) }

/-! ## Saved filters -/

/-- The id of the next saved filter. -/
def nextFilterId (s : Store) : String :=
  "saved-" ++ toString (s.filtersWritten + 1)

def addFilter (s : Store) (f : SavedFilter) : Store :=
  { s with filters := s.filters ++ [f], filtersWritten := s.filtersWritten + 1 }

def updateFilter (s : Store) (id : String) (change : SavedFilter → SavedFilter) : Store :=
  { s with filters := s.filters.map fun f => if f.id == id then change f else f }

def eraseFilter (s : Store) (id : String) : Store :=
  { s with filters := s.filters.filter (·.id != id) }

end Store

end BoardQuery
