import BoardQuery.Api.Request
import BoardQuery.Service.Listing

/-!
# A small board

A board with one column and the tasks of one's choice, and two boards with a column each, for
statements about a particular store.
-/

namespace BoardQuery.Sample

def board : Board := ⟨"board", "workspace", "Board"⟩

/-- A column of the board; its name is its id. -/
def column (name : String) (t : ColumnType) (options : Options) : BoardColumn :=
  ⟨name, board.id, name, t.name, options, 0, false, none⟩

def task (id : String) : Task where
  id := id
  boardId := board.id
  workspaceId := board.workspaceId
  title := id
  description := none
  status := "todo"
  priority := "medium"
  assignee := none
  creator := none
  position := 0
  dueDate := none
  startDate := none
  completedAt := none
  archivedAt := none
  createdAt := ⟨Moment.first, true⟩
  updatedAt := ⟨Moment.first, true⟩

/-- The board with a column and some tasks, of which some have a value in the column. -/
def store (c : BoardColumn) (tasks : List Task) (values : List (String × Json)) : Store :=
  { Store.empty with
    boards := [board]
    columns := [c]
    tasks
    values := values.map fun (taskId, v) => ⟨taskId, c.id, v⟩ }

theorem schema_store {c : BoardColumn} (hc : c.boardId = board.id) (tasks : List Task)
    (values : List (String × Json)) :
    (store c tasks values).schema board = ⟨board.id, board.workspaceId, [c]⟩ := by
  have hcolumns : [c].filter (·.boardId == board.id) = [c] := by simp [hc]
  simp only [Store.schema, Store.columnsOf, store, hcolumns, List.mergeSort_singleton]

/-- A query for all tasks in the order of a column. -/
def query (sortBy : String) : TaskQuery where
  filters := .null
  savedFilterId := none
  perPage := none
  page := 1
  cursor := none
  sortBy := some sortBy
  descending := false
  inclusions := []
  includeArchived := false
  saveFilter := false
  filterName := none
  isPublic := false

/-! ## Two boards -/

/-- A column of another board that has the same name as a column of this one. -/
def otherColumn (name : String) (t : ColumnType) (options : Options) : BoardColumn :=
  { column name t options with id := name ++ "-2", boardId := "other" }

/-- Two boards with a stage, of which only the first has the stage in which its task is. -/
def twoBoards : Store :=
  { store (column "stage" .status [("options", .arr [.str "review"])]) [task "t"]
      [("t", .str "review")] with
    users := [⟨"u", "u@example.com", none, "token", true⟩]
    members := [⟨"u", board.workspaceId⟩]
    boards := [board, ⟨"other", board.workspaceId, "Other"⟩]
    columns := [column "stage" .status [("options", .arr [.str "review"])],
      otherColumn "stage" .status [("options", .arr [.str "shipped"])]] }

/-- The request to move the task to the other board. -/
def moveRequest : Request where
  method := "POST"
  path := "/api/boards/board/tasks/bulk"
  authorization := some "Bearer token"
  query := []
  body := .document (.obj [("operation", .str "move"),
    ("params", .obj [("target_board_id", .str "other")]), ("task_ids", .arr [.str "t"])])

end BoardQuery.Sample
