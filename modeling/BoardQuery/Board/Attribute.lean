import BoardQuery.Column.Options

/-!
# Attributes of tasks

The properties that every task has, whatever its board. Filters and orders address them by name as
they address columns, and each has a column type.
-/

namespace BoardQuery

/-- A property of every task. -/
inductive Attribute where
  | id
  | title
  | description
  | status
  | priority
  | assignee
  | creator
  | board
  | workspace
  | position
  | dueDate
  | startDate
  | completedAt
  | archivedAt
  | createdAt
  | updatedAt
  deriving DecidableEq, Repr

namespace Attribute

def every : List Attribute := [.id, .title, .description, .status, .priority, .assignee, .creator,
  .board, .workspace, .position, .dueDate, .startDate, .completedAt, .archivedAt, .createdAt,
  .updatedAt]

def name : Attribute → String
  | .id => "id"
  | .title => "title"
  | .description => "description"
  | .status => "status"
  | .priority => "priority"
  | .assignee => "assignee_id"
  | .creator => "creator_id"
  | .board => "board_id"
  | .workspace => "workspace_id"
  | .position => "position"
  | .dueDate => "due_date"
  | .startDate => "start_date"
  | .completedAt => "completed_at"
  | .archivedAt => "archived_at"
  | .createdAt => "created_at"
  | .updatedAt => "updated_at"

def ofName? (s : String) : Option Attribute :=
  every.find? (·.name == s)

def label : Attribute → String
  | .id => "ID"
  | .title => "Title"
  | .description => "Description"
  | .status => "Status"
  | .priority => "Priority"
  | .assignee => "Assignee"
  | .creator => "Creator"
  | .board => "Board"
  | .workspace => "Workspace"
  | .position => "Position"
  | .dueDate => "Due Date"
  | .startDate => "Start Date"
  | .completedAt => "Completed At"
  | .archivedAt => "Archived At"
  | .createdAt => "Created At"
  | .updatedAt => "Updated At"

def columnType : Attribute → ColumnType
  | .id | .title | .board | .workspace => .text
  | .description => .longText
  | .status => .status
  | .priority => .priority
  | .assignee | .creator => .assignee
  | .position => .number
  | .dueDate | .startDate => .date
  | .completedAt | .archivedAt | .createdAt | .updatedAt => .datetime

/-- Whether the attribute is a text, so that the empty text counts as no value. -/
def textual (a : Attribute) : Bool :=
  match a.columnType.family with
  | .text | .enumerated | .assignee => true
  | _ => false

/-- The choices of the attribute with their labels. -/
def choices : Attribute → List (String × String)
  | .status => [("todo", "Todo"), ("in_progress", "In Progress"), ("review", "Review"),
      ("done", "Done")]
  | .priority => [("low", "Low"), ("medium", "Medium"), ("high", "High"), ("urgent", "Urgent")]
  | _ => []

/-- The options of the attribute: the defaults of its type, with its own choices. -/
def options (a : Attribute) : Options :=
  match a.choices with
  | [] => a.columnType.defaultOptions
  | entries =>
    Fields.insert a.columnType.defaultOptions "options"
      (.arr (entries.map fun e => .obj [("value", .str e.1), ("label", .str e.2)]))

/-- The attributes that are offered for filters, ahead of the columns of the board. -/
def offered : List Attribute := [.title, .description, .status, .priority, .assignee, .dueDate,
  .createdAt, .updatedAt]

end Attribute

/-- The statuses of tasks. -/
def taskStatuses : List String := Attribute.status.choices.map (·.1)

/-- The priorities of tasks. -/
def taskPriorities : List String := Attribute.priority.choices.map (·.1)

end BoardQuery
