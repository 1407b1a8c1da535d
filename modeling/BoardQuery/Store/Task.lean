import BoardQuery.Board.Attribute
import BoardQuery.Calendar.Moment
import BoardQuery.Store.Cell

/-!
# Tasks in the store

A task with its attributes, and the cells under which conditions and orders see them.
-/

namespace BoardQuery

/-- A time of creation or change. The store writes those of its own clock without a fraction of a
second. -/
structure Stamp where
  moment : Moment
  byClock : Bool
  deriving DecidableEq

/-- What the clock of the store writes at a moment. -/
def Stamp.ofClock (now : Moment) : Stamp := ⟨now.wholeSecond, true⟩

/-- The text under which a stamp is stored. -/
def Stamp.text (s : Stamp) : String :=
  if s.byClock then s.moment.secondText else s.moment.microText

/-- A task of a board. -/
structure Task where
  id : String
  boardId : String
  workspaceId : String
  title : String
  description : Option String
  status : String
  priority : String
  assignee : Option String
  creator : Option String
  position : Int
  dueDate : Option Moment
  startDate : Option Moment
  completedAt : Option Moment
  archivedAt : Option Moment
  createdAt : Stamp
  updatedAt : Stamp
  deriving DecidableEq

namespace Cell

def ofText? (s : Option String) : Cell :=
  match s with
  | some s => .text s
  | none => .null

/-- Moments are stored to the microsecond. -/
def ofMoment? (m : Option Moment) : Cell :=
  ofText? (m.map (·.microText))

end Cell

namespace Task

/-- The cell of an attribute. -/
def cell (t : Task) : Attribute → Cell
  | .id => .text t.id
  | .title => .text t.title
  | .description => .ofText? t.description
  | .status => .text t.status
  | .priority => .text t.priority
  | .assignee => .ofText? t.assignee
  | .creator => .ofText? t.creator
  | .board => .text t.boardId
  | .workspace => .text t.workspaceId
  | .position => .int t.position
  | .dueDate => .ofMoment? t.dueDate
  | .startDate => .ofMoment? t.startDate
  | .completedAt => .ofMoment? t.completedAt
  | .archivedAt => .ofMoment? t.archivedAt
  | .createdAt => .text t.createdAt.text
  | .updatedAt => .text t.updatedAt.text

/-- The moment that an attribute holds, if it is one of time. -/
def moment? (t : Task) : Attribute → Option Moment
  | .dueDate => t.dueDate
  | .startDate => t.startDate
  | .completedAt => t.completedAt
  | .archivedAt => t.archivedAt
  | .createdAt => some t.createdAt.moment
  | .updatedAt => some t.updatedAt.moment
  | _ => none

end Task

end BoardQuery
