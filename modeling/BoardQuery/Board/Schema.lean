import BoardQuery.Column.Options
import BoardQuery.Text.Case

/-!
# Boards and their columns

A board defines columns. A column keeps the name of its type as it was written, for a stored name
may be one that no type has.
-/

namespace BoardQuery

/-- A column that a board defines. -/
structure BoardColumn where
  id : String
  boardId : String
  name : String
  typeName : String
  options : Options
  position : Int
  required : Bool
  /-- The width in which the column is shown, if one is stated. -/
  width : Option Nat

namespace BoardColumn

def columnType? (c : BoardColumn) : Option ColumnType :=
  ColumnType.ofName? c.typeName

/-- The type of the column; it is a fault if no type has the name. -/
def columnType (c : BoardColumn) : Except Fault ColumnType :=
  ColumnType.ofJson (.str c.typeName)

/-- The options of the column as one of a type: the defaults of the type overlaid with its own, and
required if the column is. -/
def effectiveOptions (c : BoardColumn) (t : ColumnType) : Options :=
  let o := t.effectiveOptions c.options
  if c.required then Fields.insert o "required" (.bool true) else o

end BoardColumn

/-- A board as filters see it: where it is, and its columns in the order shown. -/
structure BoardSchema where
  boardId : String
  workspaceId : String
  columns : List BoardColumn

namespace BoardSchema

/-- The column that a name addresses: the one with this id, or else with this name, or else with
this name in another letter case. -/
def find? (s : BoardSchema) (name : String) : Option BoardColumn :=
  s.columns.find? (·.id == name) <|> s.columns.find? (·.name == name) <|>
    s.columns.find? fun c => Text.fold c.name == Text.fold name

end BoardSchema

end BoardQuery
