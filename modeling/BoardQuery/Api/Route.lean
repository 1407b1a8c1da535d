/-!
# Routes

The paths that the service answers and the methods that each of them takes.
-/

namespace BoardQuery

/-- What a path addresses. -/
inductive Route where
  | columnTypes
  | columnType (name : String)
  | taskList (board : String)
  | filterColumns (board : String)
  | filterCheck (board : String)
  | savedFilters (board : String)
  | defaultFilter (board filter : String)
  | savedFilter (board filter : String)
  | bulk (board : String)
  | fieldValues (task : String)
  | fieldValue (task column : String)
  deriving DecidableEq, Repr

namespace Route

/-- What the parts of a path address. No part may be empty. -/
def ofSegments? (parts : List String) : Option Route :=
  if parts.contains "" then none
  else
    match parts with
    | ["api", "column-types"] => some .columnTypes
    | ["api", "column-types", name] => some (.columnType name)
    | ["api", "boards", board, "tasks", "filter"] => some (.taskList board)
    | ["api", "boards", board, "filter-columns"] => some (.filterColumns board)
    | ["api", "boards", board, "filters", "validate"] => some (.filterCheck board)
    | ["api", "boards", board, "saved-filters"] => some (.savedFilters board)
    | ["api", "boards", board, "saved-filters", filter, "default"] =>
      some (.defaultFilter board filter)
    | ["api", "boards", board, "saved-filters", filter] => some (.savedFilter board filter)
    | ["api", "boards", board, "tasks", "bulk"] => some (.bulk board)
    | ["api", "tasks", task, "field-values"] => some (.fieldValues task)
    | ["api", "tasks", task, "field-values", column] => some (.fieldValue task column)
    | _ => none

/-- The methods of a route. -/
def methods : Route → List String
  | .columnTypes | .columnType _ | .filterColumns _ => ["GET"]
  | .taskList _ | .savedFilters _ => ["GET", "POST"]
  | .filterCheck _ | .defaultFilter .. | .bulk _ => ["POST"]
  | .savedFilter .. | .fieldValue .. => ["DELETE"]
  | .fieldValues _ => ["GET", "PUT"]

/-- Whether a method can be asked of a route. What is read can also be asked for without its body,
and every route tells its methods. -/
def accepts (r : Route) (method : String) : Bool :=
  r.methods.contains method || method == "OPTIONS" ||
    (method == "HEAD" && r.methods.contains "GET")

end Route

end BoardQuery
