import BoardQuery.Filter.Operand

/-!
# Issues

What is wrong with a filter as written. An issue has a path to the node or field it is about, and
one of three kinds: the structure of the document, an operator, or an operand.
-/

namespace BoardQuery

/-- What is wrong at one place of a filter. -/
inductive FilterProblem where
  | notFilterList
  | notMemberList
  | memberListMissing
  | emptyGroup
  | notObject
  | unknownNodeType
  | unknownLogic
  | missingField (name : String)
  | badColumnName
  | unknownColumnType (value : Json)
  | otherFamily (column : String) (holds asked : ColumnType)
  | unreadable (why : Unreadable)
  | badOperator (value : Json) (t : ColumnType)
  | operandMissing (op : Operator)
  | operandNotList (op : Operator)
  | operandEmptyList (op : Operator)
  | operandNotNumeric (op : Operator)
  | operand (p : OperandProblem)

/-- The kinds of issues. -/
inductive IssueKind where
  | structural
  | operator
  | value
  deriving DecidableEq

def IssueKind.name : IssueKind → String
  | .structural => "structural"
  | .operator => "operator"
  | .value => "value"

/-- The most characters of a column name in a condition. -/
def maxColumnName : Nat := 255

namespace FilterProblem

def kind : FilterProblem → IssueKind
  | .badOperator .. => .operator
  | .operandMissing _ | .operandNotList _ | .operandEmptyList _ | .operandNotNumeric _
  | .operand _ => .value
  | _ => .structural

def message : FilterProblem → String
  | .notFilterList => "Filters must be a list of filter objects"
  | .notMemberList => "Filter group must contain a list of filters"
  | .memberListMissing => "Filter group must be a list"
  | .emptyGroup => "Filter group cannot be empty"
  | .notObject => "Filter must be an object"
  | .unknownNodeType => "Filter type must be 'filter' or 'group'"
  | .unknownLogic => "Logic must be AND or OR"
  | .missingField name => "The " ++ name ++ " field is required."
  | .badColumnName =>
    "The column must be a string of at most " ++ toString maxColumnName ++ " characters."
  | .unknownColumnType value => "Invalid column type: " ++ value.display
  | .otherFamily column holds asked =>
    "Column '" ++ column ++ "' holds " ++ holds.name ++ " values and cannot be filtered as " ++
      asked.name
  | .unreadable why => why.message
  | .badOperator value t => t.operatorMessage value.display
  | .operandMissing op => "Value is required for operator '" ++ op.name ++ "'"
  | .operandNotList op => "Operator '" ++ op.name ++ "' requires an array value"
  | .operandEmptyList op => "Operator '" ++ op.name ++ "' requires at least one value"
  | .operandNotNumeric op => "Value must be numeric for operator '" ++ op.name ++ "'"
  | .operand p => p.message

end FilterProblem

/-- One thing wrong with a filter. -/
structure Issue where
  path : String
  problem : FilterProblem

def Issue.toJson (i : Issue) : Json :=
  .obj [("path", .str i.path), ("message", .str i.problem.message),
    ("kind", .str i.problem.kind.name)]

/-- Why a document is no filter: its issues, or a fault in reading it. -/
inductive FilterError where
  | issues (list : List Issue)
  | fault (f : Fault)

/-- Two readings, one after the other. The issues of both are collected, and the first fault ends
the reading. -/
def alongside {α β : Type} (a : Except FilterError α) (b : Except FilterError β) :
    Except FilterError (α × β) :=
  match a, b with
  | .error (.fault f), _ => .error (.fault f)
  | .error (.issues _), .error (.fault f) => .error (.fault f)
  | .error (.issues list), .error (.issues more) => .error (.issues (list ++ more))
  | .error (.issues list), .ok _ => .error (.issues list)
  | .ok _, .error e => .error e
  | .ok x, .ok y => .ok (x, y)

/-- Readings one after another. -/
def gather {α : Type} : List (Except FilterError α) → Except FilterError (List α)
  | [] => .ok []
  | r :: rest => (alongside r (gather rest)).map fun p => p.1 :: p.2

end BoardQuery
