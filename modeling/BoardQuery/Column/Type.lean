import BoardQuery.Fault

/-!
# Column types

The closed list of column types, the families they belong to and the operators that filters may
use on each family.
-/

namespace BoardQuery

/-- The type of the values of a column. -/
inductive ColumnType where
  | text
  | longText
  | number
  | currency
  | percentage
  | date
  | datetime
  | status
  | priority
  | assignee
  | labels
  | checkbox
  | url
  | email
  | phone
  deriving DecidableEq, Repr

/-- What a condition asks of a column. -/
inductive Operator where
  | equals
  | notEquals
  | contains
  | notContains
  | startsWith
  | endsWith
  | greaterThan
  | lessThan
  | greaterEqual
  | lessEqual
  | isIn
  | notIn
  | isEmpty
  | isNotEmpty
  deriving DecidableEq, Repr

/-- Column types whose values are compared in the same way. -/
inductive Family where
  | text
  | numeric
  | date
  | enumerated
  | assignee
  | labels
  | checkbox
  deriving DecidableEq, Repr

/-- How the members of a group are combined. -/
inductive Logic where
  | all
  | any
  deriving DecidableEq, Repr

namespace ColumnType

/-- Every type, in the order of the catalogue. -/
def every : List ColumnType := [.text, .longText, .number, .currency, .percentage, .date, .datetime,
  .status, .priority, .assignee, .labels, .checkbox, .url, .email, .phone]

def name : ColumnType → String
  | .text => "text"
  | .longText => "long_text"
  | .number => "number"
  | .currency => "currency"
  | .percentage => "percentage"
  | .date => "date"
  | .datetime => "datetime"
  | .status => "status"
  | .priority => "priority"
  | .assignee => "assignee"
  | .labels => "labels"
  | .checkbox => "checkbox"
  | .url => "url"
  | .email => "email"
  | .phone => "phone"

def ofName? (s : String) : Option ColumnType :=
  every.find? (·.name == s)

def family : ColumnType → Family
  | .text | .longText | .url | .email | .phone => .text
  | .number | .currency | .percentage => .numeric
  | .date | .datetime => .date
  | .status | .priority => .enumerated
  | .assignee => .assignee
  | .labels => .labels
  | .checkbox => .checkbox

/-- The type that a value names. -/
def ofJson (v : Json) : Except Fault ColumnType :=
  match v.str?.bind ofName? with
  | some t => .ok t
  | none => .error (.unreadable (.name .columnType v))

end ColumnType

namespace Operator

/-- Every operator, in the order in which lists of operators are shown. -/
def every : List Operator := [.equals, .notEquals, .contains, .notContains, .startsWith, .endsWith,
  .greaterThan, .lessThan, .greaterEqual, .lessEqual, .isIn, .notIn, .isEmpty, .isNotEmpty]

def name : Operator → String
  | .equals => "equals"
  | .notEquals => "not_equals"
  | .contains => "contains"
  | .notContains => "not_contains"
  | .startsWith => "starts_with"
  | .endsWith => "ends_with"
  | .greaterThan => "greater_than"
  | .lessThan => "less_than"
  | .greaterEqual => "greater_equal"
  | .lessEqual => "less_equal"
  | .isIn => "in"
  | .notIn => "not_in"
  | .isEmpty => "is_empty"
  | .isNotEmpty => "is_not_empty"

def ofName? (s : String) : Option Operator :=
  every.find? (·.name == s)

/-- The operator that a value names. -/
def ofJson (v : Json) : Except Fault Operator :=
  match v.str?.bind ofName? with
  | some o => .ok o
  | none => .error (.unreadable (.name .operator v))

/-- The operators that take no operand. -/
def testsEmptiness : Operator → Bool
  | .isEmpty | .isNotEmpty => true
  | _ => false

/-- The operators whose operand is a list. -/
def takesList : Operator → Bool
  | .isIn | .notIn => true
  | _ => false

end Operator

namespace Family

def name : Family → String
  | .text => "text"
  | .numeric => "numeric"
  | .date => "date"
  | .enumerated => "enumerated"
  | .assignee => "assignee"
  | .labels => "labels"
  | .checkbox => "checkbox"

/-- The operators of a family, in the order in which they are shown. -/
def operators : Family → List Operator
  | .text => [.equals, .notEquals, .contains, .notContains, .startsWith, .endsWith, .isEmpty,
      .isNotEmpty]
  | .numeric | .date => [.equals, .notEquals, .greaterThan, .lessThan, .greaterEqual, .lessEqual,
      .isEmpty, .isNotEmpty]
  | .enumerated | .assignee => [.equals, .notEquals, .isIn, .notIn, .isEmpty, .isNotEmpty]
  | .labels => [.contains, .notContains, .isEmpty, .isNotEmpty]
  | .checkbox => [.equals, .notEquals, .isEmpty, .isNotEmpty]

end Family

namespace ColumnType

/-- The operators that a filter may use on columns of this type. -/
def operators (t : ColumnType) : List Operator :=
  t.family.operators

/-- Whether tasks can be sorted by columns of this type. -/
def sortable (t : ColumnType) : Bool :=
  t != .labels && t != .checkbox

/-- The message for an operator that a type does not allow. -/
def operatorMessage (t : ColumnType) (shown : String) : String :=
  "Operator '" ++ shown ++ "' is not valid for column type '" ++ t.name ++
    "'. Available operators: " ++ joinWith ", " (t.operators.map (·.name))

end ColumnType

namespace Logic

def name : Logic → String
  | .all => "AND"
  | .any => "OR"

def ofName? (s : String) : Option Logic :=
  if s == "AND" then some .all else if s == "OR" then some .any else none

end Logic

end BoardQuery
