import BoardQuery.Board.Resolution
import BoardQuery.Filter.Operand
import BoardQuery.Filter.Tree
import BoardQuery.Query.Condition

/-!
# Filters as conditions

A built filter becomes a condition on tasks. A part whose column is not on the board, or now holds
values of another family, is left out with a warning, and so is a group of which nothing is left.
-/

namespace BoardQuery

/-- How an attribute or a column holds its values. -/
structure Storage where
  /-- Whether a value is a list of items, kept as text. -/
  listed : Bool
  /-- The text under which a moment is kept. -/
  written : Moment → String
  isEmpty : CellTest

namespace Storage

/-- Attributes keep moments to the microsecond; the empty text in one of text counts as no value. -/
def ofAttribute (a : Attribute) : Storage where
  listed := false
  written := Moment.microText
  isEmpty := if a.textual then .or .isNull (.compare .equal (.text "")) else .isNull

/-- Columns keep canonical values. An empty text and an empty list count as no value. -/
def ofColumn (t : ColumnType) (o : Options) : Storage where
  listed := t == .labels || (t == .assignee && Options.flag o "multiple")
  written := fun m => if t == .date then m.date.text else m.secondText
  isEmpty := .or .isNull (.or (.compare .equal (.text "")) (.compare .equal (.text "[]")))

end Storage

/-- The moment some microseconds later, within the calendar. -/
def Moment.later (m : Moment) (micros : Nat) : Moment :=
  (m.shift? micros).getD m

/-- The comparison that an operator makes. -/
def Operator.comparison? : Operator → Option Comparison
  | .equals => some .equal
  | .notEquals => some .notEqual
  | .lessThan => some .less
  | .lessEqual => some .lessEqual
  | .greaterThan => some .greater
  | .greaterEqual => some .greaterEqual
  | _ => none

/-- A moment stands for the stretch from `start` to just before `stop`. -/
def stretchTest (op : Comparison) (start stop : Cell) : CellTest :=
  match op with
  | .equal => .and (.compare .greaterEqual start) (.compare .less stop)
  | .notEqual => .or (.compare .less start) (.compare .greaterEqual stop)
  | .less => .compare .less start
  | .lessEqual => .compare .less stop
  | .greater => .compare .greaterEqual stop
  | .greaterEqual => .compare .greaterEqual start

/-- Membership in a list that is kept as text: the written item occurs in it. -/
def memberTest (item : String) : CellTest :=
  .like (.anywhere (String.ofList (Json.writeString item)))

/-- An operator that compares with one value. -/
def comparisonTest (st : Storage) (op : Comparison) : Operand → CellTest
  | .text s =>
    if st.listed then
      match op with
      | .equal => memberTest s
      | .notEqual => .not (memberTest s)
      | _ => .always false
    else .compare op (.text s)
  | .number x => .compare op (.real x)
  | .checked b => .compare op (.int (if b then 1 else 0))
  | .day d =>
    let start := Moment.midnight d
    stretchTest op (.text (st.written start)) (.text (st.written (start.later microsPerDay)))
  | .second m =>
    stretchTest op (.text (st.written m)) (.text (st.written (m.later microsPerSecond)))
  | _ => .always false

/-- The test that an operator makes with its operand. -/
def operatorTest (st : Storage) (op : Operator) (v : Operand) : CellTest :=
  match op, v with
  | .isEmpty, _ => st.isEmpty
  | .isNotEmpty, _ => .not st.isEmpty
  | .contains, .text s => .like (.anywhere s)
  | .notContains, .text s => .not (.like (.anywhere s))
  | .startsWith, .text s => .like (.atStart s)
  | .endsWith, .text s => .like (.atEnd s)
  | .contains, .several items => .anyOf (items.map memberTest)
  | .notContains, .several items => .allOf (items.map fun i => .not (memberTest i))
  | .isIn, .several items =>
    if st.listed then .anyOf (items.map memberTest) else .among (items.map .text)
  | .notIn, .several items =>
    if st.listed then .allOf (items.map fun i => .not (memberTest i))
    else .not (.among (items.map .text))
  | op, v =>
    match op.comparison? with
    | some c => comparisonTest st c v
    | none => .always false

/-- The condition of a leaf on what its column stands for. A task without a value has an empty
column. -/
def leafCondition (r : Resolved) (op : Operator) (v : Operand) : Condition :=
  match r with
  | .native a => .onAttribute a (operatorTest (.ofAttribute a) op v)
  | .column c t =>
    let st := Storage.ofColumn t (c.effectiveOptions t)
    if op == .isEmpty then .not (.onValue c.id (operatorTest st .isNotEmpty v))
    else .onValue c.id (operatorTest st op v)

/-- Why part of a query was not followed. -/
inductive QueryWarning where
  | unknownColumn (name : String)
  | retypedColumn (name : String) (was : ColumnType)
  | unknownSort (stated : Json)
  | notSortable (stated : Json) (t : ColumnType)

namespace QueryWarning

/-- The column that the warning is about. -/
def column : QueryWarning → Json
  | .unknownColumn name => .str name
  | .retypedColumn name _ => .str name
  | .unknownSort stated => stated
  | .notSortable stated _ => stated

def message : QueryWarning → String
  | .unknownColumn name => "Unknown column '" ++ name ++ "' was ignored"
  | .retypedColumn name was =>
    "Column '" ++ name ++ "' is no longer a " ++ was.name ++ " column and was ignored"
  | .unknownSort stated => "Unknown sort column '" ++ stated.display ++ "'; sorted by position"
  | .notSortable stated t =>
    "Column '" ++ stated.display ++ "' (" ++ t.name ++ ") can't be sorted; sorted by position"

def toJson (w : QueryWarning) : Json :=
  .obj [("column", w.column), ("message", .str w.message)]

end QueryWarning

/-- A condition, unless nothing is left of the filter, and the warnings about what was left out. -/
structure Selection where
  condition : Option Condition
  warnings : List QueryWarning

/-- The condition of a leaf on a board. -/
def Selection.ofLeaf (schema : BoardSchema) (l : Leaf String Operand) : Selection :=
  match resolve (some schema) l.column with
  | none => ⟨none, [.unknownColumn l.column]⟩
  | some r =>
    if r.columnType.family == l.columnType.family then
      ⟨some (leafCondition r l.operator l.operand), []⟩
    else ⟨none, [.retypedColumn l.column l.columnType]⟩

/-- The conditions of the members of a group in one. -/
def joinConditions (logic : Logic) (cs : List Condition) : Option Condition :=
  if cs.isEmpty then none
  else some (match logic with
    | .all => .allOf cs
    | .any => .anyOf cs)

mutual

/-- The condition of a filter on a board. -/
def Selection.ofFilter (schema : BoardSchema) : Filter String Operand → Selection
  | .leaf l => Selection.ofLeaf schema l
  | .group logic members =>
    let parts := Selection.ofMembers schema members
    ⟨joinConditions logic (parts.filterMap (·.condition)), parts.flatMap (·.warnings)⟩

def Selection.ofMembers (schema : BoardSchema) : List (Filter String Operand) → List Selection
  | [] => []
  | m :: rest => Selection.ofFilter schema m :: Selection.ofMembers schema rest

end

/-- The tasks of a board, without the archived ones unless they are asked for. -/
def inScope (schema : BoardSchema) (archived : Bool) (t : Task) : Bool :=
  t.boardId == schema.boardId && t.workspaceId == schema.workspaceId &&
    (archived || t.archivedAt.isNone)

/-- The tasks of a board that a condition selects; without a condition, all of them. -/
def selectTasks (s : Store) (schema : BoardSchema) (archived : Bool) (c : Option Condition) :
    List Task :=
  s.tasks.filter fun t => inScope schema archived t && c.all (·.selects s t)

end BoardQuery
