import BoardQuery.Board.Resolution
import BoardQuery.Filter.Wire

/-!
# Building filters

A document becomes a filter whose operators suit the types of their columns and whose operands are
canonical. All issues of the document are reported together, each with its path. Structure comes
first: only a condition that is complete is asked whether its operator, its column and its operand
go together.
-/

namespace BoardQuery

/-- A filter that has passed every check. -/
abbrev BuiltFilter := Filter String Operand

/-- What filters are built against. -/
structure BuildContext where
  surroundings : Surroundings
  /-- What a column name stands for. -/
  lookup : String → Option Resolved
  /-- Whether conditions are kept whose column now holds values of another family. -/
  staleOk : Bool

namespace FilterBuilder

def readLogic (path : String) (v : Json) : Except FilterError Logic :=
  let issue : Except FilterError Logic := .error (.issues [⟨path, .unknownLogic⟩])
  match v with
  | .null => .ok .all
  | .str s =>
    match Logic.ofName? (Text.upper s) with
    | some l => .ok l
    | none => issue
  | _ => issue

/-- The fields that every condition has. -/
def requiredFields : List String := ["column", "column_type", "operator"]

/-- Null and the empty text count as a field left out. -/
def isLeftOut (v : Json) : Bool :=
  v.isNull || v.str? == some ""

/-- A column name: a text that is not too long. -/
def columnName? (v : Json) : Option String :=
  v.str?.filter fun s => s.length ≤ maxColumnName

/-- The parts of a condition that its structure fixes. -/
structure Head where
  column : String
  columnType : ColumnType
  operator : Json
  logic : Logic

/-- What is wrong with the structure of a condition. -/
def headIssues (path : String) (fields : Fields) : List Issue :=
  let get := Fields.get fields
  let missing := requiredFields.filter fun name => isLeftOut (get name)
  let column :=
    if isLeftOut (get "column") || (columnName? (get "column")).isSome then []
    else [⟨path ++ ".column", .badColumnName⟩]
  let columnType :=
    if isLeftOut (get "column_type") || ((get "column_type").str?.bind ColumnType.ofName?).isSome
    then []
    else [⟨path ++ ".column_type", .unknownColumnType (get "column_type")⟩]
  let logic :=
    match readLogic (path ++ ".logic") (get "logic") with
    | .error (.issues list) => list
    | _ => []
  (missing.map fun name => ⟨path ++ "." ++ name, .missingField name⟩) ++ column ++ columnType ++
    logic

def readHead (path : String) (fields : Fields) : Except FilterError Head :=
  match headIssues path fields, columnName? (Fields.get fields "column"),
      (Fields.get fields "column_type").str?.bind ColumnType.ofName?,
      readLogic path (Fields.get fields "logic") with
  | [], some column, some columnType, .ok logic =>
    .ok ⟨column, columnType, Fields.get fields "operator", logic⟩
  | list, _, _, _ => .error (.issues list)

/-- The operator that a value names, if the type allows it. -/
def readOperator (path : String) (t : ColumnType) (v : Json) : Except FilterError Operator :=
  match (v.str?.bind Operator.ofName?).filter t.operators.contains with
  | some op => .ok op
  | none => .error (.issues [⟨path ++ ".operator", .badOperator v t⟩])

/-- The type in which a condition is compared, and the options of its column. A column of the same
family lends its own type. One of another family is an issue, unless stale conditions are kept. -/
def adopt (ctx : BuildContext) (path : String) (column : String) (t : ColumnType) :
    Except FilterError (ColumnType × Options) :=
  match ctx.lookup column with
  | none => .ok (t, t.defaultOptions)
  | some r =>
    if r.columnType.family == t.family then .ok (r.columnType, r.options)
    else if ctx.staleOk then .ok (t, t.defaultOptions)
    else .error (.issues [⟨path ++ ".column_type", .otherFamily column r.columnType t⟩])

/-- What is wrong with an operand, before its family reads it. -/
def presenceProblem? (t : ColumnType) (op : Operator) (v : Json) :
    Except Fault (Option FilterProblem) :=
  if op.testsEmptiness then .ok none
  else if v.isNull then .ok (some (.operandMissing op))
  else if op.takesList then
    match v with
    | .arr [] => .ok (some (.operandEmptyList op))
    | .arr _ => .ok none
    | _ => .ok (some (.operandNotList op))
  else if t.family == .numeric then do
    return if (← v.toNumber?).isNone then some (.operandNotNumeric op) else none
  else .ok none

/-- The operand at a path. -/
def readOperandAt (env : Surroundings) (path : String) (t : ColumnType) (op : Operator)
    (o : Options) (v : Json) : Except FilterError Operand :=
  match presenceProblem? t op v with
  | .error f => .error (.fault f)
  | .ok (some p) => .error (.issues [⟨path, p⟩])
  | .ok none =>
    (readOperand env t op o v).mapError fun
      | .fault f => .fault f
      | .complaints list => .issues (list.map fun c => ⟨path ++ c.suffix, .operand c.problem⟩)

/-- A condition from its fields. -/
def buildLeaf (ctx : BuildContext) (path : String) (fields : Fields) :
    Except FilterError (Leaf String Operand) := do
  let head ← readHead path fields
  let op ← readOperator path head.columnType head.operator
  let (t, o) ← adopt ctx path head.column head.columnType
  let v ← readOperandAt ctx.surroundings (path ++ ".value") t op o (Fields.get fields "value")
  return ⟨head.column, t, op, v, head.logic⟩

/-- Whether a value may stand as the type of a node. -/
def isNodeType (v : Json) : Bool :=
  v.isNull || v.str? == some "filter" || v.str? == some "group"

mutual

/-- The filter that a document inside a filter is. -/
def buildNode (ctx : BuildContext) (path : String) (raw : Json) :
    Except FilterError BuiltFilter :=
  match raw with
  | .obj fields =>
    let type := Fields.get fields "type"
    if !isNodeType type then .error (.issues [⟨path ++ ".type", .unknownNodeType⟩])
    else if type.str? == some "group" || Fields.has fields "filters" then
      let members :=
        match membersOf fields with
        | some ⟨items, _⟩ => buildMembers ctx (path ++ ".filters") items
        | none => .error (.issues [⟨path ++ ".filters", .notMemberList⟩])
      (alongside (readLogic (path ++ ".logic") (Fields.get fields "logic")) members).map
        fun p => .group p.1 p.2
    else (buildLeaf ctx path fields).map .leaf
  | _ => .error (.issues [⟨path, .notObject⟩])
termination_by (sizeOf raw, 0)

/-- The members of a group; there must be one. -/
def buildMembers (ctx : BuildContext) (path : String) (items : List Json) :
    Except FilterError (List BuiltFilter) :=
  if items.isEmpty then .error (.issues [⟨path, .emptyGroup⟩])
  else gather (buildItems ctx path 0 items)
termination_by (sizeOf items, 1)

/-- The filters that the items of an array are, each by itself. -/
def buildItems (ctx : BuildContext) (path : String) (index : Nat) (items : List Json) :
    List (Except FilterError BuiltFilter) :=
  match items with
  | [] => []
  | v :: rest =>
    buildNode ctx (path ++ "." ++ toString index) v :: buildItems ctx path (index + 1) rest
termination_by (sizeOf items, 0)

end

/-- The members of the topmost group. -/
def buildTop (ctx : BuildContext) (v : Json) : Except FilterError (List BuiltFilter) :=
  match v with
  | .arr items => buildMembers ctx "filters" items
  | _ => .error (.issues [⟨"filters", .notMemberList⟩])

/-- The filter that a document is: an array of filters, an object with `filters` and perhaps a
`logic`, or a single filter. The result is always a group. -/
def build (ctx : BuildContext) (raw : Json) : Except FilterError BuiltFilter :=
  match raw with
  | .arr items => (buildMembers ctx "filters" items).map (.group .all)
  | .obj fields =>
    if Fields.has fields "filters" && !Fields.has fields "type" then
      (alongside (readLogic "logic" (Fields.get fields "logic"))
        (buildTop ctx (Fields.get fields "filters"))).map fun p => .group p.1 p.2
    else
      (buildNode ctx "filters.0" raw).map fun
        | .leaf l => .group .all [.leaf l]
        | g => g
  | _ => .error (.issues [⟨"filters", .notFilterList⟩])

end FilterBuilder

namespace BuiltFilter

/-- A built filter as one is written. -/
def toRaw (t : BuiltFilter) : RawFilter :=
  t.map Json.str Operand.toJson

end BuiltFilter

end BoardQuery
