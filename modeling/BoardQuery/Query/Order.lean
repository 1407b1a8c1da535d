import BoardQuery.Query.Selection

/-!
# Orders of tasks

Tasks are listed by a missing flag, then by the value of one attribute or column, then by id. The
flag puts the tasks without a value before all others or after them. Ids differ, so the order is
total, and a key says exactly where a page ends.
-/

namespace BoardQuery

/-- Where tasks without a value stand. -/
inductive MissingPolicy where
  | first
  | last
  deriving DecidableEq

/-- The policy that a setting states. -/
def MissingPolicy.ofJson (v : Json) : Except Fault MissingPolicy :=
  match v.str? with
  | some "first" => .ok .first
  | some "last" => .ok .last
  | _ => .error (.unreadable (.missingPolicy v))

/-- What tasks are ordered by. -/
inductive OrderKey where
  | native (a : Attribute)
  | column (id : String)
  deriving DecidableEq

/-- An order of tasks. -/
structure TaskOrder where
  sortBy : String
  descending : Bool
  key : OrderKey
  missing : MissingPolicy

/-- The place of a task in an order. -/
structure RowKey where
  flag : Int
  value : Cell
  id : String
  deriving DecidableEq

/-- Nothing stands before numbers, and numbers before text. -/
def Cell.rank : Cell → Nat
  | .null => 0
  | .int _ => 1
  | .real _ => 1
  | .text _ => 2

/-- How two cells stand in an order. -/
def Cell.sorted (a b : Cell) : Ordering :=
  match a.compare? b with
  | some o => o
  | none => compare a.rank b.rank

namespace TaskOrder

def direction (o : TaskOrder) : String :=
  if o.descending then "desc" else "asc"

/-- The flag of tasks without a value. -/
def missingMarker (o : TaskOrder) : Int :=
  match o.missing with
  | .last => 1
  | .first => 0

/-- The flag of a value. -/
def flag (o : TaskOrder) (c : Cell) : Int :=
  if c.isNull then o.missingMarker else 1 - o.missingMarker

/-- The value by which a task is ordered. -/
def cell (o : TaskOrder) (s : Store) (t : Task) : Cell :=
  match o.key with
  | .native a => t.cell a
  | .column id => ((s.value? t.id id).map Cell.ofStored).getD .null

def rowKey (o : TaskOrder) (s : Store) (t : Task) : RowKey :=
  let c := o.cell s t
  ⟨o.flag c, c, t.id⟩

/-- How two values stand, the greater first in a descending order. -/
def compareCells (o : TaskOrder) (a b : Cell) : Ordering :=
  if o.descending then b.sorted a else a.sorted b

/-- How two rows stand: by flag, value and id. -/
def compareRows (o : TaskOrder) (a b : RowKey) : Ordering :=
  (compare a.flag b.flag).then ((o.compareCells a.value b.value).then (compare a.id b.id))

/-- Tasks with the rows by which they are ordered, in order. -/
def sortRows (o : TaskOrder) (s : Store) (tasks : List Task) : List (Task × RowKey) :=
  (tasks.map fun t => (t, o.rowKey s t)).mergeSort fun a b => o.compareRows a.2 b.2 != .gt

/-- The order as an answer describes it. -/
def toJson (o : TaskOrder) : Json :=
  .obj [("by", .str o.sortBy), ("order", .str o.direction)]

end TaskOrder

/-- The order by position, which stands in for one that cannot be followed. -/
def defaultOrder (missing : MissingPolicy) : TaskOrder :=
  ⟨Attribute.position.name, false, .native .position, missing⟩

/-- The direction that a request states, in any letter case; what is neither ascends. -/
def statedDescending (v : Json) : Except Fault Bool :=
  match v.orElse (.str "asc") with
  | .str s => .ok (String.ofList (s.toList.map Char.toLower) == "desc")
  | _ => .error .noFields

/-- The order that a request asks for, by position unless it says otherwise. A column that is
unknown or cannot be sorted by leaves the default order, with a warning. -/
def chooseOrder (missing : MissingPolicy) (schema : BoardSchema) (sortBy sortOrder : Json) :
    Except Fault (TaskOrder × Option QueryWarning) := do
  let stated := sortBy.orElse (.str Attribute.position.name)
  let descending ← statedDescending sortOrder
  match resolveValue (some schema) stated with
  | none => return (defaultOrder missing, some (.unknownSort stated))
  | some r =>
    if r.columnType.sortable then
      let key :=
        match r with
        | .native a => OrderKey.native a
        | .column c _ => OrderKey.column c.id
      return (⟨stated.display, descending, key, missing⟩, none)
    else return (defaultOrder missing, some (.notSortable stated r.columnType))

end BoardQuery
