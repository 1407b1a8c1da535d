import BoardQuery.Service.Refusal
import BoardQuery.Store.Basic
import BoardQuery.Value.Canonical

/-!
# Values of tasks

Reading and writing what tasks hold in the columns of their board. Every write goes through the
validation of the column, so the store holds canonical values, and a set of values is written only
if all of them pass.
-/

namespace BoardQuery

/-- The present moment and the users of a store, for validation. -/
def Store.surroundings (s : Store) (now : Moment) : Surroundings :=
  ⟨now, some s.userExists⟩

/-- A value of a task as an answer tells it. -/
def columnValueJson (s : Store) (t : Task) (c : BoardColumn) : Json :=
  .obj [("column_id", .str c.id), ("column", .str c.name), ("type", .str c.typeName),
    ("value", (s.value? t.id c.id).getD .null)]

/-- The values of a task for every column of its board, in the order of the columns. -/
def taskValues (s : Store) (t : Task) : Json :=
  .arr ((s.columnsOf t.boardId).map (columnValueJson s t))

/-- The canonical form of a raw value for a column, which is named by a path in problems. -/
def validateFor (env : Surroundings) (c : BoardColumn) (path : String) (raw : Json) :
    Outcome Json := do
  let t ← orFault c.columnType
  (validate env t (c.effectiveOptions t) raw).mapError (Refusal.ofRejection path)

/-- Writes a value of a task into a column of its board. -/
def setValue (env : Surroundings) (s : Store) (t : Task) (c : BoardColumn) (raw : Json) :
    Outcome Store := do
  if c.boardId != t.boardId then refuse (.columnElsewhere c.name)
  return s.putValue t.id c.id (← validateFor env c c.name raw)

/-- What came of one key of a set of values. -/
inductive KeyCheck where
  | accepted (column : BoardColumn) (value : Json)
  | rejected (key : String) (problem : KeyProblem)

/-- Checks the value of a key. Only problems of the value are told with the key; other refusals
end the whole. -/
def checkKey (env : Surroundings) (schema : BoardSchema) (key : String) (raw : Json) :
    Outcome KeyCheck :=
  match schema.find? key with
  | none => .ok (.rejected key .unknownColumn)
  | some c =>
    match validateFor env c c.name raw with
    | .ok v => .ok (.accepted c v)
    | .error (.value _ problems) => .ok (.rejected key (.rejected problems))
    | .error r => .error r

/-- The keys that were rejected. -/
def rejectedKeys (checks : List KeyCheck) : List (String × KeyProblem) :=
  checks.filterMap fun
    | .rejected key p => some (key, p)
    | .accepted .. => none

/-- Writes the values that were accepted. -/
def writeChecked (s : Store) (t : Task) (checks : List KeyCheck) : Store :=
  checks.foldl (fun s check =>
    match check with
    | .accepted c v => s.putValue t.id c.id v
    | .rejected .. => s) s

/-- Writes a set of values, each under the id or the name of a column. -/
def setValues (env : Surroundings) (s : Store) (t : Task) (schema : BoardSchema) (values : Json) :
    Outcome Store := do
  match values with
  | .obj (f :: rest) => do
    let checks ← (f :: rest).mapM fun p => checkKey env schema p.1 p.2
    match rejectedKeys checks with
    | [] => return writeChecked s t checks
    | keys => .error (.values keys)
  | _ => refuse .valuesMissing

/-- Clears the value of a task in a column that does not require one. -/
def clearValue (s : Store) (t : Task) (c : BoardColumn) : Outcome Store := do
  let type ← orFault c.columnType
  if Options.flag (c.effectiveOptions type) "required" then refuse (.columnRequired c.name)
  return s.eraseValue t.id c.id

end BoardQuery
