import BoardQuery.Json.Bytes
import BoardQuery.Query.Order
import BoardQuery.Text.Base64

/-!
# Cursors

A cursor is a text that holds the place of a row and the order it was issued for. Only the same
order takes it back. Clients may send any text: what is no cursor is refused, and a value that the
store cannot compare with is a fault.
-/

namespace BoardQuery

/-- The value that a cursor holds. Moments are told apart from texts. -/
inductive CursorValue where
  | plain (v : Json)
  | moment (z : ZonedMoment)

/-- What a cursor says: the flag, the value and the id of the row to continue after. -/
structure Cursor where
  flag : Int
  value : CursorValue
  id : String

namespace CursorValue

def isNull : CursorValue → Bool
  | .plain v => v.isNull
  | .moment _ => false

/-- The value as it stands in a cursor, and the word for its kind. -/
def written : CursorValue → Json × String
  | .plain v => (v, "plain")
  | .moment z => (.str z.isoText, "datetime")

/-- The cell that a value is compared as. Integers beyond 64 bits are out of range, and truth
values, arrays and objects are compared with nothing. -/
def cell : CursorValue → Except Fault Cell
  | .plain .null => .ok .null
  | .plain (.int n) => if fitsInteger n then .ok (.int n) else .error .outOfRange
  | .plain (.num .nan) => .ok .null
  | .plain (.num x) => .ok (.real x)
  | .plain (.str s) => .ok (.text s)
  | .plain _ => .error .refused
  | .moment z => .ok (.text z.moment.microText)

end CursorValue

namespace TaskOrder

/-- The document inside a cursor. -/
def cursorDocument (o : TaskOrder) (flag : Int) (value : CursorValue) (id : Json) : Json :=
  .obj [("s", .ofStrings [o.sortBy, o.direction]), ("m", .int flag), ("v", value.written.1),
    ("t", .str value.written.2), ("id", id)]

/-- The text of a cursor. -/
def encodeCursor (o : TaskOrder) (flag : Int) (value : CursorValue) (id : Json) : String :=
  let document := (o.cursorDocument flag value id).write
  String.ofList (Base64.encode document.toUTF8.toList)

/-- The cursor that is issued for a key: its text, unless an integer in it is too long to be
written. The keys of rows hold no such integers. -/
def issueCursor (o : TaskOrder) (flag : Int) (value : CursorValue) (id : Json) :
    Except Fault String :=
  if (o.cursorDocument flag value id).hasLongInteger then .error (.unreadable .integerUnwritten)
  else .ok (o.encodeCursor flag value id)

/-- The value by which a task is ordered, as a cursor holds it. -/
def cursorValue (o : TaskOrder) (s : Store) (t : Task) : CursorValue :=
  let plain := CursorValue.plain (o.cell s t).toJson
  match o.key with
  | .native a =>
    match t.moment? a with
    | some m => .moment ⟨m, none⟩
    | none => plain
  | .column _ => plain

/-- The cursor that continues after a task. -/
def cursorAfter (o : TaskOrder) (s : Store) (t : Task) : String :=
  o.encodeCursor (o.flag (o.cell s t)) (o.cursorValue s t) (.str t.id)

end TaskOrder

namespace Cursor

/-- A fault of text that cannot be read, or of a value of the wrong shape, says that a text is no
cursor. -/
def unreadable : Fault → Fault
  | .unreadable _ => .unreadable .cursor
  | .wrongShape => .unreadable .cursor
  | f => f

/-- A field of the document of a cursor. -/
def field (fields : Fields) (name : String) : Except Fault Json :=
  match Fields.get? fields name with
  | some v => .ok v
  | none => .error (.unreadable .cursor)

/-- The value of a cursor; one of the kind of moments must be the text of a moment, or null. -/
def readValue (v kind : Json) : Except Fault CursorValue :=
  if kind.str? == some "datetime" && !v.isNull then
    match v.str?.bind Iso.readStrict? with
    | some z => .ok (.moment z)
    | none => .error (.unreadable .cursor)
  else .ok (.plain v)

/-- The order that a cursor states, and what it says. -/
def read (text : String) : Except Fault (Json × Cursor) := do
  let bytes ← (Base64.decode text.toUTF8.toList).elim (.error (.unreadable .cursor)) .ok
  let document ← (Json.readBytes bytes).mapError fun _ => Fault.unreadable .cursor
  let fields := document.fields
  let sort ← field fields "s"
  let flag ← ((← field fields "m").toInteger).mapError unreadable
  let value ← field fields "v"
  let id ← field fields "id"
  let value ← readValue value (Fields.get fields "t")
  return (sort, ⟨flag, value, id.display⟩)

end Cursor

/-- The row that a cursor continues after in an order. The value of a row with the flag of missing
values is nothing. -/
def TaskOrder.decodeCursor (o : TaskOrder) (text : String) : Except Fault Cursor := do
  let (sort, cursor) ← Cursor.read text
  let stated ← sort.elements
  if stated.map Json.str? != [some o.sortBy, some o.direction] then
    .error (.unreadable .cursorOfOtherSort)
  if cursor.flag == o.missingMarker then return { cursor with value := .plain .null }
  return cursor

end BoardQuery
