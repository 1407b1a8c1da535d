import BoardQuery.Query.Cursor

/-!
# Pages

A list of tasks is read in pages, by number or by continuing after the row that a cursor names. A
page that has more after it carries the cursor of its last row, so a client can go on from any
page.
-/

namespace BoardQuery

/-- How many tasks a page holds unless a request says so, and at most. -/
structure PageLimits where
  usual : Int
  most : Int

/-- Which page is asked for. -/
inductive Pager where
  | numbered (perPage page : Int)
  | continued (perPage : Int) (cursor : Json)

/-- The size of a page: at least one task, and at most as many as allowed. -/
def PageLimits.clamp (l : PageLimits) (v : Json) : Except Fault Int :=
  if v.isNull then .ok l.usual
  else v.toInteger.map fun n => max 1 (min n l.most)

/-- The page that a request asks for; a cursor goes before a number. -/
def choosePager (l : PageLimits) (perPage page cursor : Json) : Except Fault Pager := do
  let perPage ← l.clamp perPage
  if cursor.truthy then return .continued perPage cursor
  let page ← (page.orElse (.int 1)).toInteger
  return .numbered perPage (max 1 page)

/-- Some of the tasks of a list, with what is needed to read on. -/
structure Page where
  items : List Task
  perPage : Int
  page : Option Int
  total : Nat
  hasMore : Bool
  nextCursor : Option String

def Page.toJson (p : Page) : Json :=
  .obj [("per_page", .int p.perPage), ("page", (p.page.map Json.int).getD .null),
    ("total", .int p.total), ("has_more", .bool p.hasMore),
    ("next_cursor", .ofOption p.nextCursor)]

namespace TaskOrder

/-- What a place is compared with, when rows after it are sought. -/
structure Bound where
  flag : Int
  /-- The value of the row, unless it has none. -/
  value : Option Cell
  id : String

/-- The form that the key of an order gives to what it is compared with. -/
def affinity (o : TaskOrder) : Affinity :=
  match o.key with
  | .native a => if a.textual then .text else .numeric
  | .column _ => .none

/-- The bound that a cursor sets; its flag and its value must be ones that the store can hold. -/
def bound (o : TaskOrder) (c : Cursor) : Except Fault Bound := do
  let value ← c.value.cell
  if !fitsInteger c.flag then .error .outOfRange
  return ⟨c.flag, if c.value.isNull then none else some (o.affinity.apply value), c.id⟩

/-- Whether a row comes after a bound: with a later flag, or with the same flag and a later value,
or with the same flag and value and a later id. -/
def isAfter (o : TaskOrder) (b : Bound) (r : RowKey) : Bool :=
  r.flag > b.flag || (r.flag == b.flag &&
    match b.value with
    | none => b.id < r.id
    | some v =>
      let later := if o.descending then Comparison.less else Comparison.greater
      (later.test r.value v).isYes || ((Comparison.equal.test r.value v).isYes && b.id < r.id))

/-- The cursor after the last of some rows, if there is more to come. -/
def nextCursor (o : TaskOrder) (s : Store) (items : List Task) (hasMore : Bool) : Option String :=
  if hasMore then items.getLast?.map (o.cursorAfter s) else none

/-- A page by number. One that starts beyond 64 bits is out of range. -/
def numberedPage (o : TaskOrder) (s : Store) (tasks : List Task) (perPage page : Int) :
    Except Fault Page :=
  let skipped := (page - 1) * perPage
  if !fitsInteger skipped then .error .outOfRange
  else
    let rows := o.sortRows s tasks
    let items := ((rows.drop skipped.toNat).take perPage.toNat).map (·.1)
    let hasMore : Bool := page * perPage < tasks.length
    .ok ⟨items, perPage, some page, tasks.length, hasMore, o.nextCursor s items hasMore⟩

/-- The page after a bound. -/
def pageAfter (o : TaskOrder) (s : Store) (tasks : List Task) (perPage : Int) (b : Bound) : Page :=
  let rows := (o.sortRows s tasks).filter fun r => o.isAfter b r.2
  let items := (rows.take perPage.toNat).map (·.1)
  let hasMore : Bool := perPage < rows.length
  ⟨items, perPage, none, tasks.length, hasMore, o.nextCursor s items hasMore⟩

/-- The page of a list of tasks that is asked for. -/
def page (o : TaskOrder) (s : Store) (tasks : List Task) : Pager → Except Fault Page
  | .numbered perPage page => o.numberedPage s tasks perPage page
  | .continued perPage (.str text) => do
    return o.pageAfter s tasks perPage (← o.bound (← o.decodeCursor text))
  | .continued .. => .error .noFields

end TaskOrder

end BoardQuery
