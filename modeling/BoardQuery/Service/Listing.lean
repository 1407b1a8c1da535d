import BoardQuery.Filter.Summary
import BoardQuery.Service.SavedFilters
import BoardQuery.Service.Settings

/-!
# Listings

A page of the tasks of a board that a filter selects, in an order, with what there is to tell about
the filter. Using a saved filter is counted, and the filter of a listing may be saved with it.
-/

namespace BoardQuery

/-- The answer to a query. -/
structure Listing where
  page : Page
  order : TaskOrder
  tree : Option BuiltFilter
  warnings : List QueryWarning
  /-- The tasks of the board, whatever the filter. -/
  total : Nat
  diagnostics : Diagnostics
  appliedFilter : Option String
  savedFilter : Option String

namespace Listing

/-- The number of conditions. -/
def conditions (l : Listing) : Nat :=
  (l.tree.map (·.size)).getD 0

def summary (l : Listing) : String :=
  (l.tree.map (·.toRaw.summary)).getD ""

/-- The share of the tasks that the filter selects. -/
def efficiency (l : Listing) : Json :=
  if l.total == 0 then .int 0 else .num (percentage l.page.total l.total)

def statistics (l : Listing) : Json :=
  .obj [("total_tasks", .int l.total), ("filtered_tasks", .int l.page.total),
    ("filter_efficiency", l.efficiency), ("filters_applied", .int l.conditions)]

end Listing

/-- Whether a document states a filter at all. -/
def statesFilter : Json → Bool
  | .null => false
  | .arr items => !items.isEmpty
  | .obj fields =>
    match Fields.get fields "filters" with
    | .arr [] => Fields.has fields "type"
    | _ => true
  | _ => true

/-- What is doubtful about a filter, if there is one. -/
def diagnose (c : Settings) (tree : Option BuiltFilter) : Diagnostics :=
  match tree with
  | some t => t.toRaw.diagnostics c.textConditions
  | none => ⟨[], []⟩

/-- The document of the filter of a query, and the saved filter it comes from. -/
def queryFilter (s : Store) (boardId userId : String) (q : TaskQuery) :
    Outcome (Json × Option SavedFilter) :=
  match q.savedFilterId with
  | none => .ok (q.filters, none)
  | some id => (usableFilter s id boardId userId).map fun f => (f.definition, some f)

/-- The filter of a query on a board. Conditions of a saved filter may have gone stale. -/
def builtQueryFilter (s : Store) (now : Moment) (schema : BoardSchema) (raw : Json) (saved : Bool) :
    Outcome (Option BuiltFilter) :=
  if statesFilter raw then (buildFilter s now schema saved raw).map some else .ok none

/-- Saves the filter of a query. -/
def saveQueryFilter (now : Moment) (s : Store) (schema : BoardSchema) (userId : String)
    (q : TaskQuery) (raw : Json) (tree : Option BuiltFilter) : Outcome (Store × Option String) := do
  if !q.saveFilter then return (s, none)
  if tree.isNone then refuse .emptyFilter
  let draft : FilterDraft := ⟨.ofOption q.filterName, raw, .null, q.isPublic, false⟩
  let (s, id) ← saveFilter now s schema userId draft
  return (s, some id)

/-- Lists tasks of a board for a user. -/
def listTasks (c : Settings) (now : Moment) (s : Store) (board : Board) (userId : String)
    (q : TaskQuery) : Outcome (Store × Listing) := do
  let schema := s.schema board
  let (raw, applied) ← queryFilter s board.id userId q
  let tree ← builtQueryFilter s now schema raw applied.isSome
  let selection := (tree.map (Selection.ofFilter schema)).getD ⟨none, []⟩
  let direction := Json.str (if q.descending then "desc" else "asc")
  let (order, warning) ← orFault (chooseOrder c.missing schema (.ofOption q.sortBy) direction)
  let pager ← orFault (choosePager c.pages ((q.perPage.map Json.int).getD .null) (.int q.page)
    (.ofOption q.cursor))
  let tasks := selectTasks s schema q.includeArchived selection.condition
  let page ← orFault (order.page s tasks pager)
  let s := (applied.map fun f => recordUse now s f.id).getD s
  let (s, saved) ← saveQueryFilter now s schema userId q raw tree
  return (s, {
    page
    order
    tree
    warnings := selection.warnings ++ warning.toList
    total := (selectTasks s schema q.includeArchived none).length
    diagnostics := diagnose c tree
    appliedFilter := applied.map (·.id)
    savedFilter := saved })

end BoardQuery
