import BoardQuery.Filter.Builder
import BoardQuery.Service.FieldValues
import BoardQuery.Text.Markup

/-!
# Saved filters

Filters that users store for a board under a name. They are stored as they have been built, names
are unique for a user and a board, and a public filter may be used, but not changed, by everyone
who sees the board.
-/

namespace BoardQuery

/-- What filters of a board are built against. -/
def Store.buildContext (s : Store) (now : Moment) (schema : BoardSchema) (staleOk : Bool) :
    BuildContext :=
  ⟨s.surroundings now, resolve (some schema), staleOk⟩

/-- The filter that a document is on a board. -/
def buildFilter (s : Store) (now : Moment) (schema : BoardSchema) (staleOk : Bool) (raw : Json) :
    Outcome BuiltFilter :=
  (FilterBuilder.build (s.buildContext now schema staleOk) raw).mapError Refusal.ofFilterError

namespace SavedFilter

def accessibleBy (f : SavedFilter) (userId : String) : Bool :=
  f.isPublic || f.userId == userId

end SavedFilter

/-- The name under which a filter is saved: a text without markup. -/
def filterName? (v : Json) : Option String :=
  (v.str?.map Markup.plainText).filter (· != "")

/-- What is stated of a filter that is to be saved. -/
structure FilterDraft where
  name : Json
  definition : Json
  description : Json
  isPublic : Bool
  isDefault : Bool

/-- Makes a filter the default of its owner on its board, and no other. -/
def Store.makeDefault (s : Store) (f : SavedFilter) : Store :=
  { s with filters := s.filters.map fun g =>
      if g.id == f.id then { g with isDefault := true }
      else if g.userId == f.userId && g.boardId == f.boardId then { g with isDefault := false }
      else g }

/-- Saves a filter, and tells its id. -/
def saveFilter (now : Moment) (s : Store) (schema : BoardSchema) (userId : String)
    (d : FilterDraft) : Outcome (Store × String) := do
  match filterName? d.name with
  | none => refuse .filterNameMissing
  | some name => do
    if maxFilterName < name.length then refuse .filterNameTooLong
    if s.filters.any fun f => f.userId == userId && f.boardId == schema.boardId && f.name == name
    then refuse (.filterNameTaken name)
    let tree ← buildFilter s now schema false d.definition
    let f : SavedFilter := {
      id := s.nextFilterId
      userId
      boardId := schema.boardId
      name
      description := d.description.str?.map Markup.plainText
      definition := tree.toRaw.toDocument
      isPublic := d.isPublic
      isDefault := false
      usageCount := 0
      lastUsedAt := none
      createdAt := now.wholeSecond }
    let s := s.addFilter f
    return (if d.isDefault then s.makeDefault f else s, f.id)

/-- The filters of a board that a user may use, defaults first and by name. -/
def usableFilters (s : Store) (boardId userId : String) : List SavedFilter :=
  (s.filters.filter fun f => f.boardId == boardId && f.accessibleBy userId).mergeSort fun f g =>
    if f.isDefault == g.isDefault then f.name ≤ g.name else f.isDefault

/-- A filter that a user may use on a board. -/
def usableFilter (s : Store) (id boardId userId : String) : Outcome SavedFilter :=
  match (s.filter? id).filter fun f => f.boardId == boardId && f.accessibleBy userId with
  | some f => .ok f
  | none => refuse (.filterNotFound id)

/-- Notes that a filter has been used. -/
def recordUse (now : Moment) (s : Store) (id : String) : Store :=
  s.updateFilter id fun f => { f with usageCount := f.usageCount + 1, lastUsedAt := some now }

/-- Makes a filter the default; only its owner may. -/
def chooseDefault (s : Store) (id boardId userId : String) : Outcome Store := do
  let f ← usableFilter s id boardId userId
  if f.userId != userId then refuse .onlyOwnerChanges
  return s.makeDefault f

/-- Deletes a filter; only its owner may. -/
def deleteFilter (s : Store) (id boardId userId : String) : Outcome Store := do
  let f ← usableFilter s id boardId userId
  if f.userId != userId then refuse .onlyOwnerDeletes
  return s.eraseFilter id

end BoardQuery
