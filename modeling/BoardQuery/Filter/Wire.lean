import BoardQuery.Filter.Issue
import BoardQuery.Filter.Tree
import BoardQuery.Text.Case

/-!
# Filters as documents

The wire form of a filter: an object with `type`, and the fields of a condition or the `logic` and
the `filters` of a group. Reading it back checks structure alone.
-/

namespace BoardQuery

/-- The wire form of a condition. -/
def RawFilter.leafJson (l : Leaf Json Json) : Json :=
  .obj [("type", .str "filter"), ("column", l.column), ("column_type", .str l.columnType.name),
    ("operator", .str l.operator.name), ("value", l.operand), ("logic", .str l.logic.name)]

mutual

/-- The wire form of a filter. -/
def RawFilter.toJson : RawFilter → Json
  | .leaf l => RawFilter.leafJson l
  | .group logic members =>
    .obj [("type", .str "group"), ("logic", .str logic.name),
      ("filters", .arr (RawFilter.membersJson members))]

def RawFilter.membersJson : List RawFilter → List Json
  | [] => []
  | m :: rest => RawFilter.toJson m :: RawFilter.membersJson rest

end

/-- The document of a filter, the logic and the members of its topmost group. -/
def RawFilter.toDocument (t : RawFilter) : Json :=
  .obj [("logic", .str t.asGroup.1.name), ("filters", .arr (RawFilter.membersJson t.asGroup.2))]

theorem sizeOf_lookup_lt {fields : List (String × Json)} {name : String} {v : Json}
    (h : fields.lookup name = some v) : sizeOf v < sizeOf fields := by
  induction fields with
  | nil => simp at h
  | cons f rest ih =>
    obtain ⟨n, w⟩ := f
    rw [List.lookup_cons] at h
    split at h
    · cases h
      simp
      omega
    · have := ih h
      simp
      omega

/-- The members of a group that a field holds, if it holds an array. -/
def membersOf (fields : Fields) : Option { items : List Json // sizeOf items < sizeOf fields } :=
  match h : fields.lookup "filters" with
  | some (.arr items) =>
    some ⟨items, by
      have := sizeOf_lookup_lt h
      simp at this
      omega⟩
  | _ => none

/-- The logic that a field holds, in any letter case; what is falsy stands for `AND`. -/
def wireLogic (v : Json) : Except Unreadable Logic :=
  let name := Text.upper (v.orElse (.str "AND")).display
  match Logic.ofName? name with
  | some l => .ok l
  | none => .error (.name .logic (.str name))

/-- A field that a condition must have. -/
def wireField (path : String) (fields : Fields) (name : String) : Except FilterError Json :=
  match Fields.get? fields name with
  | some v => .ok v
  | none => .error (.issues [⟨path ++ "." ++ name, .missingField name⟩])

/-- Faults of text that names nothing are issues of the node. -/
def atNode {α : Type} (path : String) (r : Except Fault α) : Except FilterError α :=
  r.mapError fun
    | .unreadable why => .issues [⟨path, .unreadable why⟩]
    | f => .fault f

/-- A condition from its fields. -/
def wireLeaf (path : String) (fields : Fields) (logic : Logic) :
    Except FilterError (Leaf Json Json) := do
  let column ← wireField path fields "column"
  let columnType ← atNode path (ColumnType.ofJson (← wireField path fields "column_type"))
  let operator ← atNode path (Operator.ofJson (← wireField path fields "operator"))
  return ⟨column, columnType, operator, Fields.get fields "value", logic⟩

mutual

/-- The filter that a document is. An array is a group of all its items. -/
def RawFilter.ofJson (path : String) (doc : Json) : Except FilterError RawFilter :=
  match doc with
  | .arr items => (RawFilter.membersOfJson path 0 items).map (.group .all)
  | .obj fields =>
    match wireLogic (Fields.get fields "logic") with
    | .error why => .error (.issues [⟨path, .unreadable why⟩])
    | .ok logic =>
      if (Fields.get fields "type").str? == some "group" || Fields.has fields "filters" then
        match membersOf fields with
        | some ⟨items, _⟩ =>
          (RawFilter.membersOfJson (path ++ ".filters") 0 items).map (.group logic)
        | none => .error (.issues [⟨path ++ ".filters", .memberListMissing⟩])
      else (wireLeaf path fields logic).map .leaf
  | _ => .error (.issues [⟨path, .notObject⟩])
termination_by sizeOf doc

/-- The filters that the items of an array are, the first one at this index. -/
def RawFilter.membersOfJson (path : String) (index : Nat) (items : List Json) :
    Except FilterError (List RawFilter) :=
  match items with
  | [] => .ok []
  | v :: rest => do
    let m ← RawFilter.ofJson (path ++ "." ++ toString index) v
    return m :: (← RawFilter.membersOfJson path (index + 1) rest)
termination_by sizeOf items

end

end BoardQuery
