import BoardQuery.Board.Attribute
import BoardQuery.Board.Schema
import BoardQuery.Column.Catalogue

/-!
# Resolution of names

A name in a filter or an order stands for an attribute of tasks or for a column of the board.
Attributes come first, so no column can take the name of one. A column whose type is unknown is
not found.
-/

namespace BoardQuery

/-- What a name stands for. -/
inductive Resolved where
  | native (a : Attribute)
  | column (c : BoardColumn) (t : ColumnType)

namespace Resolved

def name : Resolved → String
  | .native a => a.name
  | .column c _ => c.name

def columnType : Resolved → ColumnType
  | .native a => a.columnType
  | .column _ t => t

def options : Resolved → Options
  | .native a => a.options
  | .column c t => c.effectiveOptions t

/-- The board column, unless the name stands for an attribute. -/
def column? : Resolved → Option BoardColumn
  | .native _ => none
  | .column c _ => some c

end Resolved

/-- What a name stands for on a board; without a board only attributes are found. -/
def resolve (schema : Option BoardSchema) (name : String) : Option Resolved :=
  match Attribute.ofName? name with
  | some a => some (.native a)
  | none => do
    let c ← (← schema).find? name
    let t ← c.columnType?
    return .column c t

/-- What a value stands for as a name; only texts are names. -/
def resolveValue (schema : Option BoardSchema) (v : Json) : Option Resolved :=
  v.str?.bind (resolve schema)

/-- An entry of the column picker. -/
structure PickerEntry where
  id : String
  name : String
  label : String
  columnType : ColumnType
  options : Options
  native : Bool

def PickerEntry.toJson (e : PickerEntry) : Json :=
  .obj [("id", .str e.id), ("name", .str e.name), ("label", .str e.label),
    ("type", .str e.columnType.name), ("type_label", .str e.columnType.label),
    ("operators", e.columnType.operatorNames), ("options", .obj e.options),
    ("sortable", .bool e.columnType.sortable), ("is_native", .bool e.native)]

/-- The columns that filters on a board may use: the offered attributes, then the columns of the
board whose type is known. -/
def availableColumns (s : BoardSchema) : List PickerEntry :=
  (Attribute.offered.map fun a => ⟨a.name, a.name, a.label, a.columnType, a.options, true⟩) ++
    s.columns.filterMap fun c =>
      c.columnType?.map fun t => ⟨c.id, c.name, c.name, t, c.effectiveOptions t, false⟩

end BoardQuery
