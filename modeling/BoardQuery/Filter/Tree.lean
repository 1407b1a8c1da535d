import BoardQuery.Column.Type

/-!
# Filters

A filter is a condition on one column, or a group of filters joined by a logic. The names of
columns and the operands are parameters: a filter as written carries any values there, and a filter
that has been built carries texts and operands.
-/

namespace BoardQuery

/-- A condition on a column. Its own logic is kept for writing it back; members of a group are
joined by the logic of the group. -/
structure Leaf (Name Value : Type) where
  column : Name
  columnType : ColumnType
  operator : Operator
  operand : Value
  logic : Logic

/-- A condition or a group of filters. -/
inductive Filter (Name Value : Type) where
  | leaf (l : Leaf Name Value)
  | group (logic : Logic) (members : List (Filter Name Value))

namespace Leaf

variable {Name Value Name' Value' : Type}

def map (f : Name → Name') (g : Value → Value') (l : Leaf Name Value) : Leaf Name' Value' :=
  ⟨f l.column, l.columnType, l.operator, g l.operand, l.logic⟩

end Leaf

namespace Filter

variable {Name Value Name' Value' : Type}

mutual

/-- The conditions of a filter, in the order written. -/
def leaves : Filter Name Value → List (Leaf Name Value)
  | .leaf l => [l]
  | .group _ members => membersLeaves members

def membersLeaves : List (Filter Name Value) → List (Leaf Name Value)
  | [] => []
  | m :: rest => leaves m ++ membersLeaves rest

end

mutual

def map (f : Name → Name') (g : Value → Value') : Filter Name Value → Filter Name' Value'
  | .leaf l => .leaf (l.map f g)
  | .group logic members => .group logic (mapMembers f g members)

def mapMembers (f : Name → Name') (g : Value → Value') :
    List (Filter Name Value) → List (Filter Name' Value')
  | [] => []
  | m :: rest => map f g m :: mapMembers f g rest

end

/-- The number of conditions. -/
def size (t : Filter Name Value) : Nat :=
  t.leaves.length

def leavesOfTypes (t : Filter Name Value) (types : List ColumnType) : List (Leaf Name Value) :=
  t.leaves.filter fun l => types.contains l.columnType

/-- The filter as a group; a lone condition is a group of one. -/
def asGroup : Filter Name Value → Logic × List (Filter Name Value)
  | .leaf l => (.all, [.leaf l])
  | .group logic members => (logic, members)

end Filter

/-- A filter as written. -/
abbrev RawFilter := Filter Json Json

/-- The conditions whose column is given by this very value. -/
def RawFilter.leavesOn (t : RawFilter) (column : Json) : List (Leaf Json Json) :=
  t.leaves.filter fun l => l.column.same column

end BoardQuery
