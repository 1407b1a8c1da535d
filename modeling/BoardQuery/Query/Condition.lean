import BoardQuery.Store.Basic

/-!
# Conditions

What a task must satisfy to be selected. A condition asks about an attribute of the task or about
the value that the task has in a column, by a test on one cell.
-/

namespace BoardQuery

/-- A test on a cell. -/
inductive CellTest where
  | always (b : Bool)
  | isNull
  | compare (c : Comparison) (v : Cell)
  | among (vs : List Cell)
  | like (p : TextPattern)
  | not (t : CellTest)
  | and (a b : CellTest)
  | or (a b : CellTest)

namespace CellTest

/-- A cell is among others if it equals one of them. -/
def amongTruth (c : Cell) (vs : List Cell) : Truth :=
  vs.foldr (fun v t => (Comparison.equal.test c v).or t) .no

def eval (c : Cell) : CellTest → Truth
  | always b => .ofBool b
  | isNull => .ofBool c.isNull
  | compare op v => op.test c v
  | among vs => amongTruth c vs
  | like p =>
    match c.likeChars? with
    | some cs => .ofBool (p.accepts cs)
    | none => .unknown
  | not t => (t.eval c).not
  | and a b => (a.eval c).and (b.eval c)
  | or a b => (a.eval c).or (b.eval c)

/-- Some of the tests. -/
def anyOf (ts : List CellTest) : CellTest :=
  ts.foldr or (always false)

/-- All of the tests. -/
def allOf (ts : List CellTest) : CellTest :=
  ts.foldr and (always true)

end CellTest

/-- A condition on a task. -/
inductive Condition where
  | always (b : Bool)
  /-- An attribute passes a test. -/
  | onAttribute (a : Attribute) (t : CellTest)
  /-- The task has a value in a column, and it passes a test. -/
  | onValue (columnId : String) (t : CellTest)
  | not (c : Condition)
  | and (a b : Condition)
  | or (a b : Condition)

namespace Condition

/-- The outcome for a task of a store. -/
def eval (s : Store) (t : Task) : Condition → Truth
  | always b => .ofBool b
  | onAttribute a test => test.eval (t.cell a)
  | onValue columnId test =>
    .ofBool (s.values.any fun v =>
      v.taskId == t.id && v.columnId == columnId && (test.eval (.ofStored v.value)).isYes)
  | not c => (c.eval s t).not
  | and a b => (a.eval s t).and (b.eval s t)
  | or a b => (a.eval s t).or (b.eval s t)

/-- Whether a task is selected: only by a condition that it passes. -/
def selects (c : Condition) (s : Store) (t : Task) : Bool :=
  (c.eval s t).isYes

def anyOf (cs : List Condition) : Condition :=
  cs.foldr or (always false)

def allOf (cs : List Condition) : Condition :=
  cs.foldr and (always true)

end Condition

end BoardQuery
