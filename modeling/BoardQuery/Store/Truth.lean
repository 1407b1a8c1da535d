/-!
# Truth with a third value

A test on something that has no value is neither passed nor failed. Conditions select only what
passes them.
-/

namespace BoardQuery

/-- The outcome of a test. -/
inductive Truth where
  | no
  | unknown
  | yes
  deriving DecidableEq, Repr

namespace Truth

def ofBool (b : Bool) : Truth := if b then yes else no

def isYes : Truth → Bool
  | yes => true
  | _ => false

def not : Truth → Truth
  | no => yes
  | unknown => unknown
  | yes => no

/-- The lesser of two outcomes. -/
def and : Truth → Truth → Truth
  | no, _ => no
  | _, no => no
  | yes, b => b
  | a, yes => a
  | unknown, unknown => unknown

/-- The greater of two outcomes. -/
def or : Truth → Truth → Truth
  | yes, _ => yes
  | _, yes => yes
  | no, b => b
  | a, no => a
  | unknown, unknown => unknown

@[simp]
theorem isYes_ofBool (b : Bool) : (ofBool b).isYes = b := by
  cases b <;> rfl

@[simp]
theorem isYes_and (a b : Truth) : (a.and b).isYes = (a.isYes && b.isYes) := by
  cases a <;> cases b <;> rfl

@[simp]
theorem isYes_or (a b : Truth) : (a.or b).isYes = (a.isYes || b.isYes) := by
  cases a <;> cases b <;> rfl

@[simp]
theorem not_not (a : Truth) : a.not.not = a := by
  cases a <;> rfl

end Truth

end BoardQuery
