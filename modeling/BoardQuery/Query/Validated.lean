/-!
# Values with collected errors

Independent checks, each with a value or with errors. The errors of all of them are collected.
-/

namespace BoardQuery

/-- A value, or the errors that stand in its way. -/
inductive Validated (ε α : Type) where
  | valid (v : α)
  | invalid (errors : List ε)

namespace Validated

variable {ε α β : Type}

def errors : Validated ε α → List ε
  | valid _ => []
  | invalid es => es

instance : Applicative (Validated ε) where
  pure := valid
  seq f x :=
    match f, x () with
    | valid f, valid v => valid (f v)
    | f, x => invalid (f.errors ++ x.errors)

end Validated

end BoardQuery
