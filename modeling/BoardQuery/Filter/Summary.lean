import BoardQuery.Filter.Tree
import BoardQuery.Text.Blank

/-!
# Filters in words

A line that says what a filter asks for, and warnings about filters that are probably not meant.
-/

namespace BoardQuery

/-- An operand in words. -/
def operandWords : Json → String
  | .null => ""
  | .arr items => joinWith ", " (items.map Json.display)
  | .bool b => if b then "true" else "false"
  | .num x =>
    if x.isIntegral then String.ofList (intText (x.truncate?.getD 0)) else (Json.num x).display
  | v => v.display

/-- A condition in words. -/
def RawFilter.leafSummary (l : Leaf Json Json) : String :=
  Text.trim (l.column.display ++ " " ++ l.operator.name ++ " " ++ operandWords l.operand)

mutual

/-- A filter in words; a group below the top stands in parentheses. -/
def RawFilter.summaryAt (top : Bool) : RawFilter → String
  | .leaf l => RawFilter.leafSummary l
  | .group logic members =>
    let joined := joinWith (" " ++ logic.name ++ " ") (RawFilter.memberSummaries members)
    if top then joined else "(" ++ joined ++ ")"

def RawFilter.memberSummaries : List RawFilter → List String
  | [] => []
  | m :: rest => RawFilter.summaryAt false m :: RawFilter.memberSummaries rest

end

def RawFilter.summary (t : RawFilter) : String :=
  RawFilter.summaryAt true t

/-- What is doubtful about a filter. -/
structure Diagnostics where
  warnings : List String
  conflicts : List String

def Diagnostics.toJson (d : Diagnostics) : Json :=
  .obj [("warnings", .ofStrings d.warnings), ("conflicts", .ofStrings d.conflicts),
    ("is_valid", .bool d.conflicts.isEmpty)]

/-- Two conditions on status or on priority may contradict each other, and more text conditions
than a threshold may be slow. -/
def RawFilter.diagnostics (t : RawFilter) (threshold : Int) : Diagnostics :=
  let doubled := ["status", "priority"].filter fun c => 1 < (t.leavesOn (.str c)).length
  { conflicts := doubled.map fun c =>
      "Multiple " ++ c ++ " filters detected - they may conflict with each other"
    warnings :=
      if threshold < (t.leavesOfTypes [.text, .longText]).length then
        ["Multiple text filters may impact performance"]
      else [] }

end BoardQuery
