import BoardQuery.Board.Attribute
import BoardQuery.Filter.Issue
import BoardQuery.Value.Problem

/-!
# Refusals

Why the service does not do what it is asked for. Most reasons are told in one sentence; filters and
values are refused with all that is wrong with them.
-/

namespace BoardQuery

/-- A reason that is told in one sentence. -/
inductive Reason where
  | filterNameMissing
  | filterNameTooLong
  | filterNameTaken (name : String)
  | filterNotFound (id : String)
  | onlyOwnerChanges
  | onlyOwnerDeletes
  | emptyFilter
  | valuesMissing
  | columnRequired (name : String)
  | columnElsewhere (name : String)
  | unknownOperation (v : Json) (known : List String)
  | unknownStatus (v : Json)
  | unknownPriority (v : Json)
  | notMember (v : Json)
  | noDueDate (v : Json)
  | targetNotFound
  | alreadyThere
  | notLabelsColumn (v : Json)
  | noLabels
  | unknownColumn (v : Json)
  | noSelection
  | badTaskIds
  | tooManyTasks (limit : Int)

/-- The most characters of the name of a saved filter. -/
def maxFilterName : Nat := 255

def Reason.message : Reason → String
  | .filterNameMissing => "Filter name is required."
  | .filterNameTooLong =>
    "Filter name may not be greater than " ++ toString maxFilterName ++ " characters."
  | .filterNameTaken name => "A saved filter named '" ++ name ++ "' already exists."
  | .filterNotFound id => "Saved filter " ++ id ++ " not found."
  | .onlyOwnerChanges => "Only the owner can change this filter."
  | .onlyOwnerDeletes => "Only the owner can delete this filter."
  | .emptyFilter => "Cannot save an empty filter."
  | .valuesMissing => "values must be a non-empty object."
  | .columnRequired name => "'" ++ name ++ "' is required and can't be cleared."
  | .columnElsewhere name => "Column '" ++ name ++ "' does not belong to this board."
  | .unknownOperation v known =>
    "Invalid operation '" ++ v.display ++ "'. Must be one of: " ++ joinWith ", " known
  | .unknownStatus v =>
    "Invalid status '" ++ v.display ++ "'. Must be one of: " ++ joinWith ", " taskStatuses
  | .unknownPriority v =>
    "Invalid priority '" ++ v.display ++ "'. Must be one of: " ++ joinWith ", " taskPriorities
  | .notMember v => "User " ++ v.display ++ " is not a member of this workspace."
  | .noDueDate v => "Invalid due date '" ++ v.display ++ "'."
  | .targetNotFound => "Target board not found."
  | .alreadyThere => "Tasks are already on this board."
  | .notLabelsColumn v => "'" ++ v.display ++ "' is not a labels column."
  | .noLabels => "At least one label is required."
  | .unknownColumn v => "Unknown column '" ++ v.display ++ "'."
  | .noSelection => "Provide either task_ids or filters."
  | .badTaskIds => "task_ids must be a list of task ids."
  | .tooManyTasks limit => "Bulk operations are limited to " ++ toString limit ++ " tasks."

/-- What is wrong with a key of a set of values: no column has the name, or the column rejects the
value. -/
inductive KeyProblem where
  | unknownColumn
  | rejected (problems : List ValueProblem)

def KeyProblem.messages : KeyProblem → List String
  | .unknownColumn => ["Unknown column."]
  | .rejected problems => problems.map (·.message)

/-- Why a request is not carried out. -/
inductive Refusal where
  | reason (r : Reason)
  | filter (issues : List Issue)
  /-- A value is rejected, at a path. -/
  | value (path : String) (problems : List ValueProblem)
  /-- Some of a set of values are rejected. -/
  | values (keys : List (String × KeyProblem))
  | fault (f : Fault)

namespace Refusal

/-- The sentence that tells a refusal, if there is one. Filters and sets of values are refused with
lists of problems instead. -/
def text? : Refusal → Option String
  | .reason r => some r.message
  | .value path problems => some (problemsText path problems)
  | .fault (.unreadable why) => some why.message
  | _ => none

def ofFilterError : FilterError → Refusal
  | .issues list => .filter list
  | .fault f => .fault f

def ofRejection (path : String) : Rejection → Refusal
  | .problems list => .value path list
  | .fault f => .fault f

end Refusal

/-- The outcome of something that may be refused. -/
abbrev Outcome := Except Refusal

/-- Refuses for a reason. -/
def refuse {α : Type} (r : Reason) : Outcome α :=
  .error (.reason r)

/-- A fault as a refusal. -/
def orFault {α : Type} (r : Except Fault α) : Outcome α :=
  r.mapError .fault

end BoardQuery
