import BoardQuery.Column.Options
import BoardQuery.Value.Rules

/-!
# Operands

What a condition compares a column with. Each family of types reads operands in its own way and
brings them into one form; what cannot be read is reported as problems, each at the operand or at
one of its items.
-/

namespace BoardQuery

/-- The canonical operand of a condition. -/
inductive Operand where
  /-- The operand of the operators that take none. -/
  | absent
  | text (s : String)
  | number (x : Binary64)
  | day (d : Date)
  | second (m : Moment)
  | several (items : List String)
  | checked (b : Bool)
  deriving DecidableEq

/-- The operand as a document writes it. -/
def Operand.toJson : Operand → Json
  | .absent => .null
  | .text s => .str s
  | .number x => .num x
  | .day d => .str d.text
  | .second m => .str m.secondText
  | .several items => .ofStrings items
  | .checked b => .bool b

/-- Why an operand cannot be compared with a column. -/
inductive OperandProblem where
  | notText
  | textTooLong
  | textEmpty
  | notNumber
  | belowMinimum (bound : Json)
  | aboveMaximum (bound : Json)
  | notDate
  | dateOutside
  | tooManyChoices (limit : Nat)
  | notChoice (value : Json) (choices : List String)
  | tooManyUsers
  | notUser
  | unknownUser (id : String)
  | notLabels
  | noLabels
  | notTruthValue

/-- The most characters of a text that is compared as a whole. -/
def maxEqualText : Nat := 255

/-- The most users in a list operand. -/
def maxUsers : Nat := 50

/-- The most choices in a list operand. -/
def maxChoices (t : ColumnType) : Nat :=
  if t == .priority then 10 else 20

def OperandProblem.message : OperandProblem → String
  | .notText => "Value must be a string"
  | .textTooLong => "Value may not be greater than " ++ toString maxEqualText ++ " characters"
  | .textEmpty => "Value may not be empty"
  | .notNumber => "Value must be numeric"
  | .belowMinimum bound => "Value must be at least " ++ bound.display
  | .aboveMaximum bound => "Value must be at most " ++ bound.display
  | .notDate => "Value is not a valid date"
  | .dateOutside => "Date must be between 1900-01-01 and 2100-12-31"
  | .tooManyChoices limit => "No more than " ++ toString limit ++ " values are allowed"
  | .notChoice value choices =>
    "Invalid value '" ++ value.display ++ "'. Must be one of: " ++ joinWith ", " choices
  | .tooManyUsers => "No more than " ++ toString maxUsers ++ " users are allowed"
  | .notUser => "Value must be a user id"
  | .unknownUser id => "User '" ++ id ++ "' does not exist"
  | .notLabels => "Value must be a label or a list of labels"
  | .noLabels => "Value may not be empty"
  | .notTruthValue => "Value must be true or false"

/-- A problem of an operand, at the item with this index or at the operand as a whole. -/
structure Complaint where
  item : Option Nat
  problem : OperandProblem

/-- Where a complaint points below the path of the operand. -/
def Complaint.suffix (c : Complaint) : String :=
  match c.item with
  | some i => "." ++ toString i
  | none => ""

/-- Why there is no operand: it is complained about, or its rules fail on it. -/
inductive OperandError where
  | complaints (list : List Complaint)
  | fault (f : Fault)

abbrev OperandResult := Except OperandError Operand

def complain (p : OperandProblem) : OperandResult :=
  .error (.complaints [⟨none, p⟩])

/-- Complaints about the items of a list that a test refuses. -/
def itemComplaints (items : List Json) (refuse : Json → Option OperandProblem) : List Complaint :=
  items.zipIdx.filterMap fun p => (refuse p.1).map fun problem => ⟨some p.2, problem⟩

def textOperand (op : Operator) : Json → OperandResult
  | .str s =>
    if op == .equals || op == .notEquals then
      let s := Text.trim s
      if maxEqualText < s.length then complain .textTooLong else .ok (.text s)
    else if s == "" then complain .textEmpty
    else .ok (.text s)
  | _ => complain .notText

/-- Whether a bound is stated and `outside` holds of it. -/
def boundBroken (bound : Json) (outside : Binary64 → Bool) : Except Fault Bool :=
  if bound.isNull then .ok false else bound.toBound.map outside

def numberOperand (o : Options) (v : Json) : OperandResult := do
  match ← v.toNumber?.mapError .fault with
  | none => complain .notNumber
  | some x =>
    let low := Fields.get o "min"
    let high := Fields.get o "max"
    if ← (boundBroken low x.lt).mapError .fault then complain (.belowMinimum low)
    else if ← (boundBroken high (·.lt x)).mapError .fault then complain (.aboveMaximum high)
    else return .number x

/-- The bounds of the dates that filters compare with. -/
def dateWithinBounds (m : Moment) : Bool :=
  1900 ≤ m.date.year &&
    (m.date.year ≤ 2099 || (m.date.year == 2100 &&
      (m.date.month < 12 || m.date.day < 31 || m.micros ≤ 86399 * microsPerSecond)))

def dateOperand (now : Moment) (t : ColumnType) (v : Json) : OperandResult := do
  match ← (v.toMoment? now).mapError .fault with
  | none => complain .notDate
  | some m =>
    if !dateWithinBounds m then complain .dateOutside
    else if t == .date then return .day m.date
    else return .second m.wholeSecond

def choiceOperand (t : ColumnType) (op : Operator) (o : Options) (v : Json) : OperandResult := do
  let choices ← (Options.choices o).mapError .fault
  let refuse (v : Json) : Option OperandProblem :=
    if v.str?.any choices.contains then none else some (.notChoice v choices)
  if op.takesList then
    let items ← v.elements.mapError .fault
    if maxChoices t < items.length then complain (.tooManyChoices (maxChoices t))
    else
      match itemComplaints items refuse with
      | [] => return .several (distinct (items.filterMap Json.str?))
      | list => .error (.complaints list)
  else
    match v, refuse v with
    | .str s, none => return .text s
    | _, some p => complain p
    | _, none => complain (.notChoice v choices)

/-- A user id without the blanks around it, unless nothing else is in it. -/
def userId? (v : Json) : Option String :=
  (v.str?.map Text.trim).filter (· != "")

def userOperand (userExists : Option (String → Bool)) (op : Operator) (v : Json) :
    OperandResult := do
  let known (id : String) : Bool := userExists.all (· id)
  if op.takesList then
    let items ← v.elements.mapError .fault
    if maxUsers < items.length then complain .tooManyUsers
    else
      match itemComplaints items fun v => if (userId? v).isSome then none else some .notUser with
      | [] =>
        let strange := itemComplaints items fun v =>
          ((userId? v).filter (!known ·)).map .unknownUser
        if strange.isEmpty then return .several (distinct (items.filterMap userId?))
        else .error (.complaints strange)
      | list => .error (.complaints list)
  else
    match userId? v with
    | none => complain .notUser
    | some id => if known id then return .text id else complain (.unknownUser id)

def labelsOperand (v : Json) : OperandResult :=
  match listed? v with
  | none => complain .notLabels
  | some items =>
    match trimmedDistinct items with
    | [] => complain .noLabels
    | labels => .ok (.several labels)

def truthOperand (v : Json) : OperandResult :=
  match v.toBool? with
  | some b => .ok (.checked b)
  | none => complain .notTruthValue

/-- The canonical operand of an operator that the type allows. -/
def readOperand (env : Surroundings) (t : ColumnType) (op : Operator) (o : Options) (v : Json) :
    OperandResult :=
  if op.testsEmptiness then .ok .absent
  else
    match t.family with
    | .text => textOperand op v
    | .numeric => numberOperand o v
    | .date => dateOperand env.now t v
    | .enumerated => choiceOperand t op o v
    | .assignee => userOperand env.userExists op v
    | .labels => labelsOperand v
    | .checkbox => truthOperand v

end BoardQuery
