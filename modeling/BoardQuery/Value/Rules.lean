import BoardQuery.Column.Options
import BoardQuery.Text.WebAddress
import BoardQuery.Value.Problem

/-!
# Rules of the column types

What a raw value must satisfy before it is brought into canonical form. The first rule of every
type asks for the shape of the value, and the others are only asked of values of that shape.
-/

namespace BoardQuery

/-- What the world outside a value decides: the present moment, and which users exist. Without a
list of users every id counts as a user. -/
structure Surroundings where
  now : Moment
  userExists : Option (String → Bool)

/-- Whether a count is at most a limit. A limit must be a number. -/
def countWithin (n : Nat) (limit : Json) : Except Fault Bool :=
  match limit with
  | .num x => .ok (x.units?.any fun u => decide (Binary64.unitsOfInt n ≤ u))
  | v =>
    match v.units? with
    | some u => .ok (Binary64.unitsOfInt n ≤ u)
    | none => .error .wrongShape

/-- Whether a count is above a limit. A limit must be a number. -/
def countExceeds (n : Nat) (limit : Json) : Except Fault Bool :=
  match limit with
  | .num x => .ok (x.units?.any fun u => decide (u < Binary64.unitsOfInt n))
  | v =>
    match v.units? with
    | some u => .ok (u < Binary64.unitsOfInt n)
    | none => .error .wrongShape

/-- An address of e-mail: no blanks, one `@`, and a point inside what follows it. -/
def isEmail (cs : List Char) : Bool :=
  match WebAddress.splitAt '@' cs with
  | (user, some host) =>
    !user.isEmpty && cs.all (!Text.isBlank ·) && !host.contains '@' &&
      ((host.drop 1).dropLast).contains '.'
  | (_, none) => false

/-- A telephone number: digits, blanks, dashes and parentheses after an optional plus. -/
def isPhone (cs : List Char) : Bool :=
  let rest := if cs.head? == some '+' then cs.drop 1 else cs
  !rest.isEmpty && rest.all fun c =>
    Text.isDecimalDigit c || Text.isBlank c || c == '-' || c == '(' || c == ')'

/-- The problem, unless the condition holds. -/
def unless' (holds : Bool) (problem : ValueProblem) : List ValueProblem :=
  if holds then [] else [problem]

/-- The length of a text without the blanks around it against a limit. -/
def lengthProblems (s : String) (limit : Json) : Except Fault (List ValueProblem) := do
  return unless' (← countWithin (Text.trim s).length limit) (.tooLong limit)

/-- A number against the bounds that options state. -/
def boundProblems (o : Options) (x : Binary64) : Except Fault (List ValueProblem) := do
  let low := Fields.get o "min"
  let high := Fields.get o "max"
  let below ← if low.isNull then pure [] else do
    pure (unless' ((← low.toBound).le x) (.belowMinimum low))
  let above ← if high.isNull then pure [] else do
    pure (unless' (x.le (← high.toBound)) (.aboveMaximum high))
  return below ++ above

/-- The texts that a value of a list type holds; one text stands for a list of one. -/
def listed? : Json → Option (List String)
  | .str s => some [s]
  | v => v.strings?

/-- What is wrong with a raw value for a column of a type with these options. -/
def problems (env : Surroundings) (t : ColumnType) (o : Options) (v : Json) :
    Except Fault (List ValueProblem) :=
  match t with
  | .text =>
    match v with
    | .str s => lengthProblems s ((Fields.get o "max_length").orElse (.int 255))
    | _ => .ok [.notText]
  | .longText =>
    match v with
    | .str s => lengthProblems s ((Fields.get o "max_length").orElse (.int 5000))
    | _ => .ok [.notText]
  | .number | .percentage => do
    match ← v.toNumber? with
    | some x => boundProblems o x
    | none => return [.notNumber]
  | .currency => do
    match ← v.toNumber? with
    | some x =>
      return unless' (Binary64.zero.le x) (.belowMinimum (.int 0)) ++ (← boundProblems o x)
    | none => return [.notNumber]
  | .date | .datetime => do
    return unless' (← v.toMoment? env.now).isSome .notDate
  | .status | .priority => do
    let choices ← Options.choices o
    return unless' (v.str?.any choices.contains) (.notChoice v choices)
  | .assignee =>
    let multiple := Options.flag o "multiple"
    .ok (unless' (v.str?.isSome || (multiple && v.strings?.isSome))
      (if multiple then .notUsers else .notUser))
  | .labels =>
    match listed? v with
    | none => .ok [.notLabels]
    | some items => do
      let limit := (Fields.get o "max_labels").orElse (.int 10)
      return unless' (!(← countExceeds (trimmedDistinct items).length limit)) (.tooManyLabels limit)
  | .checkbox => .ok (unless' v.toBool?.isSome .notTruthValue)
  | .url =>
    match v with
    | .str s => do
      let long ← lengthProblems s (.int 2048)
      match WebAddress.isWebAddress (Text.trimChars s.toList) with
      | .ok valid => return long ++ unless' valid .notWebAddress
      | .error why => .error (.unreadable (.address why))
    | _ => .ok [.notText]
  | .email =>
    match v with
    | .str s => do
      return (← lengthProblems s (.int 255)) ++
        unless' (isEmail (Text.trimChars s.toList)) .notEmail
    | _ => .ok [.notText]
  | .phone =>
    match v with
    | .str s => do
      return (← lengthProblems s (.int 50)) ++
        unless' (isPhone (Text.trimChars s.toList)) .notPhone
    | _ => .ok [.notText]

end BoardQuery
