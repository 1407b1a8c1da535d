import BoardQuery.Value.Rules

/-!
# Canonical values

The one gate through which values reach a column. A value that passes the rules of the column's
type is brought into canonical form: trimmed text, a finite number, the text of a day or a second,
a choice, user ids or labels without blanks and repetitions, a truth value. No value is null.
-/

namespace BoardQuery

/-- The canonical form of a raw value that has passed the rules of a type. -/
def canonicalForm (env : Surroundings) (t : ColumnType) (o : Options) (v : Json) :
    Except Fault Json :=
  match t with
  | .text | .longText | .url | .email | .phone =>
    .ok (match v with
      | .str s => .str (Text.trim s)
      | _ => .null)
  | .number | .currency | .percentage => do
    return match ← v.toNumber? with
      | some x => .num x
      | none => .null
  | .date => do
    return match ← v.toMoment? env.now with
      | some m => .str m.date.text
      | none => .null
  | .datetime => do
    return match ← v.toMoment? env.now with
      | some m => .str m.secondText
      | none => .null
  | .status | .priority => .ok v
  | .assignee =>
    .ok (if Options.flag o "multiple" then .ofStrings (trimmedDistinct ((listed? v).getD []))
      else match v with
        | .str s => .str (Text.trim s)
        | _ => .null)
  | .labels => .ok (.ofStrings (trimmedDistinct ((listed? v).getD [])))
  | .checkbox =>
    .ok (match v.toBool? with
      | some b => .bool b
      | none => .null)

/-- The user ids that a canonical assignee value holds. -/
def userIds (v : Json) : List String :=
  (listed? v).getD []

/-- No value, unless the column requires one. -/
def absent (required : Bool) : Except Rejection Json :=
  if required then .error (.problems [.required]) else .ok .null

/-- The canonical form of a raw value for a column of a type with the options it states. -/
def validate (env : Surroundings) (t : ColumnType) (stated : Options) (v : Json) :
    Except Rejection Json := do
  let o := t.effectiveOptions stated
  let required := Options.flag o "required"
  if v.isBlank then absent required
  else
    match ← (problems env t o v).mapError .fault with
    | [] =>
      let value ← (canonicalForm env t o v).mapError .fault
      if value.isBlank then absent required
      else
        let strangers :=
          match t, env.userExists with
          | .assignee, some userExists => (userIds value).filter (!userExists ·)
          | _, _ => []
        if strangers.isEmpty then .ok value
        else .error (.problems (strangers.map .unknownUser))
    | ps => .error (.problems ps)

end BoardQuery
