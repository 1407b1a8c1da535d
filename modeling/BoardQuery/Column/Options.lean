import BoardQuery.Column.Type
import BoardQuery.Value.Coercion

/-!
# Column options

A column carries options, fields whose meaning its type gives. Those a column does not state are
taken from the defaults of the type.
-/

namespace BoardQuery

abbrev Options := Fields

/-- An entry of the list of choices of an enumerated type. -/
def choice (value label color : String) : Json :=
  .obj [("value", .str value), ("label", .str label), ("color", .str color)]

namespace ColumnType

/-- The options that a type comes with. -/
def ownDefaults : ColumnType → Options
  | .text => [("placeholder", .str ""), ("max_length", .int 255)]
  | .longText => [("placeholder", .str ""), ("max_length", .int 5000), ("rows", .int 3)]
  | .number => [("min", .null), ("max", .null), ("decimal_places", .int 0)]
  | .currency => [("currency_code", .str "USD"), ("symbol", .str "$"), ("decimal_places", .int 2),
      ("placeholder", .str "0.00")]
  | .percentage => [("min", .int 0), ("max", .int 100), ("decimal_places", .int 0),
      ("placeholder", .str "0%")]
  | .date => [("default_to_today", .bool false)]
  | .datetime => [("default_to_now", .bool false)]
  | .status => [("options", .arr [choice "todo" "To Do" "#6B7280",
      choice "in_progress" "In Progress" "#3B82F6", choice "done" "Done" "#10B981"])]
  | .priority => [("options", .arr [choice "low" "Low" "#6B7280",
      choice "medium" "Medium" "#F59E0B", choice "high" "High" "#EF4444",
      choice "urgent" "Urgent" "#DC2626"])]
  | .assignee => [("multiple", .bool false)]
  | .labels => [("multiple", .bool true), ("max_labels", .int 10)]
  | .checkbox => [("default_value", .bool false)]
  | .url => [("placeholder", .str "https://example.com")]
  | .email => [("placeholder", .str "email@example.com")]
  | .phone => [("placeholder", .str "+1 (555) 123-4567")]

/-- The options of a type when a column states none. Values are not required by default. -/
def defaultOptions (t : ColumnType) : Options :=
  t.ownDefaults ++ [("required", .bool false)]

/-- The defaults of a type overlaid with the options that a column states. -/
def effectiveOptions (t : ColumnType) (stated : Options) : Options :=
  t.defaultOptions.overlay stated

end ColumnType

namespace Options

/-- Whether the options hold something truthy under a name. -/
def flag (o : Options) (name : String) : Bool :=
  (Fields.get o name).truthy

/-- The choices of an enumerated column: the texts, and the text of every value that an entry
holds. -/
def choices (o : Options) : Except Fault (List String) := do
  let listed := (Fields.get o "options").orElse (.arr [])
  let entries ← listed.elements
  return entries.filterMap fun
    | .str s => some s
    | .obj fields =>
      let v := Fields.get fields "value"
      if v.isNull then none else some v.display
    | _ => none

end Options

end BoardQuery
