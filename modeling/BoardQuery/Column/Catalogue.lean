import BoardQuery.Column.Options

/-!
# The catalogue of column types

What clients are told about each type: its label, family, default width and options, operators and
the schema of its values. A table keyed by types must have a row for each of them and no other.
-/

namespace BoardQuery.ColumnType

def label : ColumnType → String
  | .text => "Text"
  | .longText => "Long Text"
  | .number => "Number"
  | .currency => "Currency"
  | .percentage => "Percentage"
  | .date => "Date"
  | .datetime => "Date & Time"
  | .status => "Status"
  | .priority => "Priority"
  | .assignee => "Assignee"
  | .labels => "Labels"
  | .checkbox => "Checkbox"
  | .url => "URL"
  | .email => "Email"
  | .phone => "Phone"

/-- The width in which a new column of the type is shown. -/
def defaultWidth : ColumnType → Nat
  | .text | .url => 200
  | .longText => 250
  | .number | .currency | .date | .status | .priority => 120
  | .percentage => 100
  | .datetime | .assignee => 150
  | .labels | .email => 180
  | .checkbox => 80
  | .phone => 140

/-- Whether a column of the type can hold several values. -/
def supportsMultiple (t : ColumnType) : Bool :=
  t == .assignee || t == .labels

/-- The schema of lists of texts. -/
def textListSchema : Fields :=
  [("type", .str "array"), ("items", .obj [("type", .str "string")])]

/-- The schema of the values of a type, without what options add. -/
def ownSchema : ColumnType → Fields
  | .text => [("type", .str "string"), ("maxLength", .int 255)]
  | .longText => [("type", .str "string"), ("maxLength", .int 5000)]
  | .number => [("type", .str "number")]
  | .currency => [("type", .str "number"), ("minimum", .int 0)]
  | .percentage => [("type", .str "number"), ("minimum", .int 0), ("maximum", .int 100)]
  | .date => [("type", .str "string"), ("format", .str "date")]
  | .datetime => [("type", .str "string"), ("format", .str "date-time")]
  | .labels => textListSchema
  | .checkbox => [("type", .str "boolean")]
  | .url => [("type", .str "string"), ("format", .str "uri")]
  | .email => [("type", .str "string"), ("format", .str "email")]
  | .status | .priority | .assignee | .phone => [("type", .str "string")]

/-- The schema of the values of a column: an enumerated type lists its choices, and several
assignees are a list. -/
def valueSchema (t : ColumnType) (stated : Options) : Except Fault Json := do
  if t.family == .enumerated then
    let choices ← (t.effectiveOptions stated).choices
    return .obj (t.ownSchema ++ [("enum", .ofStrings choices)])
  else if t == .assignee && Options.flag stated "multiple" then return .obj textListSchema
  else return .obj t.ownSchema

def operatorNames (t : ColumnType) : Json :=
  .ofStrings (t.operators.map (·.name))

/-- The catalogue entry of a type. -/
def describe (t : ColumnType) : Except Fault Json := do
  return .obj [("type", .str t.name), ("label", .str t.label), ("family", .str t.family.name),
    ("default_width", .int t.defaultWidth), ("default_options", .obj t.defaultOptions),
    ("operators", t.operatorNames), ("json_schema", ← t.valueSchema []),
    ("sortable", .bool t.sortable), ("supports_multiple", .bool t.supportsMultiple)]

def catalogue : Except Fault Json := do
  return .arr (← every.mapM describe)

/-- Names in the order of their code points. -/
def sortedNames (names : List String) : List String :=
  names.mergeSort (fun a b => !(b < a))

/-- What a table keyed by type names has too little or too much, as a message; none if it has a row
for each type and no other. -/
def tableProblem? (table : String) (keys : List String) : Option String :=
  let missing := (every.map (·.name)).filter (!keys.contains ·)
  let unexpected := (distinct keys).filter fun k => (ofName? k).isNone
  if missing.isEmpty && unexpected.isEmpty then none
  else
    some (table ++ " is out of sync with ColumnType (missing: " ++
      (Json.ofStrings (sortedNames missing)).quoted ++ ", unexpected: " ++
      (Json.ofStrings (sortedNames unexpected)).quoted ++ ")")

end BoardQuery.ColumnType
