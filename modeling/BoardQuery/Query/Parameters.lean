import BoardQuery.Json.Reader
import BoardQuery.Query.Validated
import BoardQuery.Value.Coercion

/-!
# Parameters of a query

What a request for tasks may state: a filter from one of three sources, a page, an order, and what
else to tell about each task. Every parameter is checked by itself, and all problems are reported.
-/

namespace BoardQuery

/-- What can be told about a task beside its attributes. -/
inductive Inclusion where
  | labels
  | customValues
  | assignee
  | creator
  | board
  | workspace
  | comments
  deriving DecidableEq, Repr

namespace Inclusion

def every : List Inclusion :=
  [.labels, .customValues, .assignee, .creator, .board, .workspace, .comments]

def name : Inclusion → String
  | .labels => "labels"
  | .customValues => "custom_values"
  | .assignee => "assignee"
  | .creator => "creator"
  | .board => "board"
  | .workspace => "workspace"
  | .comments => "comments"

def ofJson? (v : Json) : Option Inclusion :=
  v.str?.bind fun s => every.find? (·.name == s)

end Inclusion

/-- What is wrong with a parameter. -/
inductive ParameterProblem where
  | twoFilters
  | savedAndFilters
  | filtersTextNotText
  | filtersTextTooLong (limit : Int)
  | filtersTextMalformed
  | filtersNotArray
  | savedFilterNotText
  | notInteger
  | belowOne
  | outsideRange (most : Int)
  | cursorNotText
  | sortByTooLong
  | sortOrder
  | includeNotList
  | unknownInclude (v : Json)
  | notTruthValue
  | filterNameTooLong
  | filterNameMissing

/-- The most characters of a sort column and of a filter name. -/
def maxParameterText : Nat := 255

def ParameterProblem.message (name : String) : ParameterProblem → String
  | .twoFilters => "Cannot provide both filters array and filters JSON"
  | .savedAndFilters => "Cannot combine a saved filter with filters or filters JSON"
  | .filtersTextNotText => "The filters json must be a string."
  | .filtersTextTooLong limit =>
    "The filters json may not be greater than " ++ toString limit ++ " characters."
  | .filtersTextMalformed => "The filters json must be a valid JSON string."
  | .filtersNotArray => "The filters field must be an array."
  | .savedFilterNotText => "The saved filter id must be a string."
  | .notInteger => "The " ++ name ++ " must be an integer."
  | .belowOne => "The " ++ name ++ " must be at least 1."
  | .outsideRange most => "The " ++ name ++ " must be between 1 and " ++ toString most ++ "."
  | .cursorNotText => "The cursor must be a string."
  | .sortByTooLong =>
    "The sort by may not be greater than " ++ toString maxParameterText ++ " characters."
  | .sortOrder => "The selected sort order is invalid."
  | .includeNotList => "The include field must be a list."
  | .unknownInclude v =>
    "Unknown include '" ++ v.display ++ "'. Must be one of: " ++
      joinWith ", " (Inclusion.every.map (·.name))
  | .notTruthValue => "The " ++ name ++ " field must be true or false."
  | .filterNameTooLong =>
    "The filter name may not be greater than " ++ toString maxParameterText ++ " characters."
  | .filterNameMissing => "The filter name field is required when save filter is true."

/-- The problems of one parameter. -/
structure ParameterError where
  name : String
  problems : List ParameterProblem

def ParameterError.messages (e : ParameterError) : List String :=
  e.problems.map (·.message e.name)

abbrev Checked := Validated ParameterError

/-- A request for tasks. -/
structure TaskQuery where
  /-- The filter as it was stated; null states none. -/
  filters : Json
  savedFilterId : Option String
  perPage : Option Int
  page : Int
  cursor : Option String
  sortBy : Option String
  descending : Bool
  inclusions : List Inclusion
  includeArchived : Bool
  saveFilter : Bool
  filterName : Option String
  isPublic : Bool

namespace TaskQuery

/-- The bounds that parameters are checked against. -/
structure Limits where
  /-- The most characters of a filter stated as text. -/
  filtersText : Int
  /-- The most tasks on a page. -/
  perPage : Int

def reject {α : Type} (name : String) (p : ParameterProblem) : Checked α :=
  .invalid [⟨name, [p]⟩]

/-- A document stated as text. An integer that is too long is a fault, and not a problem. -/
def readText (name : String) (p : ParameterProblem) (s : String) : Except Fault (Checked Json) :=
  match Json.read s with
  | .ok v => .ok (.valid v)
  | .error .malformed => .ok (reject name p)
  | .error (.integerTooLong digits) => .error (.unreadable (.integerTooLong digits))

/-- The saved filter that a request names; what is falsy names none. -/
def statedFilterId (params : Fields) : Json :=
  (Fields.get params "saved_filter_id").orElse .null

/-- The filter that a request states, as an array or as text. -/
def readFilters (l : Limits) (params : Fields) : Except Fault (Checked Json) :=
  let filters := Fields.get params "filters"
  let text := Fields.get params "filters_json"
  if !filters.isNull && !text.isNull then .ok (reject "filters" .twoFilters)
  else if !(statedFilterId params).isNull then .ok (.valid filters)
  else
    match text, filters with
    | .null, .str s => readText "filters" .filtersNotArray s
    | .null, _ => .ok (.valid filters)
    | .str s, _ =>
      if l.filtersText < s.length then
        .ok (reject "filters_json" (.filtersTextTooLong l.filtersText))
      else readText "filters_json" .filtersTextMalformed s
    | _, _ => .ok (reject "filters_json" .filtersTextNotText)

/-- The saved filter, which goes with no other filter. -/
def readFilterId (params : Fields) : Checked (Option String) :=
  let filters := Fields.get params "filters"
  let text := Fields.get params "filters_json"
  match statedFilterId params with
  | .null => .valid none
  | .str s =>
    if filters.isNull != text.isNull then reject "saved_filter_id" .savedAndFilters
    else .valid (some s)
  | _ => reject "saved_filter_id" .savedFilterNotText

/-- Whether a parameter is left out. -/
def isLeftOut (v : Json) : Bool :=
  v.isNull || v.str? == some ""

/-- An integer from one on, up to `most`. -/
def readCount (params : Fields) (name : String) (most : Option Int) :
    Except Fault (Checked (Option Int)) :=
  let v := Fields.get params name
  let check (n : Int) : Checked (Option Int) :=
    match most with
    | some m => if 1 ≤ n && n ≤ m then .valid (some n) else reject name (.outsideRange m)
    | none => if 1 ≤ n then .valid (some n) else reject name .belowOne
  if isLeftOut v then .ok (.valid none)
  else
    match v, v.toInteger with
    | .bool _, _ => .ok (reject name .notInteger)
    | _, .ok n => .ok (check n)
    | _, .error (.unreadable _) => .ok (reject name .notInteger)
    | _, .error .wrongShape => .ok (reject name .notInteger)
    | _, .error f => .error f

/-- A truth value; one left out is false. -/
def readFlag (params : Fields) (name : String) : Checked Bool :=
  let v := Fields.get params name
  if isLeftOut v then .valid false
  else
    match v.toBool? with
    | some b => .valid b
    | none => reject name .notTruthValue

/-- A text that a test accepts; what is falsy counts as left out. -/
def readName (params : Fields) (name : String) (accepts : String → Bool) (p : ParameterProblem) :
    Checked (Option String) :=
  match (Fields.get params name).orElse .null with
  | .null => .valid none
  | .str s => if accepts s then .valid (some s) else reject name p
  | _ => reject name p

/-- Whether the order descends. -/
def readDirection (params : Fields) : Checked Bool :=
  match ((Fields.get params "sort_order").orElse (.str "asc")).str?.map fun s =>
      String.ofList (s.toList.map Char.toLower) with
  | some "asc" => .valid false
  | some "desc" => .valid true
  | _ => reject "sort_order" .sortOrder

/-- The parts of a text between commas, without the blanks around them and without empty ones. -/
def commaParts (s : String) : List String :=
  ((s.toList.splitOn ',').map fun part => Text.trim (String.ofList part)).filter (· != "")

/-- What to tell about each task, from a list or from a text with commas. -/
def readInclusions (params : Fields) : Checked (List Inclusion) :=
  let stated := Fields.get params "include"
  let stated := if stated.isNull then Fields.get params "include[]" else stated
  let check (items : List Json) : Checked (List Inclusion) :=
    match items.filter fun v => (Inclusion.ofJson? v).isNone with
    | [] => .valid (distinct (items.filterMap Inclusion.ofJson?))
    | unknown => .invalid [⟨"include", unknown.map .unknownInclude⟩]
  match stated with
  | .null => .valid []
  | .str s => check ((commaParts s).map .str)
  | .arr items => check items
  | _ => reject "include" .includeNotList

/-- The name under which to save the filter. One must be stated if the filter is to be saved. -/
def readFilterName (params : Fields) : Checked (Option String) :=
  let name := "filter_name"
  match readName params name (·.length ≤ maxParameterText) .filterNameTooLong,
      readFlag params "save_filter" with
  | .valid none, .valid true => reject name .filterNameMissing
  | v, _ => v

/-- The query that the parameters of a request state. -/
def ofParameters (l : Limits) (params : Fields) : Except Fault (Checked TaskQuery) := do
  let filters ← readFilters l params
  let perPage ← readCount params "per_page" (some l.perPage)
  let page ← readCount params "page" none
  return TaskQuery.mk <$> filters <*> readFilterId params <*> perPage <*>
    ((·.getD 1) <$> page) <*>
    readName params "cursor" (fun _ => true) .cursorNotText <*>
    readName params "sort_by" (·.length ≤ maxParameterText) .sortByTooLong <*>
    readDirection params <*> readInclusions params <*> readFlag params "include_archived" <*>
    readFlag params "save_filter" <*> readFilterName params <*> readFlag params "is_public"

end TaskQuery

end BoardQuery
