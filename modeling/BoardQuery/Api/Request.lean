import BoardQuery.Fault
import BoardQuery.Json.Bytes
import BoardQuery.Text.Blank
import BoardQuery.Text.PercentCoding

/-!
# Requests

A request as it arrives: a method, a path, parameters, and perhaps a body that is a document. How
often its sender has asked is counted outside of the store, so it comes with the request whether it
is one too many.
-/

namespace BoardQuery

/-- The body of a request. -/
inductive RequestBody where
  | absent
  | document (v : Json)
  | text (contentType content : String)

structure Request where
  method : String
  path : String
  /-- The header by which the sender is authenticated. -/
  authorization : Option String
  query : List (String × String)
  body : RequestBody
  /-- Whether the limiter, if it is asked, holds the request back. -/
  limited : Bool := false

/-- Whether a content type says that a body is a document. -/
def statesDocument (contentType : String) : Bool :=
  let mediaType := (contentType.toList.takeWhile (· != ';')).map Char.toLower
  let mediaType := Text.trimChars mediaType
  mediaType == "application/json".toList ||
    ("application/".toList.isPrefixOf mediaType && "+json".toList.isSuffixOf mediaType)

namespace Request

/-- The document that the body is. A body that cannot be read counts as none. -/
def document? (r : Request) : Option Json :=
  match r.body with
  | .absent => none
  | .document v => some v
  | .text contentType content =>
    if statesDocument contentType then (Json.readBytes content.toUTF8.toList).toOption else none

/-- The document of the body, or an empty object for one that is falsy. -/
def data (r : Request) : Json :=
  (r.document?.getD .null).orElse (.obj [])

/-- A field of the document; only objects have fields. -/
def field (r : Request) (name : String) : Except Fault Json :=
  match r.data with
  | .obj fields => .ok (Fields.get fields name)
  | _ => .error .noFields

/-- The values that the query gives a name. -/
def queryValues (r : Request) (name : String) : List String :=
  (r.query.filter (·.1 == name)).map (·.2)

/-- The query as fields. The first value of a name counts, but for what to include, where every
value does. -/
def queryFields (r : Request) : Fields :=
  let first := r.query.foldl (fun (acc : Fields) p =>
    if Fields.has acc p.1 then acc else acc ++ [(p.1, .str p.2)]) []
  let bracketed := r.queryValues "include[]"
  let inclusions := if bracketed.isEmpty then r.queryValues "include" else bracketed
  if inclusions.isEmpty then first
  else Fields.erase (Fields.insert first "include" (.ofStrings inclusions)) "include[]"

/-- The parameters of a request: those of the query, overlaid with the fields of the body. -/
def parameters (r : Request) : Fields :=
  match r.method, r.document? with
  | "GET", _ => r.queryFields
  | _, some (.obj fields) => Fields.overlay r.queryFields fields
  | _, _ => r.queryFields

/-- The token by which the sender is authenticated. -/
def token? (r : Request) : Option String := do
  let header ← r.authorization
  let scheme := "Bearer "
  if header.startsWith scheme then
    let token := Text.trim (String.ofList (header.toList.drop scheme.length))
    if token == "" then none else some token
  else none

/-- Whether a request is held back on a route that the limiter is asked for. Which methods a route
takes is told to everybody. -/
def heldBack (r : Request) : Bool :=
  r.limited && r.method != "OPTIONS"

/-- The path after its first slashes. -/
def relativePath (r : Request) : List Char :=
  (PercentCoding.decode r.path).toList.dropWhile (· == '/')

/-- The parts of the path. -/
def segments (r : Request) : List String :=
  (r.relativePath.splitOn '/').map String.ofList

/-- Characters with one slash in the place of each two that follow one another. -/
def mergeSlashes : List Char → List Char
  | '/' :: '/' :: rest => '/' :: mergeSlashes rest
  | c :: rest => c :: mergeSlashes rest
  | [] => []

/-- The parts of the path that the sender of a path with double slashes is sent to. -/
def mergedSegments (r : Request) : List String :=
  ((mergeSlashes r.relativePath).splitOn '/').map String.ofList

end Request

end BoardQuery
