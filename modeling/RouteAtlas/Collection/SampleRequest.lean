import RouteAtlas.Api.Controller
import RouteAtlas.Document.Json
import RouteAtlas.Mock.Generator
import RouteAtlas.Routing.RouteTable
import RouteAtlas.Text.Quoted

/-!
# Sample requests

A request of a Postman collection: the route as a URL in parts, a body and a query filled with mock
values. `SampleRequest.ofRoute` draws the body before the query. Both are shown as texts, which an integer
of too many digits does not have.
-/

namespace RouteAtlas.Collection

open RouteAtlas.Api RouteAtlas.Document RouteAtlas.Mock RouteAtlas.Number RouteAtlas.Routing
open RouteAtlas.Text

/-- Why a request cannot be filled. -/
inductive SampleFault where
  | mock (fault : MockFault)
  /-- A query parameter with properties was given a value that has no fields. -/
  | noFields
  /-- A value to be shown holds an integer of too many digits. -/
  | longInteger
deriving Repr, DecidableEq, Inhabited

/-- A computation that fills requests. -/
abbrev Sampling := ExceptT SampleFault (StateM Source)

/-- A mock value inside a request. -/
def Sampling.mock {α : Type} (g : Gen α) : Sampling α := fun s =>
  let (result, s) := g.run.run s
  (result.mapError .mock, s)

/-- A query entry. -/
structure QueryEntry where
  key : String
  /-- The code points of its text, surrogates among them. -/
  value : List Nat
deriving Repr, DecidableEq, Inhabited

/-- A sample request. -/
structure SampleRequest where
  name : String
  verb : String
  /-- The segments of the path, parameters as `:name`. -/
  segments : List String
  /-- The names of the path parameters. -/
  placeholders : List String
  body : Option Value
  query : List QueryEntry
deriving Inhabited

/-! ## As documents write it -/

/-- JSON on one line with blanks, in ASCII. -/
def lineJson : JsonStyle := ⟨.spaced, true⟩

/-- JSON on indented lines, in ASCII. -/
def bodyJson : JsonStyle := ⟨.indented, true⟩

/-- The code points of a value as a query shows it: truth values in lower case, lists and objects as
JSON, all else as plain text. -/
def queryCodes : Value → List Nat
  | .null => codePoints "None"
  | .bool b => codePoints (if b then "true" else "false")
  | .int n => codePoints (toString n)
  | .float x => codePoints (FloatText.plain.write x)
  | .str s => codePoints s
  | .surrogate t => t.codes
  | .list items => codePoints ((Value.list items).json lineJson)
  | .map fields => codePoints ((Value.map fields).json lineJson)
  | .moment m => codePoints (m.text ' ')
  | .bytes bs => codePoints (quotedBytes bs)
  | .foreign kind => codePoints kind

/-- What a query shows of a value. -/
def queryText (v : Value) : Except SampleFault (List Nat) :=
  if v.hasLongInteger then .error .longInteger else .ok (queryCodes v)

/-- The query entries that show these fields. -/
def queryEntries (fields : List (String × Value)) : Except SampleFault (List QueryEntry) :=
  fields.mapM fun f => return ⟨f.1, ← queryText f.2⟩

/-- An entry with a key and a value, as documents write it. -/
def keyed (key : String) (value : Value) : List (String × Value) :=
  [("key", .str key), ("value", value)]

/-- A query entry as a URL writes it. -/
def QueryEntry.codes (q : QueryEntry) : List Nat := codePoints q.key ++ codePoints "=" ++ q.value

namespace SampleRequest

/-- The code points of the URL as one text, on a host. -/
def rawUrl (r : SampleRequest) (host : String) : List Nat :=
  let path := codePoints (host ++ "/" ++ "/".intercalate r.segments)
  if r.query.isEmpty then path
  else path ++ codePoints "?" ++ (codePoints "&").intercalate (r.query.map (·.codes))

/-- The URL in parts, as documents write it. -/
def urlValue (r : SampleRequest) (host : String) : Value :=
  .map ([("raw", .ofCodes (r.rawUrl host)), ("host", .strings [host]), ("path", .strings r.segments)] ++
    (if r.placeholders.isEmpty then []
      else [("variable", .list (r.placeholders.map fun name => .map (keyed name (.str ""))))]) ++
    (if r.query.isEmpty then []
      else [("query", .list (r.query.map fun q => .map (keyed q.key (.ofCodes q.value))))]))

/-- The request as documents write it. -/
def toValue (r : SampleRequest) (host : String) : Value :=
  .map [("name", .str (r.verb ++ " " ++ r.name)),
    ("request", .map ([("method", .str r.verb),
      ("header", .list [.map (keyed "Content-Type" (.str jsonContentType) ++ [("type", .str "text")])]),
      ("url", r.urlValue host)] ++
      (match r.body with
        | some v => [("body", .map [("mode", .str "raw"), ("raw", .str (v.json bodyJson))])]
        | none => [])))]

/-! ## From a route -/

/-- A mock body for an endpoint that reads an object or a list. -/
def sampleBody (e : Endpoint) : Sampling (Option Value) :=
  match e.requestBody with
  | none => return none
  | some t =>
    if t.kind == .object || t.kind == .array then do
      let v ← Sampling.mock (generate none t)
      if v.hasLongInteger then throw .longInteger else return some v
    else return none

/-- The query entries for a parameter: one for each field of an object, else one of its own. -/
def sampleParameter (p : Parameter) : Sampling (List QueryEntry) :=
  if p.source != .query then return []
  else if p.type.properties.isSome then do
    match (← Sampling.mock (generate none p.type)).fields? with
    | some fields => queryEntries fields
    | none => throw .noFields
  else do queryEntries [(p.name, ← Sampling.mock (generate (some p.name) p.type))]

/-- A sample request for a route. -/
def ofRoute (route : Route) : Sampling SampleRequest := do
  let body ← sampleBody route.endpoint
  let query ← route.endpoint.parameters.mapM sampleParameter
  return {
    name := route.endpoint.name, verb := route.endpoint.verb, segments := Routing.segments route.path
    placeholders := parameterNames route.path, body, query := query.flatten }

end SampleRequest

end RouteAtlas.Collection
