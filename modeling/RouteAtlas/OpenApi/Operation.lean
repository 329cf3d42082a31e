import RouteAtlas.Api.Controller
import RouteAtlas.Document.Json
import RouteAtlas.Routing.RouteTable
import RouteAtlas.Schema.Registry
import RouteAtlas.Text.LetterCase

/-!
# Operations

What a document says about one endpoint. `Operation.ofEndpoint` builds it from the endpoint and enters
the component schemas it needs into the registry, in the order body, parameters, response.
-/

namespace RouteAtlas.OpenApi

open RouteAtlas.Api RouteAtlas.Document RouteAtlas.Routing RouteAtlas.Schema RouteAtlas.Text

/-! ## Code samples

How a client calls an endpoint, in three spellings: a shell command, a script and a web page. A sample
of an endpoint that reads a body sends an empty object. -/

/-- A sample call in a language. -/
structure CodeSample where
  lang : String
  source : String
deriving Repr, BEq, Inhabited

namespace CodeSample

/-- The sample as a shell command. -/
def curl (verb url : String) (hasBody : Bool) : CodeSample :=
  ⟨"curl", "curl -X " ++ verb ++ " \"" ++ url ++ "\" \\\n  -H \"Content-Type: " ++ jsonContentType ++ "\"" ++
    if hasBody then " \\\n  -d '\x7b\x7d'" else ""⟩

/-- The sample as a script. -/
def script (verb url : String) (hasBody : Bool) : CodeSample :=
  ⟨"python", "import requests\n\nresponse = requests." ++ lowercase verb ++ "(\"" ++ url ++ "\"" ++
    (if hasBody then ", json=\x7b\x7d)" else ")") ++ "\nprint(response.json())"⟩

/-- The sample for a web page. -/
def fetch (verb url : String) (hasBody : Bool) : CodeSample :=
  ⟨"javascript", "fetch('" ++ url ++ "', \x7b\n  method: '" ++ verb ++
    "',\n  headers: \x7b 'Content-Type': '" ++ jsonContentType ++ "' \x7d" ++
    (if hasBody then ",\n  body: JSON.stringify(\x7b\x7d)" else "") ++
    ",\n\x7d)\n  .then(response => response.json())\n  .then(data => console.log(data));"⟩

/-- The samples for a verb and an address. -/
def all (verb url : String) (hasBody : Bool) : List CodeSample :=
  let verb := uppercase verb
  [curl verb url hasBody, script verb url hasBody, fetch verb url hasBody]

/-- A sample as documents write it. -/
def toValue (s : CodeSample) : Value := .map [("lang", .str s.lang), ("source", .str s.source)]

end CodeSample

/-! ## Operations -/

/-- Where a described parameter stands in a request. -/
inductive ParameterPlace where
  | query
  | path
deriving Repr, DecidableEq, Inhabited

/-- The name of a place. -/
def ParameterPlace.name : ParameterPlace → String
  | .query => "query"
  | .path => "path"

/-- A described parameter. -/
structure ParameterInfo where
  name : String
  place : ParameterPlace
  required : Bool
  schema : TypeSchema
deriving Repr, BEq, Inhabited

/-- A described request body. -/
structure BodyInfo where
  required : Bool
  schema : TypeSchema
deriving Repr, BEq, Inhabited

/-- The described answer to a request; one without content has no schema. -/
structure ResponseInfo where
  status : Int
  content : Option TypeSchema
deriving Repr, BEq, Inhabited

/-- What a document says about an endpoint. -/
structure Operation where
  name : String
  tag : String
  /-- Empty if the endpoint has no summary. -/
  description : String
  body : Option BodyInfo
  parameters : List ParameterInfo
  response : ResponseInfo
  samples : List CodeSample
deriving Repr, BEq, Inhabited

/-! ## As documents write it -/

/-- JSON content of a schema, as documents write it. -/
def contentValue (s : TypeSchema) : Value :=
  .map [(jsonContentType, .map [("schema", s.toValue)])]

/-- A parameter as documents write it. -/
def ParameterInfo.toValue (p : ParameterInfo) : Value :=
  .map [("name", .str p.name), ("in", .str p.place.name), ("required", .bool p.required),
    ("schema", p.schema.toValue)]

/-- A body as documents write it. -/
def BodyInfo.toValue (b : BodyInfo) : Value :=
  .map [("required", .bool b.required), ("content", contentValue b.schema)]

/-- The description of an answer. -/
def ResponseInfo.description (a : ResponseInfo) : String :=
  if a.status = 204 then "No Content" else "Success"

/-- An answer as documents write it, under its status. A document is built only if every status has a
text. -/
def ResponseInfo.toValue (a : ResponseInfo) : Value :=
  .map [(toString a.status, .map (("description", .str a.description) ::
    match a.content with
    | some s => [("content", contentValue s)]
    | none => []))]

/-- An operation as documents write it; absent parts are left out. -/
def Operation.toValue (o : Operation) : Value :=
  .map ([("summary", .str o.name), ("operationId", .str o.name), ("tags", .strings [o.tag])] ++
    (if o.description.isEmpty then [] else [("description", .str o.description)]) ++
    (match o.body with
      | some b => [("requestBody", b.toValue)]
      | none => []) ++
    (if o.parameters.isEmpty then []
      else [("parameters", .list (o.parameters.map (·.toValue)))]) ++
    [("responses", o.response.toValue),
      ("x-code-samples", .list (o.samples.map (·.toValue)))])

/-! ## From an endpoint -/

/-- A description that may enter components. -/
abbrev Describing := StateM (Registry TypeSchema)

/-- Describes a type. -/
def describeType (t : TypeShape) : Describing TypeSchema := fun r => schemaOf r t

/-- Describes the body an endpoint reads. A body made of several parameters stands in the operation
itself, because its name belongs to one handler only. -/
def describeBody (e : Endpoint) : Describing (Option BodyInfo) :=
  match e.requestBody with
  | none => return none
  | some body => do
    let s ←
      if e.embedsBody then (fun r => objectSchema r (body.properties.getD []))
      else describeType body
    return some ⟨!body.isOptional, s⟩

/-- Describes a query parameter. -/
def describeQuery (name : String) (t : TypeShape) : Describing ParameterInfo := do
  return ⟨name, .query, !t.isOptional, ← describeType t⟩

/-- Describes a parameter: an object read from the query is one parameter for each property, and what
is read neither from the query nor from the path is no parameter. -/
def describeParameter (p : Parameter) : Describing (List ParameterInfo) :=
  match p.source with
  | .query =>
    match p.type.properties with
    | some properties => properties.mapM fun (name, t) => describeQuery name t
    | none => do return [← describeQuery p.name p.type]
  | .path => do return [⟨p.name, .path, true, ← describeType p.type⟩]
  | .body => return []
  | .none => return []

/-- Describes the answer of an endpoint. -/
def describeResponse (e : Endpoint) : Describing ResponseInfo := do
  let status := defaultStatus e.verb e.statusCode
  if status = 204 ∨ e.returnType.text = "None" then return ⟨status, none⟩
  else return ⟨status, some (← describeType e.returnType)⟩

/-- An address without the slashes at its end. -/
def withoutFinalSlashes (url : String) : String := String.ofList (trimEnd (· == '/') url.toList)

/-- Describes an endpoint that is served under a path, as documents write it, of a server. -/
def Operation.ofEndpoint (baseUrl tag path : String) (e : Endpoint) : Describing Operation := do
  let body ← describeBody e
  let parameters ← e.parameters.mapM describeParameter
  let response ← describeResponse e
  return {
    name := e.name, tag, description := e.summary, body, parameters := parameters.flatten, response
    samples := CodeSample.all e.verb (withoutFinalSlashes baseUrl ++ path) body.isSome }

end RouteAtlas.OpenApi
