import RouteAtlas.Api.TypeShape

/-!
# Controllers and their endpoints

What a scan finds: controllers, each with a path and its endpoints, and for each endpoint its verb,
route, parameters and types. `Endpoint.requestBody` is the JSON body that a request carries.
-/

namespace RouteAtlas.Api

/-- Where a parameter takes its value from. -/
inductive ParameterSource where
  | body
  | query
  | path
  /-- The parameter is no part of the request that is described. -/
  | none
deriving Repr, DecidableEq, Inhabited

/-- The name of a source. -/
def ParameterSource.name : ParameterSource → String
  | .body => "body"
  | .query => "query"
  | .path => "path"
  | .none => "none"

/-- The source of a name. -/
def ParameterSource.ofName? (s : String) : Option ParameterSource :=
  [.body, .query, .path, .none].find? (·.name == s)

/-- A parameter of an endpoint. -/
structure Parameter where
  name : String
  type : TypeShape
  source : ParameterSource
  /-- The body is an object that holds this parameter by name. -/
  embed : Bool := false
deriving Repr, BEq, Inhabited

/-- A route handler. -/
structure Endpoint where
  name : String
  verb : String
  /-- The route below its controller, its parameters as `:name`. -/
  route : String
  parameters : List Parameter
  returnType : TypeShape
  statusCode : Option Int := .none
  summary : String := ""
deriving Repr, BEq, Inhabited

/-- A group of endpoints under one path. -/
structure Controller where
  name : String
  path : String
  endpoints : List Endpoint
  sourceFile : String := ""
deriving Repr, BEq, Inhabited

namespace Endpoint

/-- The parameters that are read from the body. -/
def bodyParameters (e : Endpoint) : List Parameter :=
  e.parameters.filter (·.source == .body)

/-- The body is an object with one member for each body parameter: there are several of them, or one
asks for it. -/
def embedsBody (e : Endpoint) : Bool :=
  1 < e.bodyParameters.length || e.bodyParameters.any (·.embed)

/-- The JSON body that the endpoint reads. -/
def requestBody (e : Endpoint) : Option TypeShape :=
  match e.bodyParameters with
  | [] => .none
  | p :: r =>
    if e.embedsBody then
      some (.object s!"Body_{e.name}" ((p :: r).all (·.type.isOptional))
        ((p :: r).map fun p => (p.name, p.type)))
    else some p.type

end Endpoint

end RouteAtlas.Api
