import RouteAtlas.Api.Controller
import RouteAtlas.Routing.RoutePath
import RouteAtlas.Text.LetterCase

/-!
# The route table

Every endpoint of every controller with its full path, in the order of the scan. A request is answered
by the first route with its verb and a path that accepts its own.
-/

namespace RouteAtlas.Routing

open RouteAtlas.Api RouteAtlas.Text

/-- The status a handler answers with: the one it declares, else by its verb. -/
def defaultStatus (verb : String) (declared : Option Int) : Int :=
  match declared with
  | some status => status
  | none =>
    if uppercase verb = "POST" then 201
    else if uppercase verb = "DELETE" then 204
    else 200

/-- An endpoint with its controller and its full path. -/
structure Route where
  controller : Controller
  endpoint : Endpoint
  path : String
deriving Repr, BEq, Inhabited

/-- The status a route answers with. -/
def Route.status (r : Route) : Int := defaultStatus r.endpoint.verb r.endpoint.statusCode

/-- The routes of a project, in order. -/
abbrev RouteTable := List Route

namespace RouteTable

/-- The routes of these controllers. -/
def ofControllers (controllers : List Controller) : RouteTable :=
  controllers.flatMap fun c => c.endpoints.map fun e => ⟨c, e, joinPath c.path e.route⟩

/-- The first route that answers a request. -/
def lookup (table : RouteTable) (verb path : String) : Option Route :=
  List.find? (fun r => r.endpoint.verb == uppercase verb && pathMatches r.path path) table

end RouteTable

end RouteAtlas.Routing
