import RouteAtlas.Api.Defaults
import RouteAtlas.Log
import RouteAtlas.OpenApi.Operation

/-!
# API documents

The OpenAPI document of a list of controllers. Paths stand in the order in which they are first met;
of several endpoints with one path and verb the last one is described. `ApiDocument.build` makes the
document as a program does: it breaks off at a status that has no text, and says when it is done.
-/

namespace RouteAtlas.OpenApi

open RouteAtlas.Api RouteAtlas.Document RouteAtlas.Routing RouteAtlas.Schema RouteAtlas.Text

/-- What a document says about the API as a whole. Title and version are values of any kind, since
project metadata can hold any. -/
structure ApiInfo where
  title : Value := .str defaultTitle
  version : Value := .str defaultVersion
  baseUrl : String := defaultBaseUrl
  description : String := defaultDescription
deriving Inhabited

/-- Operations by verb, and these by path. -/
abbrev PathTable := List (String × List (String × Operation))

/-- An API document. -/
structure ApiDocument where
  info : ApiInfo
  paths : PathTable
  components : Registry TypeSchema
deriving Inhabited

/-- Why there is no document. -/
inductive DocumentFault where
  /-- A status has too many digits to be written. -/
  | longStatus
deriving Repr, DecidableEq, Inhabited

/-- Enters an operation under its path and verb. -/
def PathTable.enter (table : PathTable) (path verb : String) (o : Operation) : PathTable :=
  setField path (setField verb o ((field? path table).getD [])) table

/-- Describes one route into a table. -/
def describeRoute (baseUrl : String) (table : PathTable) (route : Route) : Describing PathTable := do
  let path := documentPath route.path
  let o ← Operation.ofEndpoint baseUrl route.controller.name path route.endpoint
  return table.enter path (lowercase route.endpoint.verb) o

namespace ApiDocument

/-- The document of the routes of these controllers. -/
def ofControllers (info : ApiInfo) (controllers : List Controller) : ApiDocument :=
  let (paths, components) :=
    (RouteTable.ofControllers controllers).foldlM (describeRoute info.baseUrl) [] |>.run .empty
  ⟨info, paths, components⟩

/-- The document as a value. -/
def toValue (d : ApiDocument) : Value :=
  .map [("openapi", .str "3.0.0"),
    ("info", .map [("title", d.info.title), ("version", d.info.version),
      ("description", .str d.info.description)]),
    ("servers", .list [.map [("url", .str d.info.baseUrl)]]),
    ("paths", .map (d.paths.map fun (path, operations) =>
      (path, .map (operations.map fun (verb, o) => (verb, o.toValue))))),
    ("components", .map [("schemas", d.components.toValue)])]

/-- What the log says of a finished document. -/
def summary (d : ApiDocument) : String :=
  s!"OpenAPI document built: {d.paths.length} path(s), {d.components.names.length} schema(s)"

/-- Some route answers with a status of too many digits. -/
def hasLongStatus (controllers : List Controller) : Bool :=
  (RouteTable.ofControllers controllers).any fun route => isLongInteger route.status

/-- Builds the document of these controllers. -/
def build (info : ApiInfo) (controllers : List Controller) : Logged DocumentFault ApiDocument :=
  if hasLongStatus controllers then throw .longStatus
  else do
    let document := ofControllers info controllers
    Logged.write .info .document document.summary
    return document

section Build

variable {info : ApiInfo} {controllers : List Controller}

/-- A status of too many digits breaks the building off without a message. -/
theorem runFrom_build_of_long (h : hasLongStatus controllers = true) (log : Log) :
    (build info controllers).runFrom log = (.error .longStatus, log) := by
  unfold build
  rw [if_pos h]
  rfl

/-- Otherwise the document is built, and one message says so. -/
theorem runFrom_build_of_short (h : hasLongStatus controllers = false) (log : Log) :
    (build info controllers).runFrom log = (.ok (ofControllers info controllers),
      log ++ [⟨.info, .document, (ofControllers info controllers).summary⟩]) := by
  unfold build
  rw [if_neg (Bool.eq_false_iff.1 h)]
  rfl

/-- A document that was built is that of the controllers, and no status of theirs is too long. -/
theorem of_runFrom_build {log log' : Log} {d : ApiDocument}
    (h : (build info controllers).runFrom log = (.ok d, log')) :
    hasLongStatus controllers = false ∧ d = ofControllers info controllers := by
  cases hlong : hasLongStatus controllers with
  | true =>
    rw [runFrom_build_of_long hlong] at h
    cases (Prod.mk.inj h).1
  | false =>
    rw [runFrom_build_of_short hlong] at h
    exact ⟨rfl, (Except.ok.inj (Prod.mk.inj h).1).symm⟩

end Build

end ApiDocument

end RouteAtlas.OpenApi
