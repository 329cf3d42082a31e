import RouteAtlas.Api.Defaults
import RouteAtlas.Collection.SampleRequest

/-!
# Sample collections

A Postman collection: one folder for each controller, one request for each of its routes, in the order
of the route table.
-/

namespace RouteAtlas.Collection

open RouteAtlas.Api RouteAtlas.Document RouteAtlas.Routing

/-- The requests of one controller. -/
structure Folder where
  name : String
  requests : List SampleRequest
deriving Inhabited

/-- A collection. Its name is a value of any kind, since project metadata can hold any. -/
structure SampleCollection where
  name : Value
  /-- How request URLs name their host. -/
  host : String
  /-- What the variable `baseUrl` stands for. -/
  baseUrl : String
  folders : List Folder
deriving Inhabited

/-- How collections are named and addressed. -/
structure CollectionInfo where
  name : Value := .str defaultTitle
  host : String := "\x7b\x7bbaseUrl\x7d\x7d"
  baseUrl : String := defaultBaseUrl
deriving Inhabited

/-- A folder for a controller. -/
def Folder.ofController (c : Controller) : Sampling Folder := do
  return ⟨c.name, ← (RouteTable.ofControllers [c]).mapM SampleRequest.ofRoute⟩

namespace SampleCollection

/-- A collection of these controllers. -/
def ofControllers (info : CollectionInfo) (controllers : List Controller) :
    Sampling SampleCollection := do
  return ⟨info.name, info.host, info.baseUrl, ← controllers.mapM Folder.ofController⟩

/-- The schema that collections follow. -/
def schemaUrl : String := "https://schema.getpostman.com/json/collection/v2.1.0/collection.json"

/-- A folder as documents write it. -/
def folderValue (host : String) (f : Folder) : Value :=
  .map [("name", .str f.name), ("item", .list (f.requests.map (·.toValue host)))]

/-- The collection as a value. -/
def toValue (c : SampleCollection) : Value :=
  .map [("info", .map [("name", c.name),
      ("description", .str defaultDescription),
      ("schema", .str schemaUrl)]),
    ("item", .list (c.folders.map (folderValue c.host))),
    ("variable", .list [.map (keyed "baseUrl" (.str c.baseUrl) ++ [("type", .str "string")])])]

end SampleCollection

end RouteAtlas.Collection
