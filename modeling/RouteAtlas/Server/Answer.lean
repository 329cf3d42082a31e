import RouteAtlas.Server.Service

/-!
# Answering requests

Requests below the mock server's path are answered with generated values, by the first route that
answers them; all others go to the documentation. `Service.exchange` is one step of the server.
-/

namespace RouteAtlas.Server

open RouteAtlas.Api RouteAtlas.Collection RouteAtlas.Document RouteAtlas.Mock RouteAtlas.Routing
open RouteAtlas.Text

/-! ## The documentation

The page, the document and the collection. They answer to `GET` alone; the collection is filled anew
for every request. -/

/-- The collection of the routes of these controllers. -/
def collectionOf (o : ResolvedOptions) (controllers : List Controller) :
    Sampling SampleCollection :=
  SampleCollection.ofControllers { name := o.title, baseUrl := o.address } controllers

/-- A document as an answer; one that cannot be written is reported, and one with surrogates has no
bytes. -/
def answerDocument (document : Value) (label : String) : Serving Response := do
  match dump document Format.json.name with
  | .ok body =>
    if lacksBytes document Format.json.name then throw .surrogate
    else return { status := 200, contentType := some jsonContentType, body }
  | .error e =>
    let failed := s!"Failed to serialize {label}"
    Serving.note .error .docs s!"{failed}: {e.message}"
    return .ofValue 500 (.map [("error", .str failed), ("detail", .str e.message)])

/-- How a browser stores the collection. -/
def collectionDisposition : String := "attachment; filename=\"collection.json\""

namespace Service

/-- The collection as an answer. -/
def answerCollection (s : Service) : Serving Response := do
  let collection ← Serving.sample (collectionOf s.options s.controllers)
  let response ← answerDocument collection.toValue "Postman collection"
  return if response.status = 200 then { response with disposition := some collectionDisposition }
    else response

/-- The page as an answer. -/
def answerPage (s : Service) : Serving Response := do
  let a := DocsAddresses.ofOptions s.options.toOptions
  match DocsPage.ofResolved s.options a.document a.collection with
  | .ok page => return { status := 200, contentType := some Response.pageType, body := page.text }
  | .error fault => throw (.page fault)

/-- A view as an answer. -/
def answerView (s : Service) : DocsView → Serving Response
  | .page => s.answerPage
  | .document => answerDocument s.document "OpenAPI document"
  | .collection => s.answerCollection

/-- The documentation's answer to a request. -/
def answerDocs (s : Service) (r : Request) : Serving Response :=
  match s.views.find? fun (pattern, _) => pattern.accepts r.path.toList with
  | none => return .notFound
  | some (_, view) => if r.verb = "GET" then s.answerView view else return .wrongVerb

end Service

/-! ## The mock server -/

/-- What the mock server says where no route answers. -/
def noRouteMessage : String := "Route not found in scanned controllers"

/-- A mock value of what a route returns. -/
def mockOf (route : Route) : Gen Value := generate none route.endpoint.returnType

/-- A route has no body to return. -/
def returnsNothing (route : Route) : Bool := route.status == 204

/-- A value as the answer of a route, if strict JSON has a text for it and the text has bytes. -/
def answerValue (route : Route) (v : Value) : Except ServeFault Response :=
  if !v.isFinite || v.hasLongInteger then .error .number
  else if v.hasSurrogate then .error .surrogate
  else .ok (.ofValue route.status v)

namespace Service

/-- Where the mock server answers. -/
def mockStart (s : Service) : String := rooted s.options.mockPrefix

/-- The path below the mock server's that a request asks for, if it does. -/
def mockPath? (s : Service) (r : Request) : Option String := do
  if !s.options.enableMock then none
  else
    let rest ← dropInitial? s.mockStart.toList r.addressPath.toList
    if rest.head? == some '/' then some (String.ofList rest) else none

/-- The mock server's answer to a verb and a path below its own. -/
def answerMock (s : Service) (verb path : String) : Serving Response := do
  match s.routes.lookup verb path with
  | none =>
    Serving.note .info .mock s!"Mock miss: {verb} {path}"
    return .ofValue 404 (.map [("error", .str noRouteMessage)])
  | some route =>
    Serving.note .debug .mock
      s!"Mock hit: {verb} {path} -> {route.controller.name}.{route.endpoint.name}"
    if returnsNothing route then return { status := 204 }
    answerValue route (← Serving.mock (mockOf route))

/-- The answer to a request. -/
def answer (s : Service) (r : Request) : Serving Response :=
  match s.mockPath? r with
  | some path => s.answerMock r.verb path
  | none => s.answerDocs r

/-- Answers a request: the answer, the server after it, and the log after the messages so far. -/
def exchange (s : Service) (r : Request) (log : Log) :
    Except ServeFault Response × Service × Log :=
  let (result, journal) := (s.answer r).run.run ⟨s.source, log⟩
  (result, { s with source := journal.source }, journal.log)

end Service

end RouteAtlas.Server
