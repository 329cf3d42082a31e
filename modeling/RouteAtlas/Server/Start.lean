import RouteAtlas.Options.Load
import RouteAtlas.Scan.ProjectScan
import RouteAtlas.Server.Answer

/-!
# Starting the server

A server starts from a project directory: options are loaded and their gaps filled, the sources are
scanned once, the document is made, and if the options ask for it the collection is exported.
-/

namespace RouteAtlas.Server

open RouteAtlas.Api RouteAtlas.Collection RouteAtlas.Document RouteAtlas.Mock RouteAtlas.OpenApi
open RouteAtlas.Project RouteAtlas.Routing RouteAtlas.Scan RouteAtlas.Text

/-- Why a server does not start. -/
inductive StartFault where
  | options (fault : OptionsFault)
  | metadata (fault : MetadataFault)
  | scan (fault : ScanFault)
  | document (fault : DocumentFault)
  | sample (fault : SampleFault)
  /-- The exported collection is not in its file. -/
  | output (fault : UnreportedFault)
  | address (fault : AddressFault)
deriving Inhabited

/-- Starting a server. -/
abbrev Starting := Logged StartFault

/-- Writes a message about the start. -/
def noteStart (level : Level) (text : String) : Starting Unit := Logged.write level .setup text

/-- Exports the collection of a server. -/
def exportCollection (tree : FileTree) (root : Path) (s : Service) :
    Starting (FileTree × Service) := do
  let output := root.join (.ofString s.options.postmanOutputPath)
  let (result, source) := (collectionOf s.options s.controllers).run.run s.source
  match result with
  | .error fault => throw (.sample fault)
  | .ok collection =>
    let s := { s with source }
    match exportTo tree collection.toValue output Format.json.name with
    | (tree, none) =>
      noteStart .info s!"Postman collection exported to {output}"
      return (tree, s)
    | (tree, some (.emit e)) =>
      noteStart .error s!"Postman export failed: {e.message}"
      return (tree, s)
    | (_, some (.unreported fault)) => throw (.output fault)

/-- Builds a server from a project; given options count, else those of the project are loaded. -/
def buildService (tree : FileTree) (env : Environment) (root : Path) (given : Option Options)
    (script : List Nat) : Starting (FileTree × Service) := do
  let layout ← Logged.mapFault .metadata (detectLayout tree root)
  let loaded ← match given with
    | some options => pure options
    | none => Logged.mapFault .options (loadOptions tree none root)
  let options ← Logged.mapFault .metadata (resolveOptions env layout loaded)
  noteStart .info s!"Project root: {root}"
  noteStart .info s!"Source path: {options.source}"
  let controllers ← Logged.mapFault .scan (scan tree options.source)
  noteStart .info "Generating OpenAPI specification..."
  let document ← Logged.mapFault .document (ApiDocument.build {
    title := options.title, version := options.version, baseUrl := options.address
    description := options.apiDescription } controllers)
  let s : Service := {
    options, controllers, routes := .ofControllers controllers, document := document.toValue
    views := [], source := options.randomSource script }
  if options.autoExportPostman then exportCollection tree root s else return (tree, s)

/-- Reports what a server serves and where. -/
def noteSummary (s : Service) : Starting Unit := do
  let o := s.options
  let base := String.ofList (trimEnd (· == '/') o.address.toList)
  let a := DocsAddresses.ofOptions o.toOptions
  noteStart .info
    s!"api-scramble ready: {s.controllers.length} controller(s), {s.routes.length} route(s)"
  noteStart .info s!"  Documentation: {base}{a.page}"
  noteStart .info s!"  OpenAPI spec:  {base}{a.document}"
  if o.enableMock then noteStart .info s!"  Mock server:   {base}{rooted o.mockPrefix}"
  noteStart .info s!"  Theme: {o.theme.name}"

/-- Starts a server on a project; the file tree that comes with it holds what was exported. -/
def startService (tree : FileTree) (env : Environment) (root : Path) (given : Option Options)
    (script : List Nat) : Starting (FileTree × Service) := do
  let (tree, s) ← buildService tree env root given script
  match (DocsAddresses.ofOptions s.options.toOptions).views with
  | .error fault => throw (.address fault)
  | .ok views =>
    let s := { s with views }
    noteSummary s
    return (tree, s)

end RouteAtlas.Server
