import RouteAtlas.CommandLine.Help
import RouteAtlas.CommandLine.Session
import RouteAtlas.Project.Environment
import RouteAtlas.Server.Answer

/-!
# Running the program

`run` reads the arguments, loads the options of the project in the working directory, and does what the
command asks for. Options are loaded before the arguments of the command are read.
-/

namespace RouteAtlas.CommandLine

open RouteAtlas.Api RouteAtlas.Collection RouteAtlas.Document RouteAtlas.Mock RouteAtlas.OpenApi
open RouteAtlas.Project RouteAtlas.Routing RouteAtlas.Scan RouteAtlas.Server RouteAtlas.Text

/-- What the program is given besides its arguments and files. -/
structure Circumstances where
  env : Environment := {}
  /-- What random values follow where no seed is given. -/
  script : List Nat := []
deriving Inhabited

/-- The working directory. -/
def workingDirectory : Running Path := do return .ofLocation (← get).tree.cwd

/-- The controllers of a source directory. -/
def scanSource (source : Path) : Running (List Controller) := do
  Running.say s!"Scanning controllers in {source}..."
  let controllers ← Running.logged (fun fault => .broken (.scan fault))
    (scan (← get).tree source)
  let count := (controllers.flatMap (·.endpoints)).length
  Running.say s!"Found {controllers.length} controllers with {count} methods."
  return controllers

/-- Writes a document into a file. -/
def writeDocument (document : Value) (output : Path) (format : Format) : Running Unit := do
  let s ← get
  let (tree, fault) := exportTo s.tree document output format.name
  set { s with tree }
  match fault with
  | none => return
  | some (.emit e) => throw (.failed e.message)
  | some (.unreported fault) => throw (.broken (.output fault))

/-- The first text that is present, else the address of the service. -/
def addressFrom (c : Circumstances) (texts : List (Option String)) : Running String :=
  match texts.findSome? presentText? with
  | some s => return s
  | none => Running.logged (fun fault => .broken (.metadata fault)) c.env.detectBaseUrl

/-- The first text that is present, else a field of the project's metadata. -/
def describedFrom (detect : FileTree → Path → Logged MetadataFault Value)
    (texts : List (Option String)) : Running Value := do
  match texts.findSome? presentText? with
  | some s => return .str s
  | none =>
    Running.logged (fun fault => .broken (.metadata fault))
      (detect (← get).tree (← workingDirectory))

/-- Writes a collection of the project's routes. -/
def generateCollection (c : Circumstances) (o : Options) (source output : Path)
    (host name : Option String) : Running Unit := do
  let controllers ← scanSource source
  if controllers.isEmpty then Running.say "No controllers found."
  else
    Running.say "Generating Postman collection..."
    let name ← describedFrom projectName [name, o.apiTitle]
    let baseUrl ← addressFrom c [o.baseUrl]
    let standard : CollectionInfo := {}
    let info : CollectionInfo := { name, baseUrl, host := host.getD standard.host }
    let work := SampleCollection.ofControllers info controllers
    match (work.run.run (o.randomSource c.script)).1 with
    | .error fault => throw (.broken (.sample fault))
    | .ok collection =>
      writeDocument collection.toValue output .json
      Running.say s!"Postman collection saved to {output}"

/-- Writes a document of the project's routes. -/
def generateDocument (c : Circumstances) (o : Options) (source output : Path) (format : Format)
    (baseUrl title version : Option String) : Running Unit := do
  let controllers ← scanSource source
  let baseUrl ← addressFrom c [baseUrl, o.baseUrl]
  Running.say "Generating OpenAPI document..."
  let title ← describedFrom projectName [title, o.apiTitle]
  let version ← describedFrom projectVersion [version, o.apiVersion]
  let document ← Running.logged (fun fault => .broken (.document fault))
    (ApiDocument.build { title, version, baseUrl, description := o.apiDescription } controllers)
  writeDocument document.toValue output format
  Running.say s!"OpenAPI document saved to {output}"

/-- A text with blanks after it, up to a width. -/
def padded (width : Nat) (s : String) : String :=
  s ++ String.ofList (List.replicate (width - s.length) ' ')

/-- Lists the project's routes. -/
def listRoutes (source : Path) : Running Unit := do
  for r in RouteTable.ofControllers (← scanSource source) do
    Running.say s!"{padded 7 r.endpoint.verb} {r.path}  ->  {r.controller.name}.{r.endpoint.name}"

/-- Prints which route answers, with its status. -/
def sayRoute (route : Route) : Running Unit :=
  if isLongInteger route.status then throw (.broken (.print .longInteger))
  else Running.say s!"{route.status} {route.controller.name}.{route.endpoint.name}"

/-- Prints a value as JSON. -/
def sayValue (v : Value) : Running Unit :=
  if v.hasLongInteger then throw (.broken (.print .longInteger))
  else if v.hasSurrogate then throw (.broken (.print .surrogate))
  else Running.say (v.json prettyJson)

/-- Prints a mock of the route that answers a request. -/
def printMock (c : Circumstances) (o : Options) (source : Path) (verb path : String)
    (seed : Option Int) : Running Unit := do
  match (RouteTable.ofControllers (← scanSource source)).lookup verb path with
  | none => throw (.failed s!"{noRouteMessage}: {uppercase verb} {path}")
  | some route =>
    sayRoute route
    if !returnsNothing route then
      let o := { o with seed := seed.or o.seed }
      match ((mockOf route).runFrom (o.randomSource c.script)).1 with
      | .error fault => throw (.broken (.mock fault))
      | .ok v => sayValue v

/-- Does what a command asks for. -/
def Command.run (c : Circumstances) (o : Options) : Command → Running Unit
  | .generate source output host name => generateCollection c o source output host name
  | .openapi source output format baseUrl title version =>
    generateDocument c o source output format baseUrl title version
  | .routes source => listRoutes source
  | .mock source verb path seed => printMock c o source verb path seed

/-- Why options stop the program. -/
def optionsStop : OptionsFault → Stop
  | .invalid faults => .failed (invalidOptionsMessage faults)
  | fault => .broken (.options fault)

/-- All of the program's work. -/
def program (c : Circumstances) (arguments : List String) : Running Unit := do
  let i ← Running.reading programHelp (Invocation.ofArguments arguments)
  modify fun s => { s with threshold := thresholdOf i.verbosity }
  let options ← Running.logged optionsStop
    (loadOptions (← get).tree i.config (← workingDirectory))
  let command ← Running.reading i.command.help (Command.ofArguments i.command i.arguments)
  command.run c options

/-- How a call of the program ended. -/
structure Outcome where
  stop : Option Stop
  session : Session
deriving Inhabited

namespace Outcome

/-- The exit code. -/
def exitCode (o : Outcome) : Nat :=
  match o.stop with
  | none => 0
  | some (.help _) => 0
  | some (.usage _) => 2
  | some (.failed _) => 1
  | some (.broken _) => 1

/-- What is printed after everything else. -/
def lastLines (o : Outcome) : List OutputLine :=
  match o.stop with
  | some (.help page) => [.said page]
  | some (.usage fault) => [.said s!"Error: {fault.message}"]
  | some (.failed message) => [.said s!"Error: {message}"]
  | _ => []

/-- All lines that are printed. -/
def lines (o : Outcome) : List OutputLine := o.session.transcript ++ o.lastLines

end Outcome

/-- Calls the program on a file tree. -/
def run (c : Circumstances) (tree : FileTree) (arguments : List String) : Outcome :=
  let (result, session) := (program c arguments).run.run { tree }
  match result with
  | .ok () => ⟨none, session⟩
  | .error stop => ⟨some stop, session⟩

end RouteAtlas.CommandLine
