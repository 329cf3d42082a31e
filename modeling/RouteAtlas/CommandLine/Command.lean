import RouteAtlas.CommandLine.Arguments
import RouteAtlas.Document.Export
import RouteAtlas.Number.NumberText
import RouteAtlas.Project.Path

/-!
# Commands

What the program can be asked to do. `Command.ofArguments` reads the arguments of one command;
`Invocation.ofArguments` reads all arguments, up to those of the command.
-/

namespace RouteAtlas.CommandLine

open RouteAtlas.Document RouteAtlas.Number RouteAtlas.Project

/-- A command with its arguments. -/
inductive Command where
  /-- Writes a collection. -/
  | generate (source output : Path) (host name : Option String)
  /-- Writes a document. -/
  | openapi (source output : Path) (format : Format) (baseUrl title version : Option String)
  /-- Lists the routes. -/
  | routes (source : Path)
  /-- Prints a mock of one route. -/
  | mock (source : Path) (verb path : String) (seed : Option Int)
deriving Inhabited

/-- The names of the commands. -/
inductive CommandName where
  | generate
  | mock
  | openapi
  | routes
deriving Repr, DecidableEq, Inhabited

/-- All commands, by name. -/
def CommandName.all : List CommandName := [.generate, .mock, .openapi, .routes]

/-- The option that names the output file. -/
def outputOption : OptionDecl := ⟨"output", ["-o", "--output"], .text "PATH", "Output file path."⟩

/-- The positional argument that every command takes. -/
def sourceArgument : String := "SOURCE_PATH"

/-- What a command takes. -/
def CommandName.decl : CommandName → CommandDecl
  | .generate => {
    name := "generate", purpose := "Generate a Postman collection from a FastAPI project."
    positional := [sourceArgument]
    options := [outputOption,
      ⟨"base_url", ["-b", "--base-url"], .text "TEXT", "Base URL used in request URLs."⟩,
      ⟨"name", ["--name"], .text "TEXT", "Collection name."⟩] }
  | .mock => {
    name := "mock"
    purpose := "Print the mock response for METHOD PATH, e.g. ``GET /users/1``."
    positional := [sourceArgument, "METHOD", "PATH"]
    options :=
      [⟨"seed", ["--seed"], .text "INTEGER", "Seed for reproducible mock data."⟩] }
  | .openapi => {
    name := "openapi", purpose := "Generate an OpenAPI 3.0 document from a FastAPI project."
    positional := [sourceArgument]
    options := [outputOption,
      ⟨"format", ["--format"], .text "[json|yaml]", "Output format."⟩,
      ⟨"base_url", ["--base-url"], .text "TEXT", "Server URL for the document."⟩,
      ⟨"title", ["--title"], .text "TEXT", "API title."⟩,
      ⟨"api_version", ["--api-version"], .text "TEXT", "API version."⟩] }
  | .routes => {
    name := "routes", purpose := "List every scanned route.", positional := [sourceArgument] }

/-- The command of a name. -/
def CommandName.ofName? (name : String) : Option CommandName :=
  CommandName.all.find? (·.decl.name == name)

/-- The integer of an option. -/
def integerOption (g : Given) (key : String) : Except UsageFault (Option Int) :=
  match g.text? key with
  | none => .ok none
  | some s =>
    match intOfText? 10 s with
    | some n => .ok (some n)
    | none => .error (.notInteger key s)

/-- The format of an option, JSON if it is not given. -/
def formatOption (g : Given) (key : String) : Except UsageFault Format :=
  match g.text? key with
  | none => .ok .json
  | some s =>
    match Format.ofName? s with
    | some format => .ok format
    | none => .error (.notListed key s)

/-- The first of a command's positional arguments that is not given. -/
def firstMissing (d : CommandDecl) (g : Given) : UsageFault :=
  .missingArgument ((d.positional.drop g.positional.length).headD "")

/-- The output file of a command. -/
def outputOf (g : Given) (standard : String) : Path :=
  .ofString ((g.text? outputOption.key).getD standard)

/-- The command that sorted arguments ask for. -/
def Command.ofGiven (name : CommandName) (g : Given) : Except UsageFault Command :=
  match name, g.positional with
  | .generate, [source] =>
    .ok (.generate (.ofString source) (outputOf g "collection.json")
      (g.text? "base_url") (g.text? "name"))
  | .openapi, [source] => do
    return .openapi (.ofString source) (outputOf g "openapi.json") (← formatOption g "format")
      (g.text? "base_url") (g.text? "title") (g.text? "api_version")
  | .routes, [source] => .ok (.routes (.ofString source))
  | .mock, [source, verb, path] => do
    return .mock (.ofString source) verb path (← integerOption g "seed")
  | _, given =>
    let d := name.decl
    if given.length < d.positional.length then .error (firstMissing d g)
    else .error (.extraArguments (given.drop d.positional.length))

/-- What stands for help where a command was asked for. -/
inductive Asked (α : Type) where
  | help
  | order (a : α)
deriving Inhabited

/-- The command that arguments ask for. -/
def Command.ofArguments (name : CommandName) (arguments : List String) :
    Except UsageFault (Asked Command) := do
  let g ← name.decl.read arguments
  if g.help then return .help else return .order (← Command.ofGiven name g)

/-- What the program itself takes. -/
def programDecl : CommandDecl where
  name := "main"
  purpose := "api-scramble: OpenAPI, Postman and mock data from FastAPI sources."
  ordered := true
  options := [
    ⟨"config", ["--config"], .text "PATH", "YAML options file (default: scramble.yaml)."⟩,
    ⟨"verbose", ["-v", "--verbose"], .count, "-v for progress logs, -vv for debug logs."⟩]

/-- The program called with a command whose arguments are still to be read. -/
structure Invocation where
  config : Option Path
  verbosity : Nat
  command : CommandName
  arguments : List String
deriving Inhabited

/-- What arguments ask the program for. -/
def Invocation.ofArguments (arguments : List String) : Except UsageFault (Asked Invocation) := do
  if arguments.isEmpty then throw .noArguments
  let g ← programDecl.read arguments
  if g.help then return .help
  match g.positional with
  | [] => throw .noCommand
  | name :: rest =>
    match CommandName.ofName? name with
    | some command =>
      return .order ⟨(g.text? "config").map .ofString, g.count "verbose", command, rest⟩
    | none => throw (.unknownCommand name)

end RouteAtlas.CommandLine
