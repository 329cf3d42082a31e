import RouteAtlas.Scan.Handler

/-!
# Scanning a project

Finds the controllers of a source directory without running it: every router with the handlers that
are its routes. A file that cannot be read empties the whole scan, so that no partial set of routes is
ever taken for the complete one.
-/

namespace RouteAtlas.Scan

open RouteAtlas.Api RouteAtlas.Project RouteAtlas.Reflect RouteAtlas.Routing RouteAtlas.Syntax

/-- Why a scan breaks off without a result. -/
inductive ScanFault where
  /-- A source file holds a null character. -/
  | nullCharacter (path : Path)
  /-- A null character stands in the path of the source directory. -/
  | nullPath (path : Path)
  | handler (fault : HandlerFault)
deriving Repr, DecidableEq, Inhabited

/-- Work that belongs to a scan. -/
abbrev Scanning := Logged ScanFault

/-- Writes a message of the scan. -/
def note (level : Level) (text : String) : Scanning Unit := Logged.write level .scan text

/-- Names that a router variable has by custom and that say nothing about it. -/
def customaryNames : List String := ["router", "app"]

/-- The name of a router's controller: its first tag, or the first tag of its mount, or the variable,
or the module where the variable has a customary name. -/
def controllerName (r : RouterDecl) (mount : Mount) : String :=
  match (if r.tags.isEmpty then mount.tags else r.tags) with
  | tag :: _ => tag
  | [] => if customaryNames.contains r.name then r.file.moduleName else r.name

/-- The controller of a router. -/
def controllerOf (index : ClassIndex) (aliases : Aliases) (mounts : List (RouterKey × Mount))
    (r : RouterDecl) : Except HandlerFault Controller := do
  let mount := mountOf mounts r
  let endpoints ← (handlersOf r.file.module r.name).mapM fun (f, d) => endpointOf index aliases f d
  return {
    name := controllerName r mount, path := normalizeRoute (joinStarts mount.start r.start)
    endpoints, sourceFile := r.file.path.text }

/-- An application that has no routes of its own only mounts routers. -/
def isController (r : RouterDecl) (c : Controller) : Bool :=
  !c.endpoints.isEmpty || r.kind != .application

/-- The controllers of parsed files. -/
def controllersOf (files : List SourceFile) : Scanning (List Controller) := do
  let index ← files.foldlM (fun index f => index.addModule f.module f.path.text) ClassIndex.empty
  let routers := files.flatMap (·.routers)
  let aliases := aliasesOf files
  let mounts := mountsOf files routers
  routers.filterMapM fun r => do
    match controllerOf index aliases mounts r with
    | .error fault => throw (.handler fault)
    | .ok c =>
      if isController r c then
        note .info s!"  - {c.name} ({c.endpoints.length} endpoint(s))"
        return some c
      else return none

/-- Reads the sources below a directory; nothing if one of them cannot be read. -/
def loadSources (tree : FileTree) (root : Path) : Scanning (Option (List SourceFile)) := do
  match readSourceFiles tree (sourcePaths tree root skippedDirectories) with
  | .error (path, .malformed .nullCharacter) => throw (.nullCharacter path)
  | .error (path, fault) =>
    note .error s!"Scan aborted, {path}: {fault.message path}"
    return none
  | .ok files =>
    note .info s!"Loaded {files.length} Python file(s)"
    return some files

/-- Says which directory is scanned; a path with a null character does not resolve. -/
def announce (tree : FileTree) (root : Path) : Scanning Unit :=
  if root.hasNull then throw (.nullPath root)
  else note .info s!"Scanning directory: {tree.resolve root}"

/-- A directory is always announced. -/
theorem announce_of_isDirectory {tree : FileTree} {root : Path} (h : tree.isDirectory root = true) :
    announce tree root = note .info s!"Scanning directory: {tree.resolve root}" := by
  unfold announce
  rw [FileTree.hasNull_of_isDirectory h, if_neg Bool.false_ne_true]

/-- The controllers of a source directory. -/
def scan (tree : FileTree) (root : Path) : Scanning (List Controller) := do
  announce tree root
  if !tree.isDirectory root then
    note .warning s!"Source directory not found: {root}"
    return []
  match ← loadSources tree root with
  | none => return []
  | some files =>
    let controllers ← controllersOf files
    if controllers.isEmpty then
      note .warning s!"No controllers found in {root}. Please check your source_path config."
    else
      note .info s!"Found {controllers.length} controller(s)"
    return controllers

end RouteAtlas.Scan
