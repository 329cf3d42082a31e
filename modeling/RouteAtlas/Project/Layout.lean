import RouteAtlas.Project.Metadata
import RouteAtlas.Scan.SourceFile

/-!
# The layout of a project

Where the sources of a project are, which of them declare routers, and what its metadata say.
-/

namespace RouteAtlas.Project

open RouteAtlas.Document RouteAtlas.Scan RouteAtlas.Text

/-- What is known of a project before it is scanned. -/
structure Layout where
  root : Path
  sourceDirectory : String
  metadata : List (String × Value)
  controllerPaths : List Path
deriving Inhabited

/-- The customary source directories. -/
def sourceCandidates : List String := ["src", "app", "lib", "source"]

/-- The source directory of a project that has none. -/
def defaultSource : String := "src"

/-- The first customary directory that holds a source file. -/
def detectSource (tree : FileTree) (root : Path) : String :=
  (sourceCandidates.find? fun name =>
    let p := root.extend [name]
    tree.isDirectory p && !(tree.withExtension p sourceExtension).isEmpty).getD defaultSource

/-- What a file contains that declares a router. -/
def routerMarks : List String := ["APIRouter(", "FastAPI("]

/-- Directories in which no routers are looked for. -/
def unsearchedDirectories : List String :=
  [".git", "__pycache__", ".venv", "venv", "node_modules", "build", "dist"]

/-- The file declares a router. Files that cannot be read are reported and declare none. -/
def declaresRouter {ε : Type} (tree : FileTree) (path : Path) : Logged ε Bool := do
  match tree.readText path with
  | .ok s => return mentionsAny s routerMarks
  | .error fault =>
    Logged.write .warning .project s!"Skipping unreadable file {path}: {fault.message path}"
    return false

/-- The files below a directory that declare routers, in order. -/
def findControllers {ε : Type} (tree : FileTree) (directory : Path) : Logged ε (List Path) := do
  if !tree.isDirectory directory then return []
  else (sourcePaths tree directory unsearchedDirectories).filterM (declaresRouter tree)

/-- The layout of the project at a path. -/
def detectLayout (tree : FileTree) (root : Path) : Logged MetadataFault Layout := do
  let sourceDirectory := detectSource tree root
  let metadata ← readMetadata tree root
  let controllerPaths ← findControllers tree (root.extend [sourceDirectory])
  return { root, sourceDirectory, metadata, controllerPaths }

end RouteAtlas.Project
