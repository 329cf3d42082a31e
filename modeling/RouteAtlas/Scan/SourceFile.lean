import RouteAtlas.Project.FileTree
import RouteAtlas.Syntax.Source

/-!
# Source files

The Python files below a directory, read in the order of their paths. A file that cannot be read or is
malformed stops the reading; the directories of tools and of installed packages are passed over.
-/

namespace RouteAtlas.Scan

open RouteAtlas.Project RouteAtlas.Syntax

/-- A source file. -/
structure SourceFile where
  path : Path
  module : Module
deriving Inhabited

/-- The name under which other files import the file: a package has the name of its directory. -/
def SourceFile.moduleName (f : SourceFile) : String :=
  if f.path.stem = "__init__" then f.path.parent.name else f.path.stem

/-- Why a file is no source file. -/
inductive SourceFault where
  | read (fault : ReadFault)
  | malformed (fault : SyntaxFault)
deriving Repr, DecidableEq, Inhabited

/-- The wording of a source fault at a path. -/
def SourceFault.message (path : Path) : SourceFault → String
  | .read fault => fault.message path
  | .malformed _ => "SyntaxError"

/-- The extension of source files. -/
def sourceExtension : String := ".py"

/-- Directories that hold no sources of the project. -/
def skippedDirectories : List String :=
  [".git", "__pycache__", ".venv", "venv", "node_modules", "build", "dist", "site-packages", ".tox"]

/-- The paths of the sources below a directory, in order, without those in skipped directories. -/
def sourcePaths (tree : FileTree) (root : Path) (skipped : List String) : List Path :=
  ((tree.withExtension root sourceExtension).filter fun (names, _) =>
    !names.any skipped.contains).map fun (names, _) => root.extend names

/-- Reads a source file. -/
def readSourceFile (tree : FileTree) (path : Path) : Except SourceFault SourceFile :=
  match tree.readText path with
  | .error fault => .error (.read fault)
  | .ok text =>
    match readModule text with
    | .error fault => .error (.malformed fault)
    | .ok module => .ok ⟨path, module⟩

/-- Reads source files up to the first that fails. -/
def readSourceFiles (tree : FileTree) : List Path → Except (Path × SourceFault) (List SourceFile)
  | [] => .ok []
  | path :: r =>
    match readSourceFile tree path with
    | .error fault => .error (path, fault)
    | .ok file => (readSourceFiles tree r).map (file :: ·)

end RouteAtlas.Scan
