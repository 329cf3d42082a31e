import RouteAtlas.CommandLine.Run

/-!
# The program

Reads the files below the working directory, runs a call of the program on them, writes back what
changed, and prints what the call printed.
-/

open RouteAtlas RouteAtlas.CommandLine RouteAtlas.Project

namespace RouteAtlas.Main

/-- Plants what stands in a directory. -/
partial def plantAll (tree : FileTree) (entries : Array IO.FS.DirEntry) : IO FileTree :=
  entries.foldlM (fun tree e => do
    let location := (Path.ofString e.path.toString).parts
    if ← e.path.isDir then
      plantAll (tree.plant location .directory) (← e.path.readDir)
    else
      let bytes ← IO.FS.readBinFile e.path
      return tree.plant location (.file bytes.toList)) tree

/-- The files below the working directory. -/
def readWorkingTree : IO FileTree := do
  let directory ← IO.currentDir
  let location := (Path.ofString directory.toString).parts
  plantAll ((⟨[], location⟩ : FileTree).plant location .directory) (← directory.readDir)

/-- Writes what stands in one tree and not in another. -/
def writeChanges (before after : FileTree) : IO Unit := do
  for (location, entry) in after.entries do
    if before.at? location != some entry then
      let path := (Path.ofLocation location).text
      match entry with
      | .directory => IO.FS.createDirAll path
      | .file bytes => IO.FS.writeBinFile path ⟨bytes.toArray⟩

/-- Prints a line: output of the program, or a message beside it. -/
def printLine : OutputLine → IO Unit
  | .said text => IO.println text
  | line => IO.eprintln line.text

end RouteAtlas.Main

/-- Calls the program with the arguments given. -/
def main (arguments : List String) : IO UInt32 := do
  let tree ← Main.readWorkingTree
  let env : Environment := { host := ← IO.getEnv "HOST", port := ← IO.getEnv "PORT" }
  let outcome := run { env } tree arguments
  Main.writeChanges tree outcome.session.tree
  outcome.lines.forM Main.printLine
  return outcome.exitCode.toUInt32
