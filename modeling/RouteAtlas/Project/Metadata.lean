import RouteAtlas.Api.Defaults
import RouteAtlas.Document.Toml.Read
import RouteAtlas.Log
import RouteAtlas.Project.FileTree

/-!
# Project metadata

The file `pyproject.toml` of a project. A project without the file, or with one that is no TOML, has no
metadata; name and version are values of any kind.
-/

namespace RouteAtlas.Project

open RouteAtlas.Api RouteAtlas.Document RouteAtlas.Text

/-- Why metadata cannot be used. -/
inductive MetadataFault where
  /-- The file is not UTF-8. -/
  | undecodable
  /-- The file holds an integer with more digits than are read. -/
  | longInteger
  /-- A value stands where a table is needed. -/
  | noTable
deriving Repr, DecidableEq, Inhabited

/-- The name of the metadata file. -/
def metadataFile : String := "pyproject.toml"

/-- The metadata of the project at a path. -/
def readMetadata (tree : FileTree) (root : Path) :
    Logged MetadataFault (List (String × Value)) := do
  let path := root.extend [metadataFile]
  let unusable (reason : String) : Logged MetadataFault (List (String × Value)) := do
    Logged.write .warning .project s!"Could not parse {path}: {reason}"
    return []
  if !tree.exists? path then return []
  match tree.readBytes path with
  | .error fault => unusable (fault.message path)
  | .ok bytes =>
    match Utf8.decode bytes with
    | .error _ => throw .undecodable
    | .ok s =>
      match Toml.read s with
      | .ok fields => return fields
      | .error .longInteger => throw .longInteger
      | .error .malformed => unusable "not a TOML document"

/-- The table in a field; an absent one is empty. -/
def tableOf (name : String) (fields : List (String × Value)) :
    Except MetadataFault (List (String × Value)) :=
  match field? name fields with
  | none => .ok []
  | some (.map table) => .ok table
  | some _ => .error .noTable

/-- A value that counts as present. -/
def present? (v : Option Value) : Option Value := v.filter (!·.isEmpty)

/-- A field of the project table, if it is present. -/
def projectField (name : String) (metadata : List (String × Value)) :
    Except MetadataFault (Option Value) := do
  return present? (field? name (← tableOf "project" metadata))

/-- The name of the project at a path. -/
def projectName (tree : FileTree) (root : Path) : Logged MetadataFault Value := do
  return (← projectField "name" (← readMetadata tree root)).getD (.str defaultTitle)

/-- The version of the project at a path. -/
def projectVersion (tree : FileTree) (root : Path) : Logged MetadataFault Value := do
  return (← projectField "version" (← readMetadata tree root)).getD (.str defaultVersion)

end RouteAtlas.Project
