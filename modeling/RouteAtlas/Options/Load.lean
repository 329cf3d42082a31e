import RouteAtlas.Document.Yaml.Read
import RouteAtlas.Options.Options
import RouteAtlas.Project.Metadata

/-!
# Loading options

Options come from one place alone: the file that is asked for, else `scramble.yaml` in the project,
else the table `tool.api-scramble` of its metadata. A file that cannot be read, or holds no mapping,
leaves the defaults and a warning; wrong values are a fault.
-/

namespace RouteAtlas

open RouteAtlas.Document RouteAtlas.Project RouteAtlas.Text

/-- Why options cannot be loaded. -/
inductive OptionsFault where
  | invalid (faults : List LocatedFault)
  | metadata (fault : MetadataFault)
  /-- The file is not UTF-8. -/
  | undecodable
  /-- The file holds a value that does not exist. -/
  | value (fault : Yaml.YamlFault)
deriving Repr, DecidableEq, Inhabited

/-- The wording of wrong values. -/
def invalidOptionsMessage (faults : List LocatedFault) : String :=
  "Invalid api-scramble options: " ++
    ", ".intercalate (faults.map fun f => f.place ++ " " ++ f.fault.code)

/-- The name of the options file. -/
def optionsFile : String := "scramble.yaml"

/-- Fields of configuration data. -/
abbrev ConfigData := List (String × Value)

/-- Work that loads options. -/
abbrev Loading := Logged OptionsFault

/-- Writes a warning about options. -/
def warnOptions (text : String) : Loading Unit := Logged.write .warning .options text

/-- The fields in a configuration file. -/
def readConfigFile (tree : FileTree) (path : Path) : Loading ConfigData := do
  let unreadable (reason : String) : Loading ConfigData := do
    warnOptions s!"Could not read {path}, using default options: {reason}"
    return []
  match tree.readText path with
  | .error (.encoding _) => throw .undecodable
  | .error fault => unreadable (fault.message path)
  | .ok s =>
    match Yaml.read s with
    | .error .malformed => unreadable "not a YAML document"
    | .error fault => throw (.value fault)
    | .ok .null => return []
    | .ok (.map fields) => return fields
    | .ok _ =>
      warnOptions s!"{path} does not contain a mapping, using default options"
      return []

/-- The fields in the metadata of a project. -/
def readMetadataOptions (tree : FileTree) (root : Path) : Loading ConfigData := do
  let metadata ← Logged.mapFault .metadata (readMetadata tree root)
  let options := do tableOf "api-scramble" (← tableOf "tool" metadata)
  match options with
  | .ok fields => return fields
  | .error fault => throw (.metadata fault)

/-- The fields that configure a project. -/
def readConfigData (tree : FileTree) (config : Option Path) (root : Path) : Loading ConfigData := do
  let path := config.getD (root.extend [optionsFile])
  if tree.exists? path then readConfigFile tree path
  else if config.isSome then
    warnOptions s!"Config file not found: {path}, using default options"
    return []
  else readMetadataOptions tree root

/-- The fields under the names of options, where a hyphen counts as an underscore. -/
def withOptionNames (fields : ConfigData) : ConfigData :=
  ofFields (fields.map fun (name, v) => (substitute '-' '_' name, v))

/-- The options of a project. -/
def loadOptions (tree : FileTree) (config : Option Path) (root : Path) : Loading Options := do
  match Options.ofFields (withOptionNames (← readConfigData tree config root)) with
  | .valid options => return options
  | .invalid faults => throw (.invalid faults)

end RouteAtlas
