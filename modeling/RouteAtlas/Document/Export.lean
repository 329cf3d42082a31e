import RouteAtlas.Document.Json
import RouteAtlas.Document.Yaml.Write
import RouteAtlas.Project.FileTree

/-!
# Exporting documents

`dump` turns a document into JSON or YAML text, `exportTo` also writes it into a file tree and makes the
directories above it. An unknown format and a document that cannot be written fail before anything is
changed.

Some faults of the way to the file are not reported as export errors: they break the work off as they
are (`UnreportedFault`). A JSON text keeps surrogates as they are, and a file has no bytes for them; YAML
escapes them. Links, permissions and paths with surrogates are left out.
-/

namespace RouteAtlas.Document

open RouteAtlas.Text RouteAtlas.Project

/-- The output formats. -/
inductive Format where
  | json
  | yaml
deriving Repr, DecidableEq, Inhabited

/-- The name of a format. -/
def Format.name : Format → String
  | .json => "json"
  | .yaml => "yaml"

/-- The format of a name. -/
def Format.ofName? (s : String) : Option Format :=
  if s = "json" then some .json else if s = "yaml" then some .yaml else none

/-- Why a document is not exported. -/
inductive EmitError where
  /-- The document holds a value of a kind that the format cannot write. -/
  | unwritable (format : Format) (value : Value) (kind : String)
  /-- An integer is too long to be written in decimal. -/
  | longInteger (format : Format)
  | unknownFormat (name : String)
  | file (path : Path) (fault : FileFault)
deriving Inhabited

/-- How an error message shows the value that YAML cannot hold. -/
def shownForeign (kind : String) : String :=
  if kind = "object" then "<object object>" else s!"<{kind}>"

/-- The wording of an export error. -/
def EmitError.message : EmitError → String
  | .unwritable .json _ kind =>
    s!"Failed to serialize document as json: Object of type {kind} is not JSON serializable"
  | .unwritable .yaml _ kind =>
    s!"Failed to serialize document as yaml: ('cannot represent an object', {shownForeign kind})"
  | .longInteger format =>
    s!"Failed to serialize document as {format.name}: " ++
      s!"Exceeds the limit ({maxDecimalDigits} digits) for integer string conversion; " ++
      "use sys.set_int_max_str_digits() to increase the limit"
  | .unknownFormat name => s!"Unknown output format: {name}"
  | .file path fault => s!"Failed to write {path}: {fault.message path}"

/-- Lines of their own for every member, two blanks deeper for each level, nothing escaped that need
not be. -/
def prettyJson : JsonStyle := ⟨.indented, false⟩

/-- The text of a document in the named format. Surrogates of a JSON text are shown as escapes. -/
def dump (document : Value) (formatName : String) : Except EmitError String :=
  match Format.ofName? formatName with
  | none => .error (.unknownFormat formatName)
  | some .yaml =>
    match document.yamlForeign? with
    | some kind => .error (.unwritable .yaml document kind)
    | none => if document.hasLongInteger then .error (.longInteger .yaml) else .ok document.yaml
  | some .json =>
    match document.firstForeign? with
    | some kind => .error (.unwritable .json document kind)
    | none =>
      if document.hasLongInteger then .error (.longInteger .json)
      else .ok (document.json prettyJson)

/-- The text of the document has no bytes: surrogates stand in it as they are. -/
def lacksBytes (document : Value) (formatName : String) : Bool :=
  Format.ofName? formatName == some .json && document.hasSurrogate

/-- Why the directories above a file cannot be made. -/
inductive DirectoryFault where
  /-- A file stands where a directory is needed. -/
  | fileExists
  /-- A file stands on the way to it. -/
  | notDirectory
  /-- Nothing stands there and nothing above it can be made. -/
  | missing
  /-- A null character stands in the path. -/
  | nullCharacter
deriving Repr, DecidableEq, Inhabited

/-- Makes one directory whose parent must exist; an existing directory is left alone. -/
def makeDirectory (t : FileTree) (p : Path) : FileTree × Option DirectoryFault :=
  match t.locate p with
  | .error .missing => (t, some .missing)
  | .error .notDirectory => (t, some .notDirectory)
  | .error .nullCharacter => (t, some .nullCharacter)
  | .ok l =>
    match t.at? l with
    | some .directory => (t, none)
    | some (.file _) => (t, some .fileExists)
    | none => (t.put l .directory, none)

/-- Makes a directory, and first those above it that are missing; `depth` bounds how many. The tree
that comes with a fault holds the directories made before it. -/
def makeDirectories (depth : Nat) (t : FileTree) (p : Path) : FileTree × Option DirectoryFault :=
  match makeDirectory t p with
  | (t, some .missing) =>
    match depth with
    | 0 => (t, some .missing)
    | depth + 1 =>
      match makeDirectories depth t p.parent with
      | (t, none) => makeDirectory t p
      | (t, some fault) => (t, some fault)
  | result => result

/-- Writes the text into the file at a path, in place of what it held. -/
def writeText (t : FileTree) (p : Path) (text : String) : FileTree × Option FileFault :=
  match t.locate p with
  | .error e => (t, some (.path e))
  | .ok l =>
    match t.at? l with
    | some .directory => (t, some .isDirectory)
    | _ => (t.put l (.file text.toUTF8.toList), none)

/-- Why the writing of a document breaks off without an export error. -/
inductive UnreportedFault where
  | directory (fault : DirectoryFault)
  /-- A null character stands in the name of the file. -/
  | nullCharacter
  /-- A surrogate stands in the text; the file is left empty. -/
  | surrogate
deriving Repr, DecidableEq, Inhabited

/-- Why a document is not in its file. -/
inductive ExportFault where
  | emit (error : EmitError)
  | unreported (fault : UnreportedFault)
deriving Inhabited

/-- Writes a document into a file and makes the directories above it. -/
def exportTo (t : FileTree) (document : Value) (output : Path) (formatName : String) :
    FileTree × Option ExportFault :=
  match dump document formatName with
  | .error e => (t, some (.emit e))
  | .ok text =>
    match makeDirectories output.parent.parts.length t output.parent with
    | (t, some e) => (t, some (.unreported (.directory e)))
    | (t, none) =>
      let isLacking := lacksBytes document formatName
      match writeText t output (if isLacking then "" else text) with
      | (t, some (.path .nullCharacter)) => (t, some (.unreported .nullCharacter))
      | (t, some e) => (t, some (.emit (.file output e)))
      | (t, none) => (t, if isLacking then some (.unreported .surrogate) else none)

end RouteAtlas.Document
