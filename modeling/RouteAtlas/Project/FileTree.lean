import RouteAtlas.Project.Path
import RouteAtlas.Text.Quoted
import RouteAtlas.Text.Utf8

/-!
# File trees

The part of a file system that a project can show, as a value: what stands at each location, and the
directory that relative paths start from. Looking up a path follows it name by name, so a name after a
missing directory or after a file finds nothing, whatever comes later; a path with a null character is
refused as a whole. Links, permissions and names that are no text are left out.
-/

namespace RouteAtlas.Project

open RouteAtlas.Text

/-- The names on the way from the root of the file system. -/
abbrev Location := List String

/-- What stands at a location. -/
inductive Entry where
  | file (bytes : List UInt8)
  | directory
deriving Repr, DecidableEq, Inhabited

/-- A file tree and its working directory. -/
structure FileTree where
  entries : List (Location × Entry)
  cwd : Location
deriving Repr, Inhabited

/-- Why a path leads nowhere. -/
inductive PathFault where
  /-- A directory on the way does not exist. -/
  | missing
  /-- A file stands on the way. -/
  | notDirectory
  /-- A null character stands in the path. -/
  | nullCharacter
deriving Repr, DecidableEq, Inhabited

/-- Why a file cannot be read or written. -/
inductive FileFault where
  | path (fault : PathFault)
  | isDirectory
deriving Repr, DecidableEq, Inhabited

/-- The wording of a file fault at a path. -/
def FileFault.message (path : Path) : FileFault → String
  | .path .missing => s!"[Errno 2] No such file or directory: {quoted path.text}"
  | .path .notDirectory => s!"[Errno 20] Not a directory: {quoted path.text}"
  | .path .nullCharacter => "embedded null byte"
  | .isDirectory => s!"[Errno 21] Is a directory: {quoted path.text}"

namespace FileTree

/-- What stands at a location; the root is a directory. -/
def at? (t : FileTree) (l : Location) : Option Entry :=
  if l.isEmpty then some .directory else (t.entries.find? (·.1 == l)).map (·.2)

/-- Puts an entry at a location. -/
def put (t : FileTree) (l : Location) (e : Entry) : FileTree :=
  { t with entries := (t.entries.filter (·.1 != l)) ++ [(l, e)] }

/-- Follows names from a location. -/
def follow (t : FileTree) (l : Location) : List String → Except PathFault Location
  | [] => .ok l
  | n :: r =>
    match t.at? l with
    | none => .error .missing
    | some (.file _) => .error .notDirectory
    | some .directory => follow t (if n = ".." then l.dropLast else l ++ [n]) r

/-- The location a path leads to, whether or not something stands there. -/
def locate (t : FileTree) (p : Path) : Except PathFault Location :=
  if p.hasNull then .error .nullCharacter
  else t.follow (if p.isAbsolute then [] else t.cwd) p.parts

/-- What stands at a path. -/
def lookup? (t : FileTree) (p : Path) : Option Entry :=
  match t.locate p with
  | .ok l => t.at? l
  | .error _ => none

/-- Something stands at the path. -/
def exists? (t : FileTree) (p : Path) : Bool := (t.lookup? p).isSome

/-- A directory stands at the path. -/
def isDirectory (t : FileTree) (p : Path) : Bool := t.lookup? p == some .directory

/-- The path of a directory has no null character. -/
theorem hasNull_of_isDirectory {t : FileTree} {p : Path} (h : t.isDirectory p = true) :
    p.hasNull = false := by
  cases hnull : p.hasNull with
  | false => rfl
  | true =>
    have hnothing : t.lookup? p = none := by
      unfold lookup? locate
      rw [if_pos hnull]
    rw [isDirectory, hnothing] at h
    cases h

/-- The bytes of the file at a path. -/
def readBytes (t : FileTree) (p : Path) : Except FileFault (List UInt8) :=
  match t.locate p with
  | .error e => .error (.path e)
  | .ok l =>
    match t.at? l with
    | none => .error (.path .missing)
    | some .directory => .error .isDirectory
    | some (.file bytes) => .ok bytes

/-- The absolute path that a path stands for, double dots resolved by the names alone. -/
def resolve (t : FileTree) (p : Path) : Path :=
  let start := if p.isAbsolute then [] else t.cwd
  .ofLocation (p.parts.foldl (fun l n => if n = ".." then l.dropLast else l ++ [n]) start)

/-- The entries below a location, by the names that lead to them from there. -/
def below (t : FileTree) (l : Location) : List (List String × Entry) :=
  t.entries.filterMap fun (at', e) =>
    if l.isPrefixOf at' && l.length < at'.length then some (at'.drop l.length, e) else none

/-- The order of paths: name by name, each by its code points. -/
def namesLe : List String → List String → Bool
  | [], _ => true
  | _ :: _, [] => false
  | a :: r, b :: s => a < b || (a == b && namesLe r s)

/-- The entries below a directory whose name ends so, in the order of paths. -/
def withExtension (t : FileTree) (p : Path) (extension : String) : List (List String × Entry) :=
  match t.locate p with
  | .error _ => []
  | .ok l =>
    ((t.below l).filter fun (names, _) => endsIn (names.getLast?.getD "") extension).mergeSort
      fun a b => namesLe a.1 b.1

/-- The location and all directories on the way to it exist. -/
def putDirectories (t : FileTree) (l : Location) : FileTree :=
  (List.range l.length).foldl (fun t i =>
    let l := l.take (i + 1)
    if (t.at? l).isSome then t else t.put l .directory) t

/-- Puts an entry with the directories on the way to it. -/
def plant (t : FileTree) (l : Location) (e : Entry) : FileTree :=
  (t.putDirectories l.dropLast).put l e

end FileTree

/-- Line ends of all kinds become single line feeds. -/
def unifyLineEnds : List Char → List Char
  | '\r' :: '\n' :: r => '\n' :: unifyLineEnds r
  | '\r' :: r => '\n' :: unifyLineEnds r
  | c :: r => c :: unifyLineEnds r
  | [] => []

/-- Why a text cannot be read. -/
inductive ReadFault where
  | file (fault : FileFault)
  | encoding (error : Utf8Error)
deriving Repr, DecidableEq, Inhabited

/-- The wording of a read fault at a path. -/
def ReadFault.message (path : Path) : ReadFault → String
  | .file fault => fault.message path
  | .encoding error => error.message

/-- The text of the file at a path, its line ends unified. -/
def FileTree.readText (t : FileTree) (p : Path) : Except ReadFault String :=
  match t.readBytes p with
  | .error e => .error (.file e)
  | .ok bytes =>
    match Utf8.decode bytes with
    | .error e => .error (.encoding e)
    | .ok s => .ok (String.ofList (unifyLineEnds s.toList))

end RouteAtlas.Project
