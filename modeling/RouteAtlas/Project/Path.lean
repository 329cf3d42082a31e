import RouteAtlas.Text.Cut

/-!
# Paths

A path is a root, empty for relative paths, and a list of names. Reading drops empty names and single
dots and keeps double dots; printing gives the shortest spelling.
-/

namespace RouteAtlas.Project

open RouteAtlas.Text

/-- A path of the file system. -/
structure Path where
  /-- Empty, `/`, or `//` where exactly two slashes lead. -/
  root : String
  parts : List String
deriving Repr, DecidableEq, Inhabited

namespace Path

/-- Reads a path. -/
def ofString (s : String) : Path :=
  let slashes := (s.toList.takeWhile (· == '/')).length
  { root := if slashes = 0 then "" else if slashes = 2 then "//" else "/"
    parts := (splitAt '/' s).filter fun n => n != "" && n != "." }

/-- An absolute path from the names on the way to it. -/
def ofLocation (names : List String) : Path := ⟨"/", names⟩

/-- The text of a path; the empty relative path is a dot. -/
def text (p : Path) : String :=
  if p.root.isEmpty ∧ p.parts.isEmpty then "." else p.root ++ "/".intercalate p.parts

instance : ToString Path := ⟨text⟩

/-- The path starts at the root of the file system. -/
def isAbsolute (p : Path) : Bool := !p.root.isEmpty

/-- `q` as seen from `p`: an absolute `q` stands alone. -/
def join (p q : Path) : Path := if q.isAbsolute then q else ⟨p.root, p.parts ++ q.parts⟩

/-- The path with names added. -/
def extend (p : Path) (names : List String) : Path := ⟨p.root, p.parts ++ names⟩

/-- The path one name shorter. -/
def parent (p : Path) : Path := ⟨p.root, p.parts.dropLast⟩

/-- A null character stands in one of the names; no file system takes such a path. -/
def hasNull (p : Path) : Bool := p.parts.any (·.toList.contains '\x00')

/-- The last name, or nothing. -/
def name (p : Path) : String := p.parts.getLast?.getD ""

/-- The last name without its extension; a name that only begins or ends with a dot has none. -/
def stem (p : Path) : String :=
  match beforeLast? '.' p.name with
  | some s => if s.isEmpty || endsIn p.name "." then p.name else s
  | none => p.name

end Path

end RouteAtlas.Project
