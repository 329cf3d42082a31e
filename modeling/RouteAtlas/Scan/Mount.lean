import RouteAtlas.Document.Value
import RouteAtlas.Routing.RoutePath
import RouteAtlas.Scan.RouterDecl
import RouteAtlas.Syntax.Stmt

/-!
# Mounts

Where routers are included, with the path prefix and tags that the inclusion adds. A mount names its
router by module and variable, as far as the imports of the including file tell; of several mounts of
one router the first counts, file by file and within a file from the outside in.
-/

namespace RouteAtlas.Scan

open RouteAtlas.Document RouteAtlas.Routing RouteAtlas.Syntax RouteAtlas.Text

/-- What an imported name stands for. -/
inductive Imported where
  | module (name : String)
  | member (owner name : String)
deriving Repr, DecidableEq, Inhabited

/-- The last name of a dotted name. -/
def lastName (s : String) : String := afterLast '.' s

/-- The reference as one text. -/
def Imported.text : Imported → String
  | .module name => name
  | .member owner name => owner ++ "." ++ name

/-- The names that are imported as members even without a new name. -/
def routerNames : List String := ["router", "app"]

/-- The local names that a statement imports, with what they stand for. -/
def importedBy : Stmt → List (String × Imported)
  | .importFrom (some source) names =>
    if source.isEmpty then []
    else names.map fun (name, local?) =>
      (local?.getD name,
        if routerNames.contains name || local?.isSome then .member (lastName source) name
        else .module name)
  | .importNames names => names.map fun (name, local?) => (local?.getD name, .module (lastName name))
  | _ => []

/-- The names that a module imports at its top. -/
def importsOf (m : Module) : List (String × Imported) := ofFields (m.body.flatMap importedBy)

/-- A router by module and variable. -/
structure RouterKey where
  moduleName : String
  name : String
deriving Repr, DecidableEq, Inhabited

/-- The key of a router. -/
def RouterDecl.key (r : RouterDecl) : RouterKey := ⟨r.file.moduleName, r.name⟩

/-- What an inclusion adds to a router. -/
structure Mount where
  start : String
  tags : List String
deriving Repr, DecidableEq, Inhabited

/-- The first value of a key. -/
def firstOf? {α : Type} (key : RouterKey) (entries : List (RouterKey × α)) : Option α :=
  (entries.find? (·.1 == key)).map (·.2)

/-- Prefixes joined to one path; nothing if all are empty. -/
def joinStarts (a b : String) : String :=
  if a.isEmpty && b.isEmpty then "" else joinPath a b

/-- The router that an inclusion names. -/
def mountedKey? (moduleName : String) (imports : List (String × Imported)) :
    Expr → Option RouterKey
  | .attribute (.name id) attr => some ⟨((field? id imports).map (·.text)).getD id, attr⟩
  | .name id =>
    match field? id imports with
    | some (.member owner name) => some ⟨owner, name⟩
    | _ => some ⟨moduleName, id⟩
  | _ => none

/-- The prefix that a router is declared with; the last declaration of a name counts. -/
def declaredStart (routers : List RouterDecl) (key : RouterKey) : String :=
  ((routers.reverse.find? (·.key == key)).map (·.start)).getD ""

/-- The mount that a call makes. -/
def mountOfCall? (routers : List RouterDecl) (moduleName : String)
    (imports : List (String × Imported)) (c : Call) : Option (RouterKey × Mount) :=
  match c.func, c.args with
  | .attribute owner "include_router", target :: _ =>
    (mountedKey? moduleName imports target).map fun key =>
      let outer := match owner with
        | .name id => declaredStart routers ⟨moduleName, id⟩
        | _ => ""
      (key, ⟨joinStarts outer (textKeyword "prefix" c.keywords), textsKeyword "tags" c.keywords⟩)
  | _, _ => none

/-- The mounts of a file, in order. -/
def SourceFile.mounts (routers : List RouterDecl) (file : SourceFile) : List (RouterKey × Mount) :=
  file.module.calls.filterMap
    (mountOfCall? routers file.moduleName (importsOf file.module))

/-- The mounts of all files, in order. -/
def mountsOf (files : List SourceFile) (routers : List RouterDecl) : List (RouterKey × Mount) :=
  files.flatMap (·.mounts routers)

/-- The mount of a router; one that is not included has nothing added. -/
def mountOf (mounts : List (RouterKey × Mount)) (r : RouterDecl) : Mount :=
  (firstOf? r.key mounts).getD ⟨"", []⟩

end RouteAtlas.Scan
