import RouteAtlas.Api.Controller
import RouteAtlas.Reflect.Reflection
import RouteAtlas.Scan.SourceFile

/-!
# Binding parameters

Where a handler's parameter takes its value from: a marker in its annotation or its default decides,
then a placeholder of its name in the route, then its type. Names that a module gives to marked
annotations stand for them.
-/

namespace RouteAtlas.Scan

open RouteAtlas.Api RouteAtlas.Document RouteAtlas.Reflect RouteAtlas.Syntax

/-- Why a handler cannot be described. -/
inductive HandlerFault where
  | reflection (fault : ReflectFault)
  /-- A marked annotation has no arguments at all. -/
  | emptyHint
deriving Repr, DecidableEq, Inhabited

/-- The annotations that names stand for. -/
abbrev Aliases := List (String × Expr)

/-- The marker of annotations with metadata. -/
def annotatedName : String := "Annotated"

/-- The alias that a statement defines. -/
def aliasOf? : Stmt → Option (String × Expr)
  | .assign [.name id] value => if isGeneric annotatedName value then some (id, value) else none
  | _ => none

/-- The aliases of all files; the last definition of a name counts. -/
def aliasesOf (files : List SourceFile) : Aliases :=
  (files.flatMap fun f => f.module.body.filterMap aliasOf?).reverse

/-- The annotation that a name stands for, where it is an alias. -/
def resolveAlias (aliases : Aliases) : Option Expr → Option Expr
  | some (.name id) => some ((field? id aliases).getD (.name id))
  | e => e

/-- A marker of a parameter: a call that says where the value comes from. -/
structure Marker where
  name : String
  source : ParameterSource
  args : List Expr
  keywords : List (Option String × Expr)
deriving Inhabited

/-- The markers and the sources they stand for. -/
def markerSources : List (String × ParameterSource) :=
  [("Body", .body), ("Form", .body), ("File", .body), ("Query", .query), ("Path", .path),
    ("Depends", .none), ("Security", .none), ("Header", .none), ("Cookie", .none)]

/-- The marker that an expression is. -/
def Marker.ofExpr? : Expr → Option Marker
  | .call func args keywords =>
    (field? func.simpleName markerSources).map fun source =>
      ⟨func.simpleName, source, args, keywords⟩
  | _ => none

/-- Types that the framework supplies by itself. -/
def suppliedNames : List String :=
  ["Request", "Response", "BackgroundTasks", "WebSocket", "HTTPConnection"]

/-- A dependency on the annotated class itself. -/
def Marker.isClassDependency (m : Marker) : Bool :=
  m.name == "Depends" && m.args.isEmpty && m.keywords.all (·.1 == some "use_cache")

/-- The parts of a parameter's annotation: the type and the marker. -/
structure MarkedHint where
  type : Option Expr
  marker : Option Marker
deriving Inhabited

/-- Takes an annotation with metadata apart; of several markers the last counts. -/
def MarkedHint.ofExpr (e : Option Expr) : Except HandlerFault MarkedHint :=
  match e with
  | some (.subscript value index) =>
    if value.simpleName = annotatedName then
      match Expr.subscriptArgs index with
      | [] => .error .emptyHint
      | type :: metadata => .ok ⟨some type, (metadata.filterMap Marker.ofExpr?).getLast?⟩
    else .ok ⟨e, none⟩
  | _ => .ok ⟨e, none⟩

/-- A parameter may be left out: its marker or its default says so. A marker in the place of the
default is no default of its own. -/
def isOptionalBinding (inHint inDefault : Option Marker) (default : Option Expr) : Bool :=
  match inHint, inDefault with
  | some m, _ => callHasDefault m.args m.keywords || default.isSome
  | none, some m => callHasDefault m.args m.keywords
  | none, none => default.any (!·.isEllipsis)

/-- An object, or a list of objects. -/
def isStructured (t : TypeShape) : Bool :=
  t.kind == .object || (t.kind == .array && t.items.any (·.kind == .object))

/-- The source of a parameter. -/
def sourceOf (pathNames : List String) (name : String) (hint : Option Expr)
    (marker : Option Marker) (t : TypeShape) : ParameterSource :=
  match marker with
  | some m => if m.isClassDependency && t.kind == .object then .query else m.source
  | none =>
    if pathNames.contains name then .path
    else if hint.any fun e => suppliedNames.contains e.simpleName then .none
    else if isStructured t then .body
    else .query

/-- The marker asks for a body that holds the parameter by name. -/
def asksToEmbed (m : Marker) : Bool := (keyword? "embed" m.keywords).any (·.isTrue)

/-- The binding of a parameter of a handler whose route has these placeholders. -/
def bindParameter (index : ClassIndex) (aliases : Aliases) (pathNames : List String)
    (p : Param Expr) (default : Option Expr) : Except HandlerFault Parameter := do
  let marked ← MarkedHint.ofExpr (resolveAlias aliases p.hint)
  let inDefault := default.bind Marker.ofExpr?
  let marker := marked.marker.or inDefault
  let isOptional := isOptionalBinding marked.marker inDefault default
  let type ← (reflectHint index isOptional marked.type).mapError .reflection
  let source := sourceOf pathNames p.name marked.type marker type
  return { name := p.name, type, source, embed := source == .body && marker.any asksToEmbed }

end RouteAtlas.Scan
