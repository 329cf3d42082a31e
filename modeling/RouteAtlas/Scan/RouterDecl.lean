import RouteAtlas.Scan.SourceFile

/-!
# Routers

The variables at the top of a file that hold a router or an application, with the path prefix and the
tags they are declared with.
-/

namespace RouteAtlas.Scan

open RouteAtlas.Syntax

/-- What a router is. -/
inductive RouterKind where
  | router
  | application
deriving Repr, DecidableEq, Inhabited

/-- The kind that a callee makes. -/
def RouterKind.ofName? (s : String) : Option RouterKind :=
  if s = "APIRouter" then some .router else if s = "FastAPI" then some .application else none

/-- A router variable. -/
structure RouterDecl where
  file : SourceFile
  name : String
  kind : RouterKind
  /-- The path in front of its routes, or nothing. -/
  start : String
  tags : List String
deriving Inhabited

/-- The text of a keyword argument; empty if it is absent or no text. -/
def textKeyword (name : String) (keywords : List (Option String × Expr)) : String :=
  ((keyword? name keywords).bind (·.stringConstant?)).getD ""

/-- The texts in a keyword argument that is a list. -/
def textsKeyword (name : String) (keywords : List (Option String × Expr)) : List String :=
  match keyword? name keywords with
  | some (.list items) => items.filterMap (·.stringConstant?)
  | some (.tuple items) => items.filterMap (·.stringConstant?)
  | _ => []

/-- The variable that a statement sets, and its value. -/
def binding? : Stmt → Option (String × Expr)
  | .assign [.name id] value => some (id, value)
  | .annAssign (.name id) _ (some value) => some (id, value)
  | _ => none

/-- The router that a statement declares. -/
def RouterDecl.ofStmt? (file : SourceFile) (s : Stmt) : Option RouterDecl :=
  match binding? s with
  | some (id, .call func _ keywords) =>
    (RouterKind.ofName? func.simpleName).map fun kind =>
      { file, name := id, kind, start := textKeyword "prefix" keywords
        tags := textsKeyword "tags" keywords }
  | _ => none

/-- The routers of a file. -/
def SourceFile.routers (file : SourceFile) : List RouterDecl :=
  file.module.body.filterMap (RouterDecl.ofStmt? file)

end RouteAtlas.Scan
