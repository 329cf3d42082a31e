import RouteAtlas.Reflect.TypeForm
import RouteAtlas.Reflect.ClassIndex

/-!
# Declared fields

The public annotated attributes of a class body and whether they may be left out: by a default, by a
marker on the annotation, or because the class declares that its fields are not required.
-/

namespace RouteAtlas.Reflect

open RouteAtlas.Syntax RouteAtlas.Text

/-- A field of a class. -/
structure FieldDecl where
  name : String
  hint : Expr
  isOptional : Bool
deriving Inhabited

/-- A call of a field or parameter marker gives a default. -/
def callHasDefault (args : List Expr) (keywords : List (Option String × Expr)) : Bool :=
  keywords.any (fun (name, _) => name == some "default" || name == some "default_factory") ||
    args.head?.any (!·.isEllipsis)

/-- The assigned value of an attribute gives it a default. -/
def hasDefault : Option Expr → Bool
  | none => false
  | some (.call func args keywords) =>
    if ["Field", "field"].contains func.simpleName then callHasDefault args keywords else true
  | some _ => true

/-- A constant counts as true. -/
def isTruthy : Constant → Bool
  | .none => false
  | .bool b => b
  | .ellipsis => true
  | .int n => n != 0
  | .float x => x != 0.0
  | .imaginary x => x != 0.0
  | .str s _ => !s.isEmpty
  | .surrogate _ _ => true
  | .bytes bs => !bs.isEmpty

/-- The value of a keyword that is set to a constant. -/
def constantKeyword? (name : String) (keywords : List (Option String × Expr)) : Option Constant :=
  keywords.findSome? fun (k, e) =>
    match e with
    | .constant c => if k == some name then some c else none
    | _ => none

/-- The fields of the class are required unless something else is said. -/
def ClassDecl.isTotal (c : ClassDecl) : Bool := (constantKeyword? "total" c.keywords).all isTruthy

/-- Annotated attributes that configure the class. -/
def configurationNames : List String := ["model_config"]

/-- The field that a statement declares. -/
def fieldDecl? (isTotal : Bool) : Stmt → Option FieldDecl
  | .annAssign (.name id) hint value =>
    if beginsWith id "_" || configurationNames.contains id || isGeneric "ClassVar" hint then none
    else some {
      name := id, hint
      isOptional := !isGeneric "Required" hint &&
        (hasDefault value || !isTotal || isGeneric "NotRequired" hint) }
  | _ => none

/-- The fields that a class itself declares. -/
def ClassDecl.fieldDecls (c : ClassDecl) : List FieldDecl := c.body.filterMap (fieldDecl? c.isTotal)

end RouteAtlas.Reflect
