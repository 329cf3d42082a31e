import RouteAtlas.Routing.RoutePath
import RouteAtlas.Scan.Binding
import RouteAtlas.Scan.Mount
import RouteAtlas.Syntax.Stmt
import RouteAtlas.Text.LetterCase

/-!
# Handlers

Functions at the top of a file that are decorated as routes of a router. One function gives an endpoint
for each of its route decorators.
-/

namespace RouteAtlas.Scan

open RouteAtlas.Api RouteAtlas.Reflect RouteAtlas.Routing RouteAtlas.Syntax RouteAtlas.Text

/-- The declaration of a function. -/
structure FunctionDecl where
  name : String
  signature : Signature Expr
  body : List Stmt
  decorators : List Expr
  returns : Option Expr
deriving Inhabited

/-- The function that a statement declares. -/
def FunctionDecl.ofStmt? : Stmt → Option FunctionDecl
  | .function name signature body decorators returns =>
    some ⟨name, signature, body, decorators, returns⟩
  | _ => none

/-- The verbs that decorators name. -/
def decoratorVerbs : List String := ["get", "post", "put", "delete", "patch"]

/-- A decorator that makes a function a route. -/
structure RouteDecorator where
  verb : String
  args : List Expr
  keywords : List (Option String × Expr)
deriving Inhabited

/-- The route decorator of a router that an expression is. -/
def RouteDecorator.ofExpr? (router : String) : Expr → Option RouteDecorator
  | .call (.attribute (.name owner) verb) args keywords =>
    if owner = router ∧ decoratorVerbs.contains verb then some ⟨verb, args, keywords⟩ else none
  | _ => none

namespace RouteDecorator

/-- The path of the route as it is written. -/
def declaredPath (d : RouteDecorator) : String :=
  (d.args.head?.bind (·.stringConstant?)).getD (textKeyword "path" d.keywords)

/-- The annotation of what the route returns: the model that the decorator names, else that of the
function. -/
def returnHint (d : RouteDecorator) (f : FunctionDecl) : Option Expr :=
  match keyword? "response_model" d.keywords with
  | some e => if e.isNoneConstant then f.returns else some e
  | none => f.returns

/-- The number in a name that begins `HTTP_` and three digits. -/
def statusOfName? (name : String) : Option Int :=
  match dropInitial? "HTTP_".toList name.toList with
  | some (a :: b :: c :: _) => do
    let a ← decimalDigit? a
    let b ← decimalDigit? b
    let c ← decimalDigit? c
    return (100 * a + 10 * b + c : Nat)
  | _ => none

/-- The status that the decorator names. -/
def statusCode (d : RouteDecorator) : Option Int :=
  match keyword? "status_code" d.keywords with
  | some (.constant (.int n)) => some n
  | some (.constant (.bool b)) => some (if b then 1 else 0)
  | some (.attribute _ name) => statusOfName? name
  | _ => none

end RouteDecorator

/-- Parameters that name the object of a method. -/
def receiverNames : List String := ["self", "cls"]

/-- The parameters of a handler with their defaults. -/
def FunctionDecl.parameters (f : FunctionDecl) : List (Param Expr × Option Expr) :=
  f.signature.bindings.filter fun (p, _) => !receiverNames.contains p.name

/-- The first line of a function's docstring. -/
def FunctionDecl.summary (f : FunctionDecl) : String :=
  (splitAt '\n' (trimBlanks ((docstring? f.body).getD ""))).headD ""

/-- The endpoint that a decorator makes of a function. -/
def endpointOf (index : ClassIndex) (aliases : Aliases) (f : FunctionDecl) (d : RouteDecorator) :
    Except HandlerFault Endpoint := do
  let parameters ← f.parameters.mapM fun (p, default) =>
    bindParameter index aliases (placeholderNames d.declaredPath) p default
  let returnType ← (reflectHint index false (resolveAlias aliases (d.returnHint f))).mapError
    .reflection
  return {
    name := f.name, verb := uppercase d.verb, route := normalizeRoute d.declaredPath, parameters
    returnType, statusCode := d.statusCode, summary := f.summary }

/-- The functions of a module with their route decorators for a router, in order. -/
def handlersOf (m : Module) (router : String) : List (FunctionDecl × RouteDecorator) :=
  (m.body.filterMap FunctionDecl.ofStmt?).flatMap fun f =>
    (f.decorators.filterMap (RouteDecorator.ofExpr? router)).map (f, ·)

end RouteAtlas.Scan
