import RouteAtlas.Log
import RouteAtlas.Syntax.Printer
import RouteAtlas.Syntax.Source
import RouteAtlas.Text.Cut
import RouteAtlas.Text.LetterCase

/-!
# Classes

The top-level classes of a project by name. Of several classes with one name the first that is met
counts, so the names in an index are distinct.
-/

namespace RouteAtlas.Reflect

open RouteAtlas.Syntax RouteAtlas.Text

/-- The declaration of a class. -/
structure ClassDecl where
  name : String
  bases : List Expr
  keywords : List (Option String × Expr)
  body : List Stmt
deriving Inhabited

/-- The classes of a project in the order in which they were met. -/
structure ClassIndex where
  classes : List ClassDecl
deriving Inhabited

/-- The class that a statement declares. -/
def ClassDecl.ofStmt? : Stmt → Option ClassDecl
  | .classDef name bases keywords body _ => some ⟨name, bases, keywords, body⟩
  | _ => none

namespace ClassIndex

/-- The index without classes. -/
def empty : ClassIndex := ⟨[]⟩

/-- The class of a name. -/
def get? (index : ClassIndex) (name : String) : Option ClassDecl :=
  index.classes.find? (·.name == name)

/-- A class of this name is known. -/
def contains (index : ClassIndex) (name : String) : Bool := (index.get? name).isSome

/-- Adds a class whose name is new. -/
def add (index : ClassIndex) (c : ClassDecl) : ClassIndex :=
  if index.contains c.name then index else ⟨index.classes ++ [c]⟩

/-- Adds the top-level classes of a module; `source` names it in messages on repeated names. -/
def addModule {ε : Type} (index : ClassIndex) (m : Module) (source : String) :
    Logged ε ClassIndex :=
  (m.body.filterMap ClassDecl.ofStmt?).foldlM (fun index c => do
    if index.contains c.name then
      Logged.write .debug .reflection
        s!"Duplicate class {c.name} in {source}, keeping first definition"
    return index.add c) index

end ClassIndex

/-! ## Enumerations -/

/-- The endings of the names of enumeration bases. -/
def enumEndings : List String := ["Enum", "Flag"]

namespace ClassDecl

/-- The class enumerates values. -/
def isEnum (c : ClassDecl) : Bool :=
  c.bases.any fun b => enumEndings.any (endsIn b.simpleName)

/-- The printed value of an enumeration member: a constant as it is, any other value by the member's
name in lower case. -/
def memberValue (name : String) : Expr → Option String
  | .constant c => if c.isPrintable then some c.shown else none
  | _ => some (quoted (lowercase name))

/-- The public members of an enumeration that a statement assigns. -/
def enumMember? : Stmt → Option (String × Expr)
  | .assign [.name id] value => if beginsWith id "_" then none else some (id, value)
  | _ => none

/-- The printed values of an enumeration, or nothing if one of them cannot be printed. -/
def enumValues? (c : ClassDecl) : Option (List String) :=
  (c.body.filterMap enumMember?).mapM fun (name, value) => memberValue name value

end ClassDecl

end RouteAtlas.Reflect
