/-!
# Shapes of types

`TypeShape` describes a declared type: its printed name, and its items, its properties or its union
members where it has any. Nothing forces at most one of the three to be present; where several are,
items come before union members and these before properties.
-/

namespace RouteAtlas.Api

/-- The structure of a declared type. -/
structure TypeShape where
  /-- The type as printed. -/
  text : String
  isArray : Bool := false
  isOptional : Bool := false
  items : Option TypeShape := none
  properties : Option (List (String × TypeShape)) := none
  /-- The printed members of a union. -/
  unionTypes : Option (List String) := none
deriving Repr, BEq, Inhabited

/-- What a shape is, by the first of its parts that is present. -/
inductive TypeKind where
  | array
  | union
  | object
  | primitive
deriving Repr, DecidableEq, Inhabited

/-- The name of a kind. -/
def TypeKind.name : TypeKind → String
  | .array => "array"
  | .union => "union"
  | .object => "object"
  | .primitive => "primitive"

namespace TypeShape

/-- The kind of a shape. -/
def kind (t : TypeShape) : TypeKind :=
  if t.items.isSome then .array
  else if t.unionTypes.isSome then .union
  else if t.properties.isSome then .object
  else .primitive

/-- A shape without parts. -/
def leaf (text : String) (isOptional : Bool) : TypeShape := { text, isOptional }

/-- A union of printed members. -/
def union (text : String) (isOptional : Bool) (members : List String) : TypeShape :=
  { text, isOptional, unionTypes := some members }

/-- A list of items. -/
def array (text : String) (isOptional : Bool) (items : TypeShape) : TypeShape :=
  { text, isOptional, isArray := true, items := some items }

/-- An object with properties. -/
def object (text : String) (isOptional : Bool) (properties : List (String × TypeShape)) :
    TypeShape :=
  { text, isOptional, properties := some properties }

end TypeShape

end RouteAtlas.Api
