import RouteAtlas.Api.TypeShape
import RouteAtlas.Schema.TypeSchema

/-!
# The registry of components

Object types become components: the first that is met under a name is stored, and every use refers to
it. A name is entered before its schema is built, so a type that meets itself again refers to itself.
-/

namespace RouteAtlas.Schema

open RouteAtlas.Api RouteAtlas.Document

/-- Named components in the order of their names' entry. -/
structure Registry (σ : Type) where
  components : List (String × σ)
deriving Repr, BEq, Inhabited

namespace Registry

variable {σ : Type}

/-- The registry without components. -/
def empty : Registry σ := ⟨[]⟩

/-- A component of this name is entered. -/
def contains (r : Registry σ) (name : String) : Bool := (field? name r.components).isSome

/-- The names in order of entry. -/
def names (r : Registry σ) : List String := r.components.map (·.1)

/-- Enters or replaces the component of a name. -/
def set (r : Registry σ) (name : String) (s : σ) : Registry σ := ⟨setField name s r.components⟩

/-- Enters a component under a name that is new: `placeholder` while `build` runs on the registry, then
what it gives. -/
def register (r : Registry σ) (name : String) (placeholder : σ) (build : Registry σ → σ × Registry σ) :
    Registry σ :=
  if r.contains name then r
  else
    let (s, r) := build (r.set name placeholder)
    r.set name s

end Registry

/-- The schema of a leaf: a reference where its name is a component. -/
def leafSchema (r : Registry TypeSchema) (typeName : String) : TypeSchema :=
  if r.contains typeName then .reference typeName else ofTypeName typeName

/-- The name under which an object type is entered. -/
def componentName (typeName : String) : String := if typeName.isEmpty then "Object" else typeName

/-- The names of the properties that an object must have. -/
def requiredNames (properties : List (String × TypeShape)) : List String :=
  (properties.filter fun (_, t) => !t.isOptional).map (·.1)

mutual

/-- The schema of a type, and the registry with the components that it needs. -/
def schemaOf (r : Registry TypeSchema) : TypeShape → TypeSchema × Registry TypeSchema
  | ⟨_, _, _, some items, _, _⟩ =>
    let (s, r) := schemaOf r items
    (.array s, r)
  | ⟨_, _, _, none, _, some members⟩ => (.oneOf (members.map ofTypeName), r)
  | ⟨text, _, _, none, some properties, none⟩ =>
    let name := componentName text
    (.reference name, r.register name .any fun r =>
      let (fields, r) := propertySchemas r properties
      (.object (ofFields fields) (requiredNames properties), r))
  | ⟨text, _, _, none, none, none⟩ => (leafSchema r text, r)

/-- The schemas of properties, one after another. -/
def propertySchemas (r : Registry TypeSchema) :
    List (String × TypeShape) → List (String × TypeSchema) × Registry TypeSchema
  | [] => ([], r)
  | (name, t) :: rest =>
    let (s, r) := schemaOf r t
    let (more, r) := propertySchemas r rest
    ((name, s) :: more, r)

end

/-- The schema of an object with these properties. -/
def objectSchema (r : Registry TypeSchema) (properties : List (String × TypeShape)) :
    TypeSchema × Registry TypeSchema :=
  let (fields, r) := propertySchemas r properties
  (.object (ofFields fields) (requiredNames properties), r)

/-- The components as documents write them. -/
def Registry.toValue (r : Registry TypeSchema) : Value := .map (schemaFields r.components)

end RouteAtlas.Schema
