import RouteAtlas.Api.Controller
import RouteAtlas.Document.Checked

/-!
# Descriptions from data

Types, endpoints and controllers can be given as data instead of being scanned. Unknown fields are
ignored, absent ones take their defaults, and every fault is reported with its location.
-/

namespace RouteAtlas.Api

open RouteAtlas.Document Checked

mutual

/-- A type from data. -/
def TypeShape.ofValue : Value → Checked TypeShape
  | .map fields =>
    TypeShape.mk <$> requiredField "type" text fields <*> optionalField "is_array" false bool fields
      <*> optionalField "is_optional" false bool fields <*> itemsField fields
      <*> propertiesField fields
      <*> optionalField "union_types" none (nullable (list text)) fields
  | _ => fault .notRecord

/-- The items of a type. -/
def itemsField : List (String × Value) → Checked (Option TypeShape)
  | [] => .valid none
  | (name, v) :: r =>
    if name = "items" then
      match v with
      | .null => .valid none
      | v => (some <$> TypeShape.ofValue v).within "items"
    else itemsField r

/-- The properties of a type. -/
def propertiesField : List (String × Value) → Checked (Option (List (String × TypeShape)))
  | [] => .valid none
  | (name, v) :: r =>
    if name = "properties" then
      (match v with
        | .null => .valid none
        | .list items => some <$> propertiesFrom 0 items
        | _ => fault .notList : Checked _).within "properties"
    else propertiesField r

/-- Properties from a position on. -/
def propertiesFrom (i : Nat) : List Value → Checked (List (String × TypeShape))
  | [] => .valid []
  | v :: r => List.cons <$> (propertyOfValue v).within (toString i) <*> propertiesFrom (i + 1) r

/-- A property from data. -/
def propertyOfValue : Value → Checked (String × TypeShape)
  | .map fields => Prod.mk <$> requiredField "name" text fields <*> typeField fields
  | _ => fault .notRecord

/-- The type of a property. -/
def typeField : List (String × Value) → Checked TypeShape
  | [] => (fault .missing).within "type"
  | (name, v) :: r =>
    if name = "type" then (TypeShape.ofValue v).within "type" else typeField r

end

/-- A record from data. -/
def record {α : Type} (check : List (String × Value) → Checked α) : Value → Checked α
  | .map fields => check fields
  | _ => fault .notRecord

/-- A parameter from data. -/
def Parameter.ofValue : Value → Checked Parameter :=
  record fun fields =>
    Parameter.mk <$> requiredField "name" text fields
      <*> requiredField "type" TypeShape.ofValue fields
      <*> requiredField "source" (listed ParameterSource.ofName?) fields
      <*> optionalField "embed" false bool fields

/-- An endpoint from data. -/
def Endpoint.ofValue : Value → Checked Endpoint :=
  record fun fields =>
    Endpoint.mk <$> requiredField "name" text fields <*> requiredField "http_method" text fields
      <*> requiredField "route" text fields
      <*> requiredField "parameters" (list Parameter.ofValue) fields
      <*> requiredField "return_type" TypeShape.ofValue fields
      <*> optionalField "status_code" none (nullable int) fields
      <*> optionalField "summary" "" text fields

/-- A controller from data. -/
def Controller.ofValue : Value → Checked Controller :=
  record fun fields =>
    Controller.mk <$> requiredField "name" text fields <*> requiredField "path" text fields
      <*> requiredField "methods" (list Endpoint.ofValue) fields
      <*> optionalField "source_file" "" text fields

end RouteAtlas.Api
