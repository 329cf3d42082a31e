import RouteAtlas.Document.Literal
import RouteAtlas.Text.LetterCase

/-!
# Schemas

The schemas that API documents use for types, and the schema of a type that is known by its name alone:
a ladder of words decides, and the first that occurs wins.
-/

namespace RouteAtlas.Schema

open RouteAtlas.Document RouteAtlas.Syntax RouteAtlas.Text

/-- A schema. -/
inductive TypeSchema where
  /-- Any value. -/
  | any
  /-- A value of a JSON type, possibly in a format. -/
  | leaf (type : String) (format : Option String)
  /-- One literal value. -/
  | literal (v : Scalar)
  | array (items : TypeSchema)
  | oneOf (members : List TypeSchema)
  | object (properties : List (String × TypeSchema)) (required : List String)
  /-- The component of this name. -/
  | reference (name : String)
deriving Repr, BEq, Inhabited

/-- Where components stand in a document. -/
def componentPath : String := "#/components/schemas/"

/-- A reference to a component, as documents write it. -/
def referenceValue (name : String) : Value := .map [("$ref", .str (componentPath ++ name))]

/-- The JSON type of a literal value. -/
def scalarType : Scalar → String
  | .bool _ => "boolean"
  | .int _ => "integer"
  | .float _ => "number"
  | .str _ => "string"
  | .surrogate _ => "string"

mutual

/-- A schema as documents write it. -/
def TypeSchema.toValue : TypeSchema → Value
  | .any => .map []
  | .leaf type none => .map [("type", .str type)]
  | .leaf type (some format) => .map [("type", .str type), ("format", .str format)]
  | .literal v => .map [("type", .str (scalarType v)), ("enum", .list [.ofScalar v])]
  | .array items => .map [("type", .str "array"), ("items", items.toValue)]
  | .oneOf members => .map [("oneOf", .list (schemaValues members))]
  | .object properties required =>
    .map ([("type", .str "object"), ("properties", .map (schemaFields properties))] ++
      if required.isEmpty then [] else [("required", .strings required)])
  | .reference name => referenceValue name

/-- Schemas as documents write them. -/
def schemaValues : List TypeSchema → List Value
  | [] => []
  | s :: r => s.toValue :: schemaValues r

/-- Named schemas as documents write them. -/
def schemaFields : List (String × TypeSchema) → List (String × Value)
  | [] => []
  | (k, s) :: r => (k, s.toValue) :: schemaFields r

end

/-- The schemas of leaf types by words in their names; the first that occurs wins. -/
def leafLadder : List (List String × TypeSchema) :=
  [(["dict", "mapping"], .leaf "object" none),
    (["str"], .leaf "string" none),
    (["bool"], .leaf "boolean" none),
    (["uuid"], .leaf "string" (some "uuid")),
    (["datetime"], .leaf "string" (some "date-time")),
    (["date"], .leaf "string" (some "date")),
    (["int"], .leaf "integer" none),
    (["float", "decimal", "number"], .leaf "number" none)]

/-- The names of types that any value fits. -/
def anyNames : List String := ["any", "typing.any", "object"]

/-- The schema of a type that is known by its name alone; a text unless the name says otherwise. -/
def ofTypeName (typeName : String) : TypeSchema :=
  match literalValue? typeName with
  | some v => .literal v
  | none =>
    let lower := lowercase typeName
    if anyNames.contains lower then .any
    else ((leafLadder.find? fun (words, _) => mentionsAny lower words).map (·.2)).getD
      (.leaf "string" none)

end RouteAtlas.Schema
