import RouteAtlas.Proofs.Document.OrderedMap
import RouteAtlas.Schema.Registry

/-!
# Registration of components

A registry is seen through `Registry.get?`. Describing a type extends the registry: names are only
appended, and a component that is already entered stays as it is, finished or not
(`schemaOf_extends`). The equations of `schemaOf` for each kind of shape stand first, so that later
proofs need not unfold it.
-/

namespace RouteAtlas.Schema

open RouteAtlas.Api RouteAtlas.Document

namespace Registry

variable {σ : Type}

/-- The component of a name. -/
def get? (r : Registry σ) (name : String) : Option σ := field? name r.components

/-- An empty registry has no names. -/
@[simp] theorem names_empty : (empty : Registry σ).names = [] := rfl

/-- An empty registry has no components. -/
@[simp] theorem get?_empty (name : String) : (empty : Registry σ).get? name = none := rfl

/-- A registry contains its names. -/
theorem contains_iff {r : Registry σ} {name : String} : r.contains name ↔ name ∈ r.names :=
  isSome_field?_iff

/-- A component has its name in the registry. -/
theorem mem_names_of_get? {r : Registry σ} {name : String} {s : σ} (h : r.get? name = some s) :
    name ∈ r.names := mem_fieldNames_of_mem (mem_of_field? h)

/-- A name of the registry has a component. -/
theorem exists_get?_of_mem {r : Registry σ} {name : String} (h : name ∈ r.names) :
    ∃ s, r.get? name = some s := exists_field?_of_mem h

/-- A component that was set is found. -/
theorem get?_set_self (r : Registry σ) (name : String) (s : σ) :
    (r.set name s).get? name = some s := field?_setField_self name s r.components

/-- Setting a component leaves the others as they are. -/
theorem get?_set_of_ne {name other : String} (h : other ≠ name) (r : Registry σ) (s : σ) :
    (r.set name s).get? other = r.get? other := field?_setField_of_ne h s r.components

/-- Setting a known component adds no name. -/
theorem names_set_of_mem {r : Registry σ} {name : String} (h : name ∈ r.names) (s : σ) :
    (r.set name s).names = r.names :=
  (fieldNames_setField name s r.components).trans (if_pos h)

/-- A new component comes last. -/
theorem names_set_of_not_mem {r : Registry σ} {name : String} (h : name ∉ r.names) (s : σ) :
    (r.set name s).names = r.names ++ [name] :=
  (fieldNames_setField name s r.components).trans (if_neg h)

/-- Setting a component adds its name and no other. -/
theorem mem_names_set {r : Registry σ} {name other : String} {s : σ} :
    other ∈ (r.set name s).names ↔ other = name ∨ other ∈ r.names := mem_fieldNames_setField

/-- A known component is not registered again. -/
theorem register_of_mem {r : Registry σ} {name : String} (h : name ∈ r.names) (placeholder : σ)
    (build : Registry σ → σ × Registry σ) : r.register name placeholder build = r :=
  if_pos (contains_iff.2 h)

/-- A new component is built on its placeholder, and then set. -/
theorem register_of_not_mem {r : Registry σ} {name : String} (h : name ∉ r.names) (placeholder : σ)
    (build : Registry σ → σ × Registry σ) :
    r.register name placeholder build =
      (build (r.set name placeholder)).2.set name (build (r.set name placeholder)).1 :=
  if_neg fun hc => h (contains_iff.1 hc)

/-! ## Extension -/

/-- The second registry continues the first: it appends names and keeps every component. -/
structure Extends (r r' : Registry σ) : Prop where
  names_append : ∃ added, r'.names = r.names ++ added
  get?_eq : ∀ name ∈ r.names, r'.get? name = r.get? name

namespace Extends

variable {r r' r'' : Registry σ}

/-- A registry extends itself. -/
theorem refl (r : Registry σ) : r.Extends r := ⟨⟨[], by simp⟩, fun _ _ => rfl⟩

/-- An extension keeps names. -/
theorem mem_names (h : r.Extends r') {name : String} (hn : name ∈ r.names) : name ∈ r'.names := by
  obtain ⟨added, hadded⟩ := h.names_append
  rw [hadded]
  exact List.mem_append_left _ hn

/-- Extensions can be chained. -/
theorem trans (h : r.Extends r') (h' : r'.Extends r'') : r.Extends r'' := by
  refine ⟨?_, fun name hn => (h'.get?_eq name (h.mem_names hn)).trans (h.get?_eq name hn)⟩
  obtain ⟨added, hadded⟩ := h.names_append
  obtain ⟨more, hmore⟩ := h'.names_append
  exact ⟨added ++ more, by rw [hmore, hadded, List.append_assoc]⟩

/-- Entering a new name extends a registry, whatever is set under that name afterwards. -/
theorem set_set {name : String} (hn : name ∉ r.names) {placeholder : σ}
    (h : (r.set name placeholder).Extends r') (s : σ) : r.Extends (r'.set name s) := by
  have hr' : name ∈ r'.names := h.mem_names (mem_names_set.2 (Or.inl rfl))
  constructor
  · obtain ⟨added, hadded⟩ := h.names_append
    rw [names_set_of_not_mem hn] at hadded
    exact ⟨[name] ++ added, by rw [names_set_of_mem hr', hadded, List.append_assoc]⟩
  · intro other ho
    have hne : other ≠ name := by
      rintro rfl
      exact hn ho
    rw [get?_set_of_ne hne, h.get?_eq other (mem_names_set.2 (Or.inr ho)), get?_set_of_ne hne]

end Extends

end Registry

open Registry

/-! ## The schema of each kind of shape -/

section Equations

variable (r : Registry TypeSchema)

/-- A type with items is described as an array. -/
theorem schemaOf_items (text : String) (isArray isOptional : Bool) (items : TypeShape)
    (properties : Option (List (String × TypeShape))) (unionTypes : Option (List String)) :
    schemaOf r ⟨text, isArray, isOptional, some items, properties, unionTypes⟩ =
      (.array (schemaOf r items).1, (schemaOf r items).2) := by
  rw [schemaOf]

/-- A type with members and no items is described as a choice. -/
theorem schemaOf_union (text : String) (isArray isOptional : Bool)
    (properties : Option (List (String × TypeShape))) (members : List String) :
    schemaOf r ⟨text, isArray, isOptional, none, properties, some members⟩ =
      (.oneOf (members.map ofTypeName), r) := by
  cases properties <;> rw [schemaOf]

/-- A type that has properties only is described by a component. -/
theorem schemaOf_properties (text : String) (isArray isOptional : Bool)
    (properties : List (String × TypeShape)) :
    schemaOf r ⟨text, isArray, isOptional, none, some properties, none⟩ =
      (.reference (componentName text),
        r.register (componentName text) .any fun r => objectSchema r properties) := by
  rw [schemaOf]
  rfl

/-- A type without parts is described as a leaf. -/
theorem schemaOf_leaf (text : String) (isArray isOptional : Bool) :
    schemaOf r ⟨text, isArray, isOptional, none, none, none⟩ = (leafSchema r text, r) := by
  rw [schemaOf]

/-- No properties need no schemas. -/
theorem propertySchemas_nil : propertySchemas r [] = ([], r) := by
  rw [propertySchemas]

/-- Properties are described in order. -/
theorem propertySchemas_cons (name : String) (t : TypeShape) (rest : List (String × TypeShape)) :
    propertySchemas r ((name, t) :: rest) =
      ((name, (schemaOf r t).1) :: (propertySchemas (schemaOf r t).2 rest).1,
        (propertySchemas (schemaOf r t).2 rest).2) := by
  rw [propertySchemas]

end Equations

/-- The schemas of properties have their names. -/
theorem fieldNames_propertySchemas (r : Registry TypeSchema) (fields : List (String × TypeShape)) :
    fieldNames (propertySchemas r fields).1 = fieldNames fields := by
  induction fields generalizing r with
  | nil => rw [propertySchemas_nil]; rfl
  | cons f fields ih =>
    obtain ⟨name, t⟩ := f
    rw [propertySchemas_cons, fieldNames_cons, ih, fieldNames_cons]

/-- The schema of an object of properties with distinct names lists them all in their order. -/
theorem exists_objectSchema_eq (r : Registry TypeSchema) {fields : List (String × TypeShape)}
    (hnodup : (fieldNames fields).Nodup) : ∃ properties,
      (objectSchema r fields).1 = .object properties (requiredNames fields) ∧
        fieldNames properties = fieldNames fields := by
  have hnames := fieldNames_propertySchemas r fields
  refine ⟨(propertySchemas r fields).1, ?_, hnames⟩
  show TypeSchema.object (ofFields (propertySchemas r fields).1) _ = _
  rw [ofFields_of_nodup (hnames ▸ hnodup)]

/-- The registry after an object type: the same if its name is known, else with its component. -/
theorem schemaOf_properties_snd (r : Registry TypeSchema) (text : String) (isArray isOptional : Bool)
    (properties : List (String × TypeShape)) :
    (schemaOf r ⟨text, isArray, isOptional, none, some properties, none⟩).2 =
      if componentName text ∈ r.names then r
      else (objectSchema (r.set (componentName text) .any) properties).2.set (componentName text)
        (objectSchema (r.set (componentName text) .any) properties).1 := by
  rw [schemaOf_properties]
  show (r.register (componentName text) .any fun r => objectSchema r properties) = _
  split
  · next h => exact register_of_mem h _ _
  · next h => exact register_of_not_mem h _ _

/-- Describing types only extends the registry. -/
theorem schemaOf_extends_and_propertySchemas_extends :
    (∀ (r : Registry TypeSchema) (t : TypeShape), r.Extends (schemaOf r t).2) ∧
      ∀ (r : Registry TypeSchema) (properties : List (String × TypeShape)),
        r.Extends (propertySchemas r properties).2 := by
  refine schemaOf.mutual_induct (fun r t => r.Extends (schemaOf r t).2)
    (fun r properties => r.Extends (propertySchemas r properties).2)
    ?items ?union ?properties ?leaf ?nil ?cons
  case items =>
    intro r text isArray isOptional items properties unionTypes s r₁ _ ih
    rw [schemaOf_items]
    exact ih
  case union =>
    intro r text isArray isOptional properties members
    rw [schemaOf_union]
    exact Extends.refl r
  case properties =>
    intro r text isArray isOptional properties ih
    rw [schemaOf_properties_snd]
    -- a known name leaves its properties undescribed
    split
    · exact Extends.refl r
    · next hn => exact Extends.set_set hn (ih (r.set (componentName text) .any)) _
  case leaf =>
    intro r text isArray isOptional
    rw [schemaOf_leaf]
    exact Extends.refl r
  case nil =>
    intro r
    rw [propertySchemas_nil]
    exact Extends.refl r
  case cons =>
    intro r name t rest s r₁ h₁ fields r₂ _ iht ihrest
    rw [h₁] at iht
    rw [propertySchemas_cons, h₁]
    exact iht.trans ihrest

/-- Describing a type adds components and changes none. -/
theorem schemaOf_extends (r : Registry TypeSchema) (t : TypeShape) : r.Extends (schemaOf r t).2 :=
  schemaOf_extends_and_propertySchemas_extends.1 r t

/-- Describing properties adds components and changes none. -/
theorem propertySchemas_extends (r : Registry TypeSchema) (properties : List (String × TypeShape)) :
    r.Extends (propertySchemas r properties).2 :=
  schemaOf_extends_and_propertySchemas_extends.2 r properties

end RouteAtlas.Schema
