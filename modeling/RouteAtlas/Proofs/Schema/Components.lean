import RouteAtlas.Proofs.Schema.Registration

/-!
# Finished components

While a type is described, the components of the types around it are entered but not yet built.
`Registry.Built` says which names may still be in that state and that every reference has its
component; describing a type keeps it (`schemaOf_built`), so nothing is left open at the end.
-/

namespace RouteAtlas.Schema

open RouteAtlas.Api RouteAtlas.Document Registry

/-! ## References in schemas -/

/-- The schema refers to the component of this name, at its top or inside. -/
inductive TypeSchema.RefersTo : TypeSchema → String → Prop
  | reference (name : String) : RefersTo (.reference name) name
  | array {items : TypeSchema} {name : String} (h : RefersTo items name) :
      RefersTo (.array items) name
  | oneOf {members : List TypeSchema} {s : TypeSchema} {name : String} (hs : s ∈ members)
      (h : RefersTo s name) : RefersTo (.oneOf members) name
  | object {properties : List (String × TypeSchema)} {required : List String} {key : String}
      {s : TypeSchema} {name : String} (hs : (key, s) ∈ properties) (h : RefersTo s name) :
      RefersTo (.object properties required) name

/-- A schema of an object, as a finished component is. -/
def TypeSchema.IsObject (s : TypeSchema) : Prop :=
  ∃ properties required, s = .object properties required

namespace TypeSchema

/-- A reference refers to its own name. -/
@[simp] theorem refersTo_reference {name other : String} :
    (reference name).RefersTo other ↔ other = name := by
  constructor
  · rintro ⟨⟩
    rfl
  · rintro rfl
    exact .reference other

/-- An array refers to what its items do. -/
@[simp] theorem refersTo_array {items : TypeSchema} {name : String} :
    (array items).RefersTo name ↔ items.RefersTo name := by
  constructor
  · rintro (_ | h)
    exact h
  · exact .array

/-- A choice refers to what its members do. -/
@[simp] theorem refersTo_oneOf {members : List TypeSchema} {name : String} :
    (oneOf members).RefersTo name ↔ ∃ s ∈ members, s.RefersTo name := by
  constructor
  · intro h
    cases h with
    | oneOf hs h => exact ⟨_, hs, h⟩
  · rintro ⟨s, hs, h⟩
    exact .oneOf hs h

/-- An object refers to what its properties do. -/
@[simp] theorem refersTo_object {properties : List (String × TypeSchema)} {required : List String}
    {name : String} :
    (object properties required).RefersTo name ↔
      ∃ key s, (key, s) ∈ properties ∧ s.RefersTo name := by
  constructor
  · intro h
    cases h with
    | object hs h => exact ⟨_, _, hs, h⟩
  · rintro ⟨key, s, hs, h⟩
    exact .object hs h

/-- The schema of anything refers to nothing. -/
@[simp] theorem not_refersTo_any (name : String) : ¬ any.RefersTo name := nofun

/-- A leaf refers to nothing. -/
@[simp] theorem not_refersTo_leaf (type : String) (format : Option String) (name : String) :
    ¬ (leaf type format).RefersTo name := nofun

/-- A literal refers to nothing. -/
@[simp] theorem not_refersTo_literal (v : Syntax.Scalar) (name : String) :
    ¬ (literal v).RefersTo name := nofun

end TypeSchema

/-- The schema of a type that is known by its name alone refers to nothing. -/
theorem not_refersTo_ofTypeName (typeName name : String) : ¬ (ofTypeName typeName).RefersTo name := by
  have hladder : ∀ e ∈ leafLadder, ¬ e.2.RefersTo name := by
    intro e he
    simp only [leafLadder, List.mem_cons, List.not_mem_nil, or_false] at he
    rcases he with rfl | rfl | rfl | rfl | rfl | rfl | rfl | rfl <;> simp
  unfold ofTypeName
  split
  · simp
  · dsimp only
    split
    · simp
    · cases hf : leafLadder.find? fun e => Text.mentionsAny (Text.lowercase typeName) e.1 with
      | none => simp
      | some e => simpa using hladder e (List.mem_of_find?_eq_some hf)

/-- A leaf refers at most to the component of its name. -/
theorem leafSchema_refersTo {r : Registry TypeSchema} {typeName name : String}
    (h : (leafSchema r typeName).RefersTo name) : name = typeName ∧ typeName ∈ r.names := by
  unfold leafSchema at h
  split at h
  · next hc => exact ⟨TypeSchema.refersTo_reference.1 h, contains_iff.1 hc⟩
  · exact absurd h (not_refersTo_ofTypeName _ _)

/-! ## The invariant -/

/-- Names are distinct, every component is finished unless its name is listed, and every reference has
its component. -/
structure Registry.Built (unfinished : List String) (r : Registry TypeSchema) : Prop where
  nodup : r.names.Nodup
  finished : ∀ name s, r.get? name = some s → name ∈ unfinished ∨ s.IsObject
  closed : ∀ name s, r.get? name = some s → ∀ other, s.RefersTo other → other ∈ r.names

/-- An empty registry is built. -/
theorem built_empty : (empty : Registry TypeSchema).Built [] :=
  ⟨List.nodup_nil, fun name s h => by simp at h, fun name s h => by simp at h⟩

/-- Entering a name without its schema leaves it unfinished. -/
theorem Registry.Built.enter {unfinished : List String} {r : Registry TypeSchema}
    (hr : r.Built unfinished) (name : String) : (r.set name .any).Built (name :: unfinished) := by
  refine ⟨nodup_fieldNames_setField hr.nodup, ?_, ?_⟩
  · intro other s hs
    by_cases h : other = name
    · exact Or.inl (by simp [h])
    · rw [get?_set_of_ne h] at hs
      exact (hr.finished other s hs).imp_left (List.mem_cons_of_mem name)
  · intro other s hs target ht
    by_cases h : other = name
    · rw [h, get?_set_self] at hs
      obtain rfl : TypeSchema.any = s := by simpa using hs
      simp at ht
    · rw [get?_set_of_ne h] at hs
      exact mem_names_set.2 (Or.inr (hr.closed other s hs target ht))

/-- Setting the schema of an unfinished object finishes it. -/
theorem Registry.Built.finish {unfinished : List String} {name : String} {r : Registry TypeSchema}
    (hr : r.Built (name :: unfinished)) {s : TypeSchema} (hs : s.IsObject)
    (hrefs : ∀ other, s.RefersTo other → other ∈ r.names) : (r.set name s).Built unfinished := by
  refine ⟨nodup_fieldNames_setField hr.nodup, ?_, ?_⟩
  · intro other t ht
    by_cases h : other = name
    · rw [h, get?_set_self] at ht
      obtain rfl : s = t := by simpa using ht
      exact Or.inr hs
    · rw [get?_set_of_ne h] at ht
      rcases hr.finished other t ht with hm | ho
      · exact Or.inl ((List.mem_cons.1 hm).resolve_left h)
      · exact Or.inr ho
  · intro other t ht target hrefers
    refine mem_names_set.2 (Or.inr ?_)
    by_cases h : other = name
    · rw [h, get?_set_self] at ht
      obtain rfl : s = t := by simpa using ht
      exact hrefs target hrefers
    · rw [get?_set_of_ne h] at ht
      exact hr.closed other t ht target hrefers

/-- The schema of properties is that of an object. -/
theorem isObject_objectSchema (r : Registry TypeSchema) (properties : List (String × TypeShape)) :
    (objectSchema r properties).1.IsObject := ⟨_, _, rfl⟩

/-- What the schema of an object refers to, the schema of one of its properties refers to. -/
theorem objectSchema_refersTo {r : Registry TypeSchema} {properties : List (String × TypeShape)}
    {name : String} (h : (objectSchema r properties).1.RefersTo name) :
    ∃ key s, (key, s) ∈ (propertySchemas r properties).1 ∧ s.RefersTo name := by
  obtain ⟨key, s, hs, hrefers⟩ := TypeSchema.refersTo_object.1 h
  exact ⟨key, s, mem_of_mem_ofFields hs, hrefers⟩

/-- Describing types keeps the registry built, and what the schemas refer to is entered. -/
theorem schemaOf_built_and_propertySchemas_built :
    (∀ (r : Registry TypeSchema) (t : TypeShape) (unfinished : List String), r.Built unfinished →
      (schemaOf r t).2.Built unfinished ∧
        ∀ name, (schemaOf r t).1.RefersTo name → name ∈ (schemaOf r t).2.names) ∧
    ∀ (r : Registry TypeSchema) (properties : List (String × TypeShape)) (unfinished : List String),
      r.Built unfinished →
        (propertySchemas r properties).2.Built unfinished ∧
          ∀ key s, (key, s) ∈ (propertySchemas r properties).1 → ∀ name, s.RefersTo name →
            name ∈ (propertySchemas r properties).2.names := by
  refine schemaOf.mutual_induct _ _ ?items ?union ?properties ?leaf ?nil ?cons
  case items =>
    intro r text isArray isOptional items properties unionTypes s r₁ _ ih unfinished hr
    rw [schemaOf_items]
    exact ⟨(ih _ hr).1, fun name h => (ih _ hr).2 name (TypeSchema.refersTo_array.1 h)⟩
  case union =>
    intro r text isArray isOptional properties members unfinished hr
    rw [schemaOf_union]
    refine ⟨hr, fun name h => ?_⟩
    obtain ⟨s, hs, hrefers⟩ := TypeSchema.refersTo_oneOf.1 h
    obtain ⟨member, _, rfl⟩ := List.mem_map.1 hs
    exact absurd hrefers (not_refersTo_ofTypeName _ _)
  case properties =>
    intro r text isArray isOptional properties ih unfinished hr
    have hfst : (schemaOf r ⟨text, isArray, isOptional, none, some properties, none⟩).1 =
        .reference (componentName text) := by rw [schemaOf_properties]
    rw [hfst, schemaOf_properties_snd]
    split
    · next hn => exact ⟨hr, fun name h => by rwa [TypeSchema.refersTo_reference.1 h]⟩
    · -- while the properties are described, this name is one more that is unfinished
      obtain ⟨hbuilt, hrefs⟩ := ih (r.set (componentName text) .any) _ (hr.enter (componentName text))
      refine ⟨hbuilt.finish (isObject_objectSchema _ _) fun other ho => ?_, fun name h => ?_⟩
      · obtain ⟨key, s, hs, hrefers⟩ := objectSchema_refersTo ho
        exact hrefs key s hs other hrefers
      · exact mem_names_set.2 (Or.inl (TypeSchema.refersTo_reference.1 h))
  case leaf =>
    intro r text isArray isOptional unfinished hr
    rw [schemaOf_leaf]
    refine ⟨hr, fun name h => ?_⟩
    obtain ⟨rfl, hmem⟩ := leafSchema_refersTo h
    exact hmem
  case nil =>
    intro r unfinished hr
    rw [propertySchemas_nil]
    exact ⟨hr, fun key s h => by simp at h⟩
  case cons =>
    intro r name t rest s r₁ h₁ fields r₂ _ iht ihrest unfinished hr
    obtain ⟨hbuilt₁, hrefs₁⟩ := iht _ hr
    rw [h₁] at hbuilt₁ hrefs₁
    obtain ⟨hbuilt₂, hrefs₂⟩ := ihrest _ hbuilt₁
    rw [propertySchemas_cons, h₁]
    -- what the first schema refers to stays entered while the others are described
    refine ⟨hbuilt₂, fun key u hu other hother => ?_⟩
    rcases List.mem_cons.1 hu with he | hu
    · obtain ⟨rfl, rfl⟩ := Prod.mk.inj he
      exact (propertySchemas_extends r₁ rest).mem_names (hrefs₁ other hother)
    · exact hrefs₂ key u hu other hother

/-- Describing a type keeps a registry built. -/
theorem schemaOf_built {unfinished : List String} {r : Registry TypeSchema} (hr : r.Built unfinished)
    (t : TypeShape) : (schemaOf r t).2.Built unfinished :=
  (schemaOf_built_and_propertySchemas_built.1 r t unfinished hr).1

/-- What the schema of a type refers to is entered. -/
theorem mem_names_of_schemaOf_refersTo {unfinished : List String} {r : Registry TypeSchema}
    (hr : r.Built unfinished) {t : TypeShape} {name : String} (h : (schemaOf r t).1.RefersTo name) :
    name ∈ (schemaOf r t).2.names :=
  (schemaOf_built_and_propertySchemas_built.1 r t unfinished hr).2 name h

/-- Describing properties keeps a registry built. -/
theorem objectSchema_built {unfinished : List String} {r : Registry TypeSchema}
    (hr : r.Built unfinished) (properties : List (String × TypeShape)) :
    (objectSchema r properties).2.Built unfinished :=
  (schemaOf_built_and_propertySchemas_built.2 r properties unfinished hr).1

/-- What the schema of an object refers to is entered. -/
theorem mem_names_of_objectSchema_refersTo {unfinished : List String} {r : Registry TypeSchema}
    (hr : r.Built unfinished) {properties : List (String × TypeShape)} {name : String}
    (h : (objectSchema r properties).1.RefersTo name) :
    name ∈ (objectSchema r properties).2.names := by
  obtain ⟨key, s, hs, hrefers⟩ := objectSchema_refersTo h
  exact (schemaOf_built_and_propertySchemas_built.2 r properties unfinished hr).2 key s hs name
    hrefers

end RouteAtlas.Schema
