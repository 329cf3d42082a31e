import Mathlib.Data.List.Induction
import RouteAtlas.Proofs.OpenApi.DescribedPieces
import RouteAtlas.Proofs.Reflect.SettledRegistry

/-!
# Properties in the query and in components

A class that is read from the query is described property by property and not entered. If it is absent
then, a reference to it finds no component: neither in its own properties nor in the classes that are
entered with them. So a property is described in the query as in the component of its class, unless one
of the two has lost a reference that way (`query_schema_eq_iff`).
-/

namespace RouteAtlas.OpenApi

open RouteAtlas.Api RouteAtlas.Document RouteAtlas.Reflect RouteAtlas.Routing RouteAtlas.Schema
open RouteAtlas.Schema.Registry RouteAtlas.Syntax

/-! ## Lost references -/

section Lost

variable {index : ClassIndex}

/-- Two schemas of a shape without the references to some classes are the same exactly if both have lost
the same references. -/
theorem withoutReferences_eq_iff {absent absent' : List String} (t : TypeShape) :
    withoutReferences absent (settledSchema index t) = withoutReferences absent' (settledSchema index t) ↔
      ∀ name, (settledSchema index t).RefersTo name → (name ∈ absent ↔ name ∈ absent') := by
  have hreference (name : String) : withoutReferences absent (.reference name) =
      withoutReferences absent' (.reference name) ↔ (name ∈ absent ↔ name ∈ absent') := by
    have hne : ofTypeName name ≠ .reference name := fun he =>
      not_refersTo_ofTypeName name name (he ▸ .reference name)
    rw [withoutReferences, withoutReferences]
    by_cases ha : name ∈ absent
    · by_cases ha' : name ∈ absent'
      · simp [ha, ha']
      · simp [ha, ha', hne]
    · by_cases ha' : name ∈ absent'
      · simp [ha, ha', hne.symm]
      · simp [ha, ha']
  -- a shape names at most one class, at the end of its arrays
  fun_induction settledSchema index t with
  | case1 text isArray isOptional items properties members ih =>
    rw [withoutReferences, withoutReferences, TypeSchema.array.injEq]
    exact ih.trans (by simp only [TypeSchema.refersTo_array])
  | case2 text isArray isOptional properties members =>
    refine iff_of_true rfl fun name hr => ?_
    obtain ⟨s, hs, hr⟩ := TypeSchema.refersTo_oneOf.1 hr
    obtain ⟨member, _, rfl⟩ := List.mem_map.1 hs
    exact absurd hr (not_refersTo_ofTypeName _ _)
  | case3 | case4 =>
    rw [hreference]
    simp only [TypeSchema.refersTo_reference, forall_eq]
  | case5 =>
    rw [withoutReferences_ofTypeName, withoutReferences_ofTypeName]
    exact iff_of_true rfl fun name hr => absurd hr (not_refersTo_ofTypeName _ _)

end Lost

/-! ## Pieces of reflected annotations -/

/-- The shape is that of an annotation, which may be left out. -/
def IsHint (index : ClassIndex) (t : TypeShape) : Prop :=
  ∃ isOptional hint, reflectHint index isOptional hint = .ok t

/-- The parameters and the answer of the endpoint have the shapes of annotations. -/
structure IsAnnotated (index : ClassIndex) (e : Endpoint) : Prop where
  parameters : ∀ p ∈ e.parameters, IsHint index p.type
  answer : IsHint index e.returnType

/-- The shape that a piece describes. -/
def Piece.shape : Piece → TypeShape
  | .type t => t
  | .parameter p => p.type

/-- The class whose properties a piece describes in the place of the class. -/
def Piece.flattened? : Piece → Option String
  | .type _ => none
  | .parameter p => if p.source = .query ∧ p.type.properties.isSome then some p.type.text else none

/-- The flattened class, if it is absent. -/
def Piece.absent (r : Registry TypeSchema) (i : Piece) : List String :=
  i.flattened?.toList.filter fun name => name ∉ r.names

/-- The pieces of an annotated endpoint are hints. -/
theorem isHint_of_mem_endpointPieces {index : ClassIndex} {e : Endpoint} (h : IsAnnotated index e)
    {i : Piece} (hi : i ∈ endpointPieces e) : IsHint index i.shape := by
  unfold endpointPieces at hi
  rcases List.mem_append.1 hi with hi | hi
  · rcases List.mem_append.1 hi with hi | hi
    · obtain ⟨p, hp, rfl⟩ := List.mem_map.1 hi
      exact h.parameters p (List.mem_filter.1 hp).1
    · obtain ⟨p, hp, rfl⟩ := List.mem_map.1 hi
      exact h.parameters p hp
  · split at hi
    · cases hi
    · rw [List.mem_singleton.1 hi]
      exact h.answer

/-- The pieces of annotated controllers are hints. -/
theorem isHint_of_mem_pieces {index : ClassIndex} {controllers : List Controller}
    (h : ∀ c ∈ controllers, ∀ e ∈ c.endpoints, IsAnnotated index e) {i : Piece}
    (hi : i ∈ pieces (RouteTable.ofControllers controllers)) : IsHint index i.shape := by
  obtain ⟨route, hroute, hi⟩ := List.mem_flatMap.1 hi
  obtain ⟨c, hc, hroute⟩ := List.mem_flatMap.1 hroute
  obtain ⟨e, he, rfl⟩ := List.mem_map.1 hroute
  exact isHint_of_mem_endpointPieces (h c hc e he) hi

/-- An object that an annotation denotes is a class with its fields. -/
theorem exists_class_of_isHint {index : ClassIndex} {t : TypeShape} (h : IsHint index t)
    {fields : List (String × TypeShape)} (hfields : t.properties = some fields) :
    ∃ c isOptional, t = .object c.name isOptional fields ∧ index.get? c.name = some c ∧
      c.isEnum = false ∧ classFields index [c.name] [c.name] c = .ok fields ∧
      ∀ f ∈ fields, Reflected index [c.name] f.2 := by
  obtain ⟨isOptional, hint, h⟩ := h
  cases hint with
  | none =>
    obtain rfl := Except.ok.inj h
    cases hfields
  | some e =>
    cases reflect_reflected h with
    | leaf | union | array => cases hfields
    | object hc henum hactive hclass hreflected =>
      obtain rfl := Option.some.inj hfields
      exact ⟨_, _, rfl, hc, henum, hclass, hreflected⟩

section Steps

variable {index : ClassIndex} (hplain : ∀ name, index.Declares name → IsPlainName name)
  {r : Registry TypeSchema} (hd : ∀ name ∈ r.names, index.Declares name)
include hplain hd

/-- The type of an annotation enters classes with all their references. -/
theorem schemaOf_enters {t : TypeShape} (h : IsHint index t) :
    EntersWithout index [] r (schemaOf r t).2 := by
  obtain ⟨isOptional, hint, h⟩ := h
  cases hint with
  | none =>
    obtain rfl := Except.ok.inj h
    have hleaf : (schemaOf r (.leaf "Any" isOptional)).2 = r := congrArg Prod.snd (schemaOf_leaf r _ _ _)
    rw [hleaf]
    exact .refl (expanding_nil hd).declared
  | some e => exact (schemaOf_without hplain (reflect_reflected h) (expanding_nil hd)).enters

/-- The properties of a class lose the references to it if it is absent. -/
theorem propertySchemas_flattened {flattened : String} {fields : List (String × TypeShape)}
    (h : ∀ f ∈ fields, Reflected index [flattened] f.2) {absent : List String}
    (habsent : ∀ name, name ∈ absent ↔ name = flattened ∧ name ∉ r.names) :
    (propertySchemas r fields).1 = propertiesWithout index absent fields ∧
      EntersWithout index absent r (propertySchemas r fields).2 := by
  have hexpanding : Expanding index [flattened] absent r := by
    refine ⟨fun name hn => ?_, fun name hn => ?_, fun name hn => ⟨hd name hn, fun ha => ?_⟩⟩
    · obtain rfl := List.mem_singleton.1 hn
      exact (em _).symm.imp_left fun hn => (habsent _).2 ⟨rfl, hn⟩
    · exact List.mem_singleton.2 ((habsent name).1 hn).1
    · exact ((habsent name).1 ha).2 hn
  obtain ⟨hschemas, henters, _⟩ :=
    propertySchemas_without (fun f hf r hr => schemaOf_without hplain (h f hf) hr) hexpanding
  exact ⟨hschemas, henters⟩

end Steps

/-! ## One piece -/

/-- A name is absent if it is flattened and no component has it. -/
theorem mem_absent_iff {r : Registry TypeSchema} {i : Piece} {name : String} :
    name ∈ i.absent r ↔ i.flattened? = some name ∧ name ∉ r.names := by
  unfold Piece.absent
  rw [List.mem_filter, Option.mem_toList, decide_eq_true_eq]

/-- A parameter is flattened if it reads an object from the query. -/
theorem flattened?_eq_some_iff {p : Parameter} {name : String} :
    (Piece.parameter p).flattened? = some name ↔
      p.source = .query ∧ p.type.properties.isSome ∧ p.type.text = name := by
  unfold Piece.flattened?
  rw [Option.ite_none_right_eq_some, Option.some_inj, and_assoc]

/-- Query parameters for properties have the schemas of these, in their order. -/
theorem run_describeQueries (fields : List (String × TypeShape)) (r : Registry TypeSchema) :
    (fields.mapM fun (name, t) => describeQuery name t).run r =
      (List.zipWith (fun f s => ⟨f.1, .query, !f.2.isOptional, s.2⟩) fields (propertySchemas r fields).1,
        (propertySchemas r fields).2) := by
  induction fields generalizing r with
  | nil =>
    rw [propertySchemas_nil]
    rfl
  | cons f fields ih =>
    obtain ⟨name, t⟩ := f
    have hrest := ih (schemaOf r t).2
    rw [List.mapM_cons, propertySchemas_cons]
    show ((⟨name, .query, !t.isOptional, (schemaOf r t).1⟩ : ParameterInfo) ::
      ((fields.mapM fun (name, t) => describeQuery name t).run (schemaOf r t).2).1,
      ((fields.mapM fun (name, t) => describeQuery name t).run (schemaOf r t).2).2) = _
    rw [hrest]
    rfl

/-- An object that is read from the query is described property by property. -/
theorem describeParameter_flattened {p : Parameter} (hquery : p.source = .query)
    {fields : List (String × TypeShape)} (hfields : p.type.properties = some fields) :
    describeParameter p = fields.mapM fun (name, t) => describeQuery name t := by
  unfold describeParameter
  rw [hquery, hfields]

/-- In the query the properties of a class lose the references to it if it is absent. -/
theorem run_describeParameter_flattened {index : ClassIndex}
    (hplain : ∀ name, index.Declares name → IsPlainName name) {r : Registry TypeSchema}
    (hd : ∀ name ∈ r.names, index.Declares name) {p : Parameter} (h : IsHint index p.type)
    (hquery : p.source = .query) {fields : List (String × TypeShape)}
    (hfields : p.type.properties = some fields) :
    ((describeParameter p).run r).1 = fields.map fun f => ⟨f.1, .query, !f.2.isOptional,
      withoutReferences ((Piece.parameter p).absent r) (settledSchema index f.2)⟩ := by
  obtain ⟨c, isOptional, htype, _, _, _, hreflected⟩ := exists_class_of_isHint h hfields
  have htext : p.type.text = c.name := by rw [htype]; rfl
  have hflattened : (Piece.parameter p).flattened? = some c.name :=
    flattened?_eq_some_iff.2 ⟨hquery, by rw [hfields, Option.isSome_some], htext⟩
  obtain ⟨hschemas, _⟩ := propertySchemas_flattened hplain hd hreflected fun name => by
    rw [mem_absent_iff, hflattened, Option.some_inj, eq_comm]
  rw [describeParameter_flattened hquery hfields, run_describeQueries, hschemas]
  unfold propertiesWithout
  rw [List.zipWith_map_right, List.zipWith_self]

/-- A piece describes the properties of the class that it flattens, or else its shape, or nothing. -/
theorem register_cases (r : Registry TypeSchema) (i : Piece) :
    (∃ fields, i.shape.properties = some fields ∧ i.flattened? = some i.shape.text ∧
      i.register r = (propertySchemas r fields).2) ∨
    i.flattened? = none ∧ (i.register r = (schemaOf r i.shape).2 ∨ i.register r = r) := by
  cases i with
  | type t => exact .inr ⟨rfl, .inl rfl⟩
  | parameter p =>
    have hnone (h : p.source = .query → p.type.properties = none) :
        (Piece.parameter p).flattened? = none :=
      if_neg fun hp => Option.isSome_iff_ne_none.1 hp.2 (h hp.1)
    have hregister : (Piece.parameter p).register r = ((describeParameter p).run r).2 := rfl
    rw [hregister]
    cases hsource : p.source with
    | query =>
      cases hfields : p.type.properties with
      | some fields =>
        refine .inl ⟨fields, hfields, flattened?_eq_some_iff.2 ⟨hsource, ?_, rfl⟩, ?_⟩
        · rw [hfields, Option.isSome_some]
        · rw [describeParameter_flattened hsource hfields, run_describeQueries]
      | none =>
        refine .inr ⟨hnone fun _ => hfields, .inl ?_⟩
        unfold describeParameter
        rw [hsource, hfields]
        rfl
    | path =>
      refine .inr ⟨hnone fun h => absurd (hsource.symm.trans h) nofun, .inl ?_⟩
      unfold describeParameter
      rw [hsource]
      rfl
    | body | none =>
      refine .inr ⟨hnone fun h => absurd (hsource.symm.trans h) nofun, .inr ?_⟩
      unfold describeParameter
      rw [hsource]
      rfl

/-- A piece adds components and changes none. -/
theorem Piece.register_extends (i : Piece) (r : Registry TypeSchema) : r.Extends (i.register r) := by
  rcases register_cases r i with ⟨fields, _, _, h⟩ | ⟨_, h | h⟩
  · rw [h]
    exact propertySchemas_extends r fields
  · rw [h]
    exact schemaOf_extends r i.shape
  · rw [h]
    exact Extends.refl r

/-- A piece enters classes that lose the references to the class that it flattens, if this is absent. -/
theorem register_enters {index : ClassIndex} (hplain : ∀ name, index.Declares name → IsPlainName name)
    {r : Registry TypeSchema} (hd : ∀ name ∈ r.names, index.Declares name) {i : Piece}
    (h : IsHint index i.shape) : EntersWithout index (i.absent r) r (i.register r) := by
  rcases register_cases r i with ⟨fields, hfields, hflattened, hregister⟩ | ⟨hflattened, hregister⟩
  · obtain ⟨c, isOptional, hshape, _, _, _, hreflected⟩ := exists_class_of_isHint h hfields
    rw [hregister]
    refine (propertySchemas_flattened hplain hd hreflected fun name => ?_).2
    rw [mem_absent_iff, hflattened, hshape, Option.some_inj, eq_comm]
    rfl
  · have habsent : i.absent r = [] := by
      rw [Piece.absent, hflattened]
      rfl
    rw [habsent]
    rcases hregister with hregister | hregister
    · rw [hregister]
      exact schemaOf_enters hplain hd h
    · rw [hregister]
      exact .refl (expanding_nil hd).declared

/-! ## A run of pieces -/

/-- The last piece is registered last. -/
theorem registered_append_singleton (pieces : List Piece) (i : Piece) :
    registered (pieces ++ [i]) = i.register (registered pieces) := List.foldl_append

/-- While the pieces are described, the inner class is entered with the properties of the outer one, which
is absent. -/
def EntersWithin (pieces : List Piece) (outer inner : String) : Prop :=
  ∃ before i after, pieces = before ++ i :: after ∧ outer ∈ i.absent (registered before) ∧
    inner ∉ (registered before).names ∧ inner ∈ (i.register (registered before)).names

/-- A name enters within another with the last piece or with one before. -/
theorem entersWithin_append_singleton_iff {pieces : List Piece} {i : Piece} {outer inner : String} :
    EntersWithin (pieces ++ [i]) outer inner ↔ EntersWithin pieces outer inner ∨
      outer ∈ i.absent (registered pieces) ∧ inner ∉ (registered pieces).names ∧
        inner ∈ (i.register (registered pieces)).names := by
  constructor
  · rintro ⟨before, j, after, hsplit, h⟩
    rcases List.eq_nil_or_concat after with rfl | ⟨rest, last, rfl⟩
    · obtain ⟨rfl, hlast⟩ := List.append_inj' hsplit rfl
      obtain rfl := List.singleton_inj.1 hlast
      exact .inr h
    · rw [List.concat_eq_append, ← List.cons_append, ← List.append_assoc] at hsplit
      obtain ⟨rfl, _⟩ := List.append_inj' hsplit rfl
      exact .inl ⟨before, j, rest, rfl, h⟩
  · rintro (⟨before, j, after, rfl, h⟩ | h)
    · exact ⟨before, j, after ++ [i], by rw [List.append_assoc, List.cons_append], h⟩
    · exact ⟨pieces, i, [], rfl, h⟩

/-- A name that enters is a component. -/
theorem mem_names_of_entersWithin {pieces : List Piece} {outer inner : String}
    (h : EntersWithin pieces outer inner) : inner ∈ (registered pieces).names := by
  obtain ⟨before, i, after, rfl, _, _, hinner⟩ := h
  induction after using List.reverseRecOn with
  | nil => rwa [registered_append_singleton]
  | append_singleton after last ih =>
    rw [← List.cons_append, ← List.append_assoc, registered_append_singleton]
    exact (last.register_extends _).mem_names ih

section Run

variable {index : ClassIndex} (hplain : ∀ name, index.Declares name → IsPlainName name)
include hplain

/-- Every component is the schema of its class, without the references to the class with whose properties
it was entered, if it was. -/
theorem registered_classes {pieces : List Piece} (h : ∀ i ∈ pieces, IsHint index i.shape) :
    (∀ name ∈ (registered pieces).names, index.Declares name) ∧
      ∀ name s, (registered pieces).get? name = some s → ∃ absent,
        IsClassSchemaWithout index absent name s ∧
          ∀ outer, outer ∈ absent ↔ EntersWithin pieces outer name := by
  induction pieces using List.reverseRecOn with
  | nil => exact ⟨fun name hn => absurd hn List.not_mem_nil, fun name s hs => absurd hs nofun⟩
  | append_singleton pieces i ih =>
    obtain ⟨hdeclared, hclasses⟩ := ih fun j hj => h j (List.mem_append_left _ hj)
    have henters := register_enters hplain hdeclared
      (h i (List.mem_append_right _ (List.mem_singleton_self i)))
    rw [registered_append_singleton]
    refine ⟨fun name hn => (henters.declared name hn).1, fun name s hs => ?_⟩
    by_cases hn : name ∈ (registered pieces).names
    · rw [(i.register_extends _).get?_eq name hn] at hs
      obtain ⟨absent, hclass, habsent⟩ := hclasses name s hs
      refine ⟨absent, hclass, fun outer => ?_⟩
      rw [habsent, entersWithin_append_singleton_iff]
      exact ⟨.inl, fun ho => ho.resolve_right fun ho => ho.2.1 hn⟩
    · refine ⟨i.absent (registered pieces), (henters.entered name s hs).resolve_left hn, fun outer => ?_⟩
      rw [entersWithin_append_singleton_iff]
      constructor
      · exact fun ho => .inr ⟨ho, hn, mem_names_of_get? hs⟩
      · rintro (ho | ho)
        · exact absurd (mem_names_of_entersWithin ho) hn
        · exact ho.1

/-- The component of a class describes its properties without the references to the class with whose
properties it was entered. -/
theorem exists_component_properties {pieces : List Piece} (h : ∀ i ∈ pieces, IsHint index i.shape)
    {c : ClassDecl} (hc : index.get? c.name = some c) {fields : List (String × TypeShape)}
    (hclass : classFields index [c.name] [c.name] c = .ok fields)
    {properties : List (String × TypeSchema)} {required : List String}
    (hcomponent : (registered pieces).get? c.name = some (.object properties required)) :
    ∃ lost, properties = propertiesWithout index lost fields ∧
      ∀ outer, outer ∈ lost ↔ EntersWithin pieces outer c.name := by
  obtain ⟨lost, ⟨c', active, fields', hc', _, hclass', hobject⟩, hlost⟩ :=
    (registered_classes hplain h).2 _ _ hcomponent
  obtain rfl := Option.some.inj (hc.symm.trans hc')
  refine ⟨lost, ?_, hlost⟩
  obtain ⟨hproperties, _⟩ := TypeSchema.object.inj hobject
  rw [hproperties, (classFields_agree hclass' hclass).propertiesWithout_eq lost]
  refine ofFields_of_nodup ?_
  rw [fieldNames_propertiesWithout]
  exact nodup_fieldNames_classFields hclass

/-- No class is entered with its own properties. -/
theorem not_entersWithin_self {pieces : List Piece} (h : ∀ i ∈ pieces, IsHint index i.shape)
    (name : String) : ¬ EntersWithin pieces name name := by
  rintro ⟨before, i, after, rfl, habsent, _, hentered⟩
  obtain ⟨hdeclared, _⟩ :=
    registered_classes hplain fun j hj => h j (List.mem_append_left _ hj)
  have henters := register_enters hplain hdeclared (h i (List.mem_append_right _ List.mem_cons_self))
  exact (henters.declared name hentered).2 habsent

end Run

/-! ## Documents -/

/-- Among these routes the inner class is entered while the properties of the outer one, which is absent,
are described in the place of a parameter. -/
def EntersBelow (baseUrl : String) (routes : List Route) (outer inner : String) : Prop :=
  ∃ o q r, DescribedAt baseUrl routes o q r ∧ q.source = .query ∧ q.type.properties.isSome ∧
    q.type.text = outer ∧ outer ∉ r.names ∧ inner ∉ r.names ∧
    inner ∈ ((describeParameter q).run r).2.names

/-- Names enter below routes as they enter within their pieces. -/
theorem entersBelow_iff {baseUrl : String} {routes : List Route} {outer inner : String} :
    EntersBelow baseUrl routes outer inner ↔ EntersWithin (pieces routes) outer inner := by
  constructor
  · rintro ⟨o, q, r, hq, hsource, hproperties, htext, houter, hinner, hentered⟩
    obtain ⟨before, after, hpieces, rfl⟩ := describedAt_iff.1 ⟨o, hq⟩
    exact ⟨before, _, after, hpieces,
      mem_absent_iff.2 ⟨flattened?_eq_some_iff.2 ⟨hsource, hproperties, htext⟩, houter⟩, hinner, hentered⟩
  · rintro ⟨before, i, after, hpieces, habsent, hinner, hentered⟩
    obtain ⟨hflattened, houter⟩ := mem_absent_iff.1 habsent
    cases i with
    | type t => cases hflattened
    | parameter q =>
      obtain ⟨hsource, hproperties, htext⟩ := flattened?_eq_some_iff.1 hflattened
      obtain ⟨o, hq⟩ := describedAt_iff.2 ⟨before, after, hpieces, rfl⟩
      exact ⟨o, q, _, hq, hsource, hproperties, htext, houter, hinner, hentered⟩

/-- What is said of a property in the query is what the component of its class says, exactly if neither
has lost the class that the property refers to: the class of the properties itself has been entered when
they are described, and it has not been entered with the properties of the other class. -/
theorem query_schema_eq_iff {index : ClassIndex}
    (hplain : ∀ name, index.Declares name → IsPlainName name) {info : ApiInfo}
    {controllers : List Controller}
    (hannotated : ∀ c ∈ controllers, ∀ e ∈ c.endpoints, IsAnnotated index e) {o : Operation}
    {p : Parameter} {r : Registry TypeSchema}
    (hp : DescribedAt info.baseUrl (RouteTable.ofControllers controllers) o p r)
    (hquery : p.source = .query) {fields : List (String × TypeShape)}
    (hfields : p.type.properties = some fields) {properties : List (String × TypeSchema)}
    {required : List String}
    (hcomponent : (ApiDocument.ofControllers info controllers).components.get? p.type.text =
      some (.object properties required)) :
    ((describeParameter p).run r).1 <:+: o.parameters ∧
      ∃ querySchema : String × TypeShape → TypeSchema,
        ((describeParameter p).run r).1 =
          fields.map (fun f => ⟨f.1, .query, !f.2.isOptional, querySchema f⟩) ∧
        ∀ f ∈ fields, ∃ s, field? f.1 properties = some s ∧
          (querySchema f = s ↔ ∀ name, (settledSchema index f.2).RefersTo name →
            (name = p.type.text → name ∈ r.names) ∧
              ¬ EntersBelow info.baseUrl (RouteTable.ofControllers controllers) name p.type.text) := by
  have hshapes : ∀ i ∈ pieces (RouteTable.ofControllers controllers), IsHint index i.shape := fun i =>
    isHint_of_mem_pieces hannotated
  obtain ⟨before, after, hpieces, rfl⟩ := describedAt_iff.1 ⟨o, hp⟩
  have hbefore : ∀ i ∈ before, IsHint index i.shape := fun i hi =>
    hshapes i (hpieces ▸ List.mem_append_left _ hi)
  have hpiece : IsHint index p.type :=
    hshapes (.parameter p) (hpieces ▸ List.mem_append_right before List.mem_cons_self)
  have hentries := run_describeParameter_flattened hplain (registered_classes hplain hbefore).1 hpiece
    hquery hfields
  obtain ⟨c, isOptional, htype, hc, _, hclass, _⟩ := exists_class_of_isHint hpiece hfields
  have htext : p.type.text = c.name := by rw [htype]; rfl
  rw [components_ofControllers, htext] at hcomponent
  obtain ⟨lost, rfl, hlost⟩ := exists_component_properties hplain hshapes hc hclass hcomponent
  have hnodup : (fieldNames (propertiesWithout index lost fields)).Nodup :=
    fieldNames_propertiesWithout lost fields ▸ nodup_fieldNames_classFields hclass
  refine ⟨hp.isInfix, _, hentries, fun f hf => ⟨withoutReferences lost (settledSchema index f.2),
    field?_eq_some_of_mem hnodup (List.mem_map.2 ⟨f, hf, rfl⟩), ?_⟩⟩
  -- the query has lost the references to the absent class, the component those to the outer class
  rw [withoutReferences_eq_iff]
  refine forall_congr' fun name => imp_congr_right fun _ => ?_
  rw [mem_absent_iff, flattened?_eq_some_iff, hlost, entersBelow_iff, htext, hfields]
  by_cases hname : name = c.name
  · have hself := not_entersWithin_self hplain hshapes c.name
    simp [hquery, hname, hself]
  · simp [hname, Ne.symm hname]

/-! ## A class that refers to itself -/

/-- A class with a property of its own type. -/
def nodeClass : ClassDecl :=
  ⟨"Node", [], [], [.annAssign (.name "label") (.name "str") none,
    .annAssign (.name "next") (.name "Node") none]⟩

/-- The shape of that class. -/
def nodeShape : TypeShape :=
  .object "Node" false [("label", .leaf "str" false), ("next", .leaf "Node" false)]

/-- A parameter that reads that class from the query. -/
def nodeParameter : Parameter := ⟨"node", nodeShape, .query, false⟩

/-- A handler with that parameter that answers with the class. -/
def nodeListing : Endpoint where
  name := "nodes"
  verb := "GET"
  route := "/nodes"
  parameters := [nodeParameter]
  returnType := nodeShape

/-- The handler by itself. -/
def nodeSearch : Controller := ⟨"api", "", [nodeListing], ""⟩

/-- The class is reflected as that shape. -/
theorem reflectHint_nodeClass :
    reflectHint ⟨[nodeClass]⟩ false (some (.name "Node")) = .ok nodeShape := by
  have hlabel : reflect ⟨[nodeClass]⟩ ["Node"] false (.name "str") = .ok (.leaf "str" false) :=
    reflect_unknown rfl rfl
  have hnext : reflect ⟨[nodeClass]⟩ ["Node"] false (.name "Node") = .ok (.leaf "Node" false) :=
    reflect_active (c := nodeClass) rfl rfl rfl (by decide)
  have hdecls : nodeClass.fieldDecls =
      [⟨"label", .name "str", false⟩, ⟨"next", .name "Node", false⟩] := rfl
  have hfields : classFields ⟨[nodeClass]⟩ ["Node"] ["Node"] nodeClass =
      .ok [("label", .leaf "str" false), ("next", .leaf "Node" false)] := by
    rw [classFields_eq, hdecls]
    show List.foldlM (declareField ⟨[nodeClass]⟩ ["Node"]) []
      [⟨"label", .name "str", false⟩, ⟨"next", .name "Node", false⟩] = _
    rw [List.foldlM_cons, declareField, hlabel]
    show List.foldlM (declareField ⟨[nodeClass]⟩ ["Node"]) [("label", .leaf "str" false)]
      [⟨"next", .name "Node", false⟩] = _
    rw [List.foldlM_cons, declareField, hnext]
    rfl
  show reflect ⟨[nodeClass]⟩ [] false (.name "Node") = _
  rw [reflect_class (c := nodeClass) rfl rfl rfl (by decide)]
  show (classFields ⟨[nodeClass]⟩ ["Node"] ["Node"] nodeClass >>= _) = _
  rw [hfields]
  rfl

/-- The controller is annotated with that class. -/
theorem isAnnotated_nodeSearch :
    ∀ c ∈ [nodeSearch], ∀ e ∈ c.endpoints, IsAnnotated ⟨[nodeClass]⟩ e := by
  intro c hc e he
  obtain rfl := List.mem_singleton.1 hc
  obtain rfl := List.mem_singleton.1 he
  have hshape : IsHint ⟨[nodeClass]⟩ nodeShape := ⟨false, _, reflectHint_nodeClass⟩
  refine ⟨fun p hp => ?_, hshape⟩
  obtain rfl := List.mem_singleton.1 hp
  exact hshape

/-- The document describes the parameter. -/
theorem describedAt_nodeParameter :
    ∃ o, DescribedAt ({} : ApiInfo).baseUrl (RouteTable.ofControllers [nodeSearch]) o nodeParameter .empty :=
  ⟨_, [], _, [], [], [], rfl, rfl, rfl, rfl⟩

/-- The component of the class. -/
theorem get?_nodeSearch : (ApiDocument.ofControllers {} [nodeSearch]).components.get? "Node" =
    some (.object [("label", ofTypeName "str"), ("next", .reference "Node")] ["label", "next"]) := rfl

/-- The query describes the label as the component does, and the next node as something else. -/
theorem query_schema_eq_iff_of_nodeSearch :
    ∃ querySchema : String × TypeShape → TypeSchema,
      ((describeParameter nodeParameter).run .empty).1 =
        [⟨"label", .query, true, querySchema ("label", .leaf "str" false)⟩,
          ⟨"next", .query, true, querySchema ("next", .leaf "Node" false)⟩] ∧
      querySchema ("label", .leaf "str" false) = ofTypeName "str" ∧
      querySchema ("next", .leaf "Node" false) ≠ .reference "Node" := by
  have hplain : ∀ name, ClassIndex.Declares ⟨[nodeClass]⟩ name → IsPlainName name := by
    rintro name ⟨c, hc, _⟩
    rw [← ClassIndex.name_of_get? hc, List.mem_singleton.1 (ClassIndex.mem_of_get? hc)]
    exact ⟨by decide, by decide, by decide⟩
  obtain ⟨o, ho⟩ := describedAt_nodeParameter
  obtain ⟨_, querySchema, hentries, hschemas⟩ :=
    query_schema_eq_iff hplain isAnnotated_nodeSearch ho rfl rfl get?_nodeSearch
  refine ⟨querySchema, hentries, ?_, fun hnext => ?_⟩
  · obtain ⟨s, hs, heq⟩ := hschemas _ List.mem_cons_self
    obtain rfl : ofTypeName "str" = s := Option.some.inj hs
    -- the type of the label is no class, so there is no reference to lose
    refine heq.2 fun name hr => ?_
    rw [settledSchema_leaf, if_neg (by decide)] at hr
    exact absurd hr (not_refersTo_ofTypeName _ _)
  · obtain ⟨s, hs, heq⟩ := hschemas _ (List.mem_cons_of_mem _ List.mem_cons_self)
    obtain rfl : TypeSchema.reference "Node" = s := Option.some.inj hs
    have hrefers : (settledSchema ⟨[nodeClass]⟩ (.leaf "Node" false)).RefersTo "Node" := by
      rw [settledSchema_leaf, if_pos (by decide)]
      exact .reference "Node"
    exact absurd ((heq.1 hnext "Node" hrefers).1 rfl) List.not_mem_nil

/-- The query need not describe a property as the component of its class does. -/
theorem not_forall_query_schema_eq :
    ¬ ∀ (index : ClassIndex) (info : ApiInfo) (controllers : List Controller),
      (∀ c ∈ controllers, ∀ e ∈ c.endpoints, IsAnnotated index e) →
      ∀ (o : Operation) (p : Parameter) (r : Registry TypeSchema),
        DescribedAt info.baseUrl (RouteTable.ofControllers controllers) o p r → p.source = .query →
        ∀ (properties : List (String × TypeSchema)) (required : List String),
          p.type.properties.isSome →
          (ApiDocument.ofControllers info controllers).components.get? p.type.text =
            some (.object properties required) →
          ∀ entry ∈ ((describeParameter p).run r).1, field? entry.name properties = some entry.schema := by
  intro h
  obtain ⟨o, ho⟩ := describedAt_nodeParameter
  have hentry : field? "next" [("label", ofTypeName "str"), ("next", .reference "Node")] =
      some (ofTypeName "Node") :=
    h ⟨[nodeClass]⟩ {} [nodeSearch] isAnnotated_nodeSearch o nodeParameter .empty ho rfl _ _ rfl
      get?_nodeSearch ⟨"next", .query, true, ofTypeName "Node"⟩
      (List.mem_cons_of_mem _ List.mem_cons_self)
  have hreference : TypeSchema.reference "Node" = ofTypeName "Node" := Option.some.inj hentry
  exact not_refersTo_ofTypeName "Node" "Node" (hreference ▸ .reference "Node")

end RouteAtlas.OpenApi
