import RouteAtlas.OpenApi.ApiDocument
import RouteAtlas.Proofs.Schema.Components

/-!
# Descriptions and the components they need

A description is built while components are entered. `Describes` says that a step keeps the registry
built, only extends it, and that every reference in what it describes has its component. It composes,
so it holds of whole operations and of the paths of a document.
-/

namespace RouteAtlas.OpenApi

open RouteAtlas.Api RouteAtlas.Document RouteAtlas.Routing RouteAtlas.Schema RouteAtlas.Text
open RouteAtlas.Schema.Registry

/-- One of the schemas refers to the component. -/
def SchemasReferTo (schemas : List TypeSchema) (name : String) : Prop :=
  ∃ s ∈ schemas, s.RefersTo name

/-- Every reference in the schemas has its component. -/
def Resolved (r : Registry TypeSchema) (schemas : List TypeSchema) : Prop :=
  ∀ name, SchemasReferTo schemas name → name ∈ r.names

/-- No schemas need no components. -/
theorem resolved_nil (r : Registry TypeSchema) : Resolved r [] := by
  rintro name ⟨s, hs, _⟩
  simp at hs

/-- Schemas of two lists are resolved together. -/
theorem resolved_append {r : Registry TypeSchema} {xs ys : List TypeSchema} (hx : Resolved r xs)
    (hy : Resolved r ys) : Resolved r (xs ++ ys) := by
  rintro name ⟨s, hs, hrefers⟩
  rcases List.mem_append.1 hs with hs | hs
  · exact hx name ⟨s, hs, hrefers⟩
  · exact hy name ⟨s, hs, hrefers⟩

/-- More components resolve what fewer do. -/
theorem Resolved.mono {r r' : Registry TypeSchema} {schemas : List TypeSchema}
    (h : Resolved r schemas) (hr : r.Extends r') : Resolved r' schemas :=
  fun name hname => hr.mem_names (h name hname)

/-- Some of the resolved schemas are resolved. -/
theorem Resolved.subset {r : Registry TypeSchema} {xs ys : List TypeSchema} (h : Resolved r ys)
    (hsub : xs ⊆ ys) : Resolved r xs := by
  rintro name ⟨s, hs, hrefers⟩
  exact h name ⟨s, hsub hs, hrefers⟩

/-- From a built registry in which `known` is resolved, the step leads to a built registry that extends
it and in which the schemas of the result are resolved. -/
def Describes {α : Type} (known : List TypeSchema) (p : Describing α)
    (schemas : α → List TypeSchema) : Prop :=
  ∀ r : Registry TypeSchema, r.Built [] → Resolved r known →
    (p r).2.Built [] ∧ r.Extends (p r).2 ∧ Resolved (p r).2 (schemas (p r).1)

namespace Describes

variable {α β : Type} {known : List TypeSchema}

/-- What is known can be returned. -/
theorem pure (a : α) {schemas : α → List TypeSchema} (h : schemas a ⊆ known) :
    Describes known (Pure.pure a) schemas :=
  fun r hr hknown => ⟨hr, Extends.refl r, hknown.subset h⟩

/-- A sequence may use what its first part has described. -/
theorem bind {p : Describing α} {f : α → Describing β} {schemas : α → List TypeSchema}
    {schemas' : β → List TypeSchema} (hp : Describes known p schemas)
    (hf : ∀ a, Describes (known ++ schemas a) (f a) schemas') :
    Describes known (p >>= f) schemas' := by
  intro r hr hknown
  obtain ⟨hbuilt, hext, hres⟩ := hp r hr hknown
  obtain ⟨hbuilt', hext', hres'⟩ :=
    hf (p r).1 (p r).2 hbuilt (resolved_append (hknown.mono hext) hres)
  exact ⟨hbuilt', hext.trans hext', hres'⟩

/-- Elements are described one after the other. -/
theorem mapM {f : α → Describing β} {schemas : β → List TypeSchema} (xs : List α)
    (hf : ∀ x ∈ xs, ∀ known, Describes known (f x) schemas) :
    Describes known (xs.mapM f) fun ys => ys.flatMap schemas := by
  induction xs generalizing known with
  | nil => exact Describes.pure [] (by simp)
  | cons x xs ih =>
    rw [List.mapM_cons]
    refine bind (hf x List.mem_cons_self known) fun y => ?_
    refine bind (ih fun x hx => hf x (List.mem_cons_of_mem _ hx)) fun ys => ?_
    exact Describes.pure (y :: ys) (by simp)

/-- A fold describes what its steps do. -/
theorem foldlM {f : β → α → Describing β} {schemas : β → List TypeSchema} (xs : List α)
    (hf : ∀ b, ∀ x ∈ xs, Describes (schemas b) (f b x) schemas) (b : β) :
    Describes (schemas b) (xs.foldlM f b) schemas := by
  induction xs generalizing b with
  | nil => exact Describes.pure b fun _ h => h
  | cons x xs ih =>
    rw [List.foldlM_cons]
    refine bind (hf b x List.mem_cons_self) fun b' => ?_
    -- the schemas of `b` may be gone from `b'`, only those of the latest result are carried on
    intro r hr hknown
    exact ih (fun b x hx => hf b x (List.mem_cons_of_mem _ hx)) b' r hr
      (hknown.subset (List.subset_append_right _ _))

end Describes

/-! ## The parts of an operation -/

/-- The schema of a type is resolved. -/
theorem describes_type (known : List TypeSchema) (t : TypeShape) :
    Describes known (describeType t) fun s => [s] := by
  intro r hr _
  refine ⟨schemaOf_built hr t, schemaOf_extends r t, ?_⟩
  rintro name ⟨s, hs, hrefers⟩
  rw [List.mem_singleton.1 hs] at hrefers
  exact mem_names_of_schemaOf_refersTo hr hrefers

/-- The schema of an object is resolved. -/
theorem describes_object (known : List TypeSchema) (properties : List (String × TypeShape)) :
    Describes known (fun r => objectSchema r properties) fun s => [s] := by
  intro r hr _
  refine ⟨objectSchema_built hr properties, propertySchemas_extends r properties, ?_⟩
  rintro name ⟨s, hs, hrefers⟩
  rw [List.mem_singleton.1 hs] at hrefers
  exact mem_names_of_objectSchema_refersTo hr hrefers

/-- The schema of a body is resolved. -/
theorem describes_body (known : List TypeSchema) (e : Endpoint) :
    Describes known (describeBody e) fun b => b.toList.map (·.schema) := by
  unfold describeBody
  split
  · exact Describes.pure none (by simp)
  · next body _ =>
    dsimp only
    split
    · exact (describes_object known _).bind fun s => Describes.pure _ (by simp)
    · exact (describes_type known body).bind fun s => Describes.pure _ (by simp)

/-- The schema of a query parameter is resolved. -/
theorem describes_query (known : List TypeSchema) (name : String) (t : TypeShape) :
    Describes known (describeQuery name t) fun p => [p.schema] :=
  (describes_type known t).bind fun s => Describes.pure _ (by simp)

/-- The schemas of a parameter are resolved. -/
theorem describes_parameter (known : List TypeSchema) (p : Parameter) :
    Describes known (describeParameter p) fun ps => ps.map (·.schema) := by
  unfold describeParameter
  split
  · split
    · next properties _ =>
      have hmap : (fun ps : List ParameterInfo => ps.map (·.schema)) =
          fun ps => ps.flatMap fun p => [p.schema] := funext fun ps => List.map_eq_flatMap
      rw [hmap]
      exact Describes.mapM properties fun x _ known => describes_query known x.1 x.2
    · exact (describes_query known p.name p.type).bind fun q => Describes.pure [q] (by simp)
  · exact (describes_type known p.type).bind fun s => Describes.pure _ (by simp)
  · exact Describes.pure [] (by simp)
  · exact Describes.pure [] (by simp)

/-- The schema of a response is resolved. -/
theorem describes_response (known : List TypeSchema) (e : Endpoint) :
    Describes known (describeResponse e) fun a => a.content.toList := by
  unfold describeResponse
  dsimp only
  split
  · exact Describes.pure _ (by simp)
  · exact (describes_type known e.returnType).bind fun s => Describes.pure _ (by simp)

/-- The schemas that stand in an operation. -/
def Operation.schemas (o : Operation) : List TypeSchema :=
  o.body.toList.map (·.schema) ++ o.parameters.map (·.schema) ++ o.response.content.toList

/-- The schemas of an operation are resolved. -/
theorem describes_operation (known : List TypeSchema) (baseUrl tag path : String) (e : Endpoint) :
    Describes known (Operation.ofEndpoint baseUrl tag path e) Operation.schemas := by
  unfold Operation.ofEndpoint
  refine (describes_body known e).bind fun body => ?_
  refine (Describes.mapM e.parameters fun p _ known => describes_parameter known p).bind
    fun parameters => ?_
  refine (describes_response _ e).bind fun response => Describes.pure _ ?_
  simp [Operation.schemas, List.map_flatten, List.flatMap_def]

end RouteAtlas.OpenApi
