import Mathlib.Data.List.Induction
import RouteAtlas.Proofs.OpenApi.DescribedRoute

/-!
# Paths of documents

The paths that a document writes are those of its routes, each once and in the order in which they are
first met (`fieldNames_documentPaths`). Below them stand exactly the verbs of the routes
(`mem_documentPlaces_iff`).
-/

namespace RouteAtlas.OpenApi

open RouteAtlas.Api RouteAtlas.Document RouteAtlas.Routing RouteAtlas.Schema RouteAtlas.Text

/-! ## Reading a document -/

/-- The paths of a written document, each with what is written below it. -/
def documentPaths (document : Value) : List (String × Value) :=
  ((document.get? "paths").bind (·.fields?)).getD []

/-- The paths and verbs under which a written document has an operation. -/
def documentPlaces (document : Value) : List (String × String) :=
  (documentPaths document).flatMap fun (path, methods) =>
    (fieldNames (methods.fields?.getD [])).map (path, ·)

/-- The paths and verbs under which a table has an operation. -/
def PathTable.places (table : PathTable) : List (String × String) :=
  table.flatMap fun (path, methods) => (fieldNames methods).map (path, ·)

/-- The paths of a written document are those of the document. -/
theorem documentPaths_toValue (d : ApiDocument) : documentPaths d.toValue =
    d.paths.map fun (path, methods) =>
      (path, .map (methods.map fun (verb, o) => (verb, o.toValue))) := by
  simp [documentPaths, ApiDocument.toValue, Value.get?, field?_cons, Value.fields?]

/-- The places of a written document are those of its table. -/
theorem documentPlaces_toValue (d : ApiDocument) : documentPlaces d.toValue = d.paths.places := by
  unfold documentPlaces PathTable.places
  rw [documentPaths_toValue, List.flatMap_map]
  simp [fieldNames, Value.fields?, Function.comp_def]

/-! ## Entering operations -/

namespace PathTable

/-- The places of a table are those of its first path and of the rest. -/
theorem mem_places_cons {table : PathTable} {key path verb : String}
    {methods : List (String × Operation)} : (path, verb) ∈ places ((key, methods) :: table) ↔
      key = path ∧ verb ∈ fieldNames methods ∨ (path, verb) ∈ table.places := by
  unfold places
  simp [and_comm]

/-- Entering an operation adds its place and no other. -/
theorem mem_places_enter {table : PathTable} {path verb : String} {o : Operation}
    {place : String × String} :
    place ∈ (table.enter path verb o).places ↔ place = (path, verb) ∨ place ∈ table.places := by
  obtain ⟨path', verb'⟩ := place
  rw [Prod.mk.injEq]
  induction table with
  | nil => simp [enter, setField, eq_comm, places]
  | cons entry table ih =>
    obtain ⟨key, methods⟩ := entry
    by_cases hkey : key = path
    · have henter : enter ((key, methods) :: table) path verb o =
          (key, setField verb o methods) :: table := by
        simp [enter, setField, field?_cons, hkey]
      rw [henter, mem_places_cons, mem_places_cons, mem_fieldNames_setField, and_or_left, or_assoc,
        hkey, eq_comm]
    · have henter : enter ((key, methods) :: table) path verb o =
          (key, methods) :: enter table path verb o := by
        simp [enter, setField, field?_cons, hkey]
      rw [henter, mem_places_cons, mem_places_cons, ih]
      exact or_left_comm

end PathTable

/-- A last item counts among the first ones of their kind if there is none like it before. -/
theorem eraseDups_append_singleton (xs : List String) (x : String) :
    (xs ++ [x]).eraseDups = if x ∈ xs.eraseDups then xs.eraseDups else xs.eraseDups ++ [x] := by
  rw [List.eraseDups_append]
  by_cases hx : x ∈ xs
  · rw [if_pos (List.mem_eraseDups.2 hx)]
    simp [List.removeAll, hx]
  · rw [if_neg fun hmem => hx (List.mem_eraseDups.1 hmem)]
    simp [List.removeAll, hx, List.eraseDups_cons]

section Run

variable {baseUrl : String} {components : Registry TypeSchema}

/-- A path that is entered again keeps its place among the others; a new one comes last. -/
theorem fieldNames_run_describeRoutes (routes : List Route) :
    fieldNames ((routes.foldlM (describeRoute baseUrl) []).run components).1 =
      (routes.map fun r => documentPath r.path).eraseDups := by
  -- the last route finds the paths of those before it
  induction routes using List.reverseRecOn with
  | nil => rfl
  | append_singleton routes r ih =>
    rw [List.foldlM_append, StateT.run_bind]
    show fieldNames (((List.foldlM (describeRoute baseUrl) _ [r]).run _).1) = _
    rw [List.foldlM_cons, StateT.run_bind, run_describeRoute]
    show fieldNames (PathTable.enter _ _ _ _) = _
    unfold PathTable.enter
    rw [fieldNames_setField, ih, List.map_append, List.map_singleton, eraseDups_append_singleton]
    rfl

/-- The places of some routes are those of the operations that describe them. -/
theorem mem_places_run_describeRoutes (routes : List Route) (table : PathTable)
    {place : String × String} :
    place ∈ PathTable.places ((routes.foldlM (describeRoute baseUrl) table).run components).1 ↔
      place ∈ table.places ∨ ∃ r ∈ routes, placeOf r = place := by
  induction routes generalizing table components with
  | nil => exact (or_iff_left fun ⟨_, hr, _⟩ => absurd hr List.not_mem_nil).symm
  | cons r routes ih =>
    rw [List.foldlM_cons, StateT.run_bind, run_describeRoute]
    refine ih _ |>.trans ?_
    rw [PathTable.mem_places_enter, List.exists_mem_cons_iff]
    tauto

end Run

/-! ## Documents -/

namespace ApiDocument

variable (info : ApiInfo) (controllers : List Controller)

/-- A document writes the paths of its routes, each once and where it is first met. -/
theorem fieldNames_documentPaths :
    fieldNames (documentPaths (ofControllers info controllers).toValue) =
      ((RouteTable.ofControllers controllers).map fun r => documentPath r.path).eraseDups := by
  rw [documentPaths_toValue]
  unfold fieldNames
  rw [List.map_map]
  exact fieldNames_run_describeRoutes _

/-- A document has an operation exactly where a route is described. -/
theorem mem_documentPlaces_iff {place : String × String} :
    place ∈ documentPlaces (ofControllers info controllers).toValue ↔
      ∃ r ∈ RouteTable.ofControllers controllers, placeOf r = place := by
  rw [documentPlaces_toValue]
  refine (mem_places_run_describeRoutes (RouteTable.ofControllers controllers) []).trans ?_
  simp [PathTable.places]

end ApiDocument

end RouteAtlas.OpenApi
