import RouteAtlas.Proofs.Schema.Registration

/-!
# What is built, and once

A tracked registry notes each name whose schema it begins to build (`Tracked.register`). Describing types
with it gives the same schemas and the same registry (`trackedSchema_erases`), and the names that it notes
are those that the registry gains, each of them new and none twice (`Tracked.Gains`). So over any sequence
of types components are only added, each is built once, and what is once there stays
(`registryAfter_permanent`).
-/

namespace RouteAtlas.Schema

open RouteAtlas.Api RouteAtlas.Document

/-! ## Tracked registries -/

/-- A registry with the names whose schemas have been begun, in order. -/
structure Tracked where
  registry : Registry TypeSchema
  builds : List String

namespace Tracked

/-- Enters a component under a name that is new, and notes the name before its schema is built. -/
def register (s : Tracked) (name : String) (build : Tracked → TypeSchema × Tracked) : Tracked :=
  if s.registry.contains name then s
  else
    let (schema, s) := build ⟨s.registry.set name .any, s.builds ++ [name]⟩
    ⟨s.registry.set name schema, s.builds⟩

/-- A known component is not built again. -/
theorem register_of_mem {s : Tracked} {name : String} (h : name ∈ s.registry.names)
    (build : Tracked → TypeSchema × Tracked) : s.register name build = s :=
  if_pos (Registry.contains_iff.2 h)

/-- A new component is built once, after its name was entered. -/
theorem register_of_not_mem {s : Tracked} {name : String} (h : name ∉ s.registry.names)
    (build : Tracked → TypeSchema × Tracked) :
    s.register name build =
      let built := build ⟨s.registry.set name .any, s.builds ++ [name]⟩
      ⟨built.2.registry.set name built.1, built.2.builds⟩ :=
  if_neg fun hc => h (Registry.contains_iff.1 hc)

end Tracked

mutual

/-- The schema of a type, and the tracked registry with the components that it needs. -/
def trackedSchema (s : Tracked) : TypeShape → TypeSchema × Tracked
  | ⟨_, _, _, some items, _, _⟩ =>
    let (schema, s) := trackedSchema s items
    (.array schema, s)
  | ⟨_, _, _, none, _, some members⟩ => (.oneOf (members.map ofTypeName), s)
  | ⟨text, _, _, none, some properties, none⟩ =>
    let name := componentName text
    (.reference name, s.register name fun s =>
      let (fields, s) := trackedProperties s properties
      (.object (ofFields fields) (requiredNames properties), s))
  | ⟨text, _, _, none, none, none⟩ => (leafSchema s.registry text, s)

/-- The schemas of properties, one after another. -/
def trackedProperties (s : Tracked) :
    List (String × TypeShape) → List (String × TypeSchema) × Tracked
  | [] => ([], s)
  | (name, t) :: rest =>
    let (schema, s) := trackedSchema s t
    let (more, s) := trackedProperties s rest
    ((name, schema) :: more, s)

end

/-- The schema of an object with these properties. -/
def trackedObject (s : Tracked) (properties : List (String × TypeShape)) : TypeSchema × Tracked :=
  let (fields, s) := trackedProperties s properties
  (.object (ofFields fields) (requiredNames properties), s)

/-! ## A tracked run is a run -/

/-- The result of a tracked run is that of a plain one, with names noted beside it. -/
structure Erases {α : Type} (tracked : α × Tracked) (plain : α × Registry TypeSchema) : Prop where
  value : tracked.1 = plain.1
  registry : tracked.2.registry = plain.2

/-- Entering a component erases to entering it, if building it does. -/
theorem Erases.register {s : Tracked} {name : String} {build : Tracked → TypeSchema × Tracked}
    {plainBuild : Registry TypeSchema → TypeSchema × Registry TypeSchema}
    (h : ∀ s, Erases (build s) (plainBuild s.registry)) :
    (s.register name build).registry = s.registry.register name .any plainBuild := by
  by_cases hn : name ∈ s.registry.names
  · rw [Tracked.register_of_mem hn, Registry.register_of_mem hn]
  · have hbuilt := h ⟨s.registry.set name .any, s.builds ++ [name]⟩
    rw [Tracked.register_of_not_mem hn, Registry.register_of_not_mem hn]
    show Registry.set _ name _ = _
    rw [hbuilt.value, hbuilt.registry]

/-- Tracking builds changes no schema and no registry. -/
theorem trackedSchema_erases_and_trackedProperties_erases :
    (∀ (s : Tracked) (t : TypeShape), Erases (trackedSchema s t) (schemaOf s.registry t)) ∧
      ∀ (s : Tracked) (properties : List (String × TypeShape)),
        Erases (trackedProperties s properties) (propertySchemas s.registry properties) := by
  refine trackedSchema.mutual_induct (fun s t => Erases (trackedSchema s t) (schemaOf s.registry t))
    (fun s properties =>
      Erases (trackedProperties s properties) (propertySchemas s.registry properties))
    ?items ?union ?properties ?leaf ?nil ?cons
  case items =>
    intro s text isArray isOptional items properties unionTypes schema s₁ _ ih
    rw [trackedSchema, schemaOf_items]
    exact ⟨congrArg TypeSchema.array ih.value, ih.registry⟩
  case union =>
    intro s text isArray isOptional properties members
    rw [trackedSchema, schemaOf_union]
    exact ⟨rfl, rfl⟩
  case properties =>
    intro s text isArray isOptional properties ih
    rw [trackedSchema, schemaOf_properties]
    have hobject (s : Tracked) :
        Erases (trackedObject s properties) (objectSchema s.registry properties) :=
      ⟨congrArg (fun fields => TypeSchema.object (ofFields fields) (requiredNames properties))
        (ih s).value, (ih s).registry⟩
    have hregister : (s.register (componentName text) fun s => trackedObject s properties).registry =
        s.registry.register (componentName text) .any fun r => objectSchema r properties :=
      Erases.register hobject
    exact ⟨rfl, hregister⟩
  case leaf =>
    intro s text isArray isOptional
    rw [trackedSchema, schemaOf_leaf]
    exact ⟨rfl, rfl⟩
  case nil =>
    intro s
    rw [trackedProperties, propertySchemas_nil]
    exact ⟨rfl, rfl⟩
  case cons =>
    intro s name t rest schema s₁ h₁ more s₂ _ iht ihrest
    rw [trackedProperties, propertySchemas_cons, ← iht.value, ← iht.registry, h₁]
    exact ⟨congrArg ((name, schema) :: ·) ihrest.value, ihrest.registry⟩

/-- Tracking builds changes no schema of a type. -/
theorem trackedSchema_erases (s : Tracked) (t : TypeShape) :
    Erases (trackedSchema s t) (schemaOf s.registry t) :=
  trackedSchema_erases_and_trackedProperties_erases.1 s t

/-! ## What is noted is gained -/

/-- The names that are noted are those that the registry gains, all new and none twice. -/
structure Gains (s s' : Tracked) (added : List String) : Prop where
  names : s'.registry.names = s.registry.names ++ added
  builds : s'.builds = s.builds ++ added
  nodup : added.Nodup
  fresh : ∀ name ∈ added, name ∉ s.registry.names

namespace Gains

variable {s s' s'' : Tracked} {added more : List String}

/-- Nothing is gained without a build. -/
theorem refl (s : Tracked) : Gains s s [] :=
  ⟨(List.append_nil _).symm, (List.append_nil _).symm, List.nodup_nil, nofun⟩

/-- What is gained in two steps is gained. -/
theorem trans (h : Gains s s' added) (h' : Gains s' s'' more) : Gains s s'' (added ++ more) := by
  refine ⟨by rw [h'.names, h.names, List.append_assoc], by rw [h'.builds, h.builds, List.append_assoc],
    ?_, fun name hname => ?_⟩
  · refine List.nodup_append'.2 ⟨h.nodup, h'.nodup, fun name hadded hmore => ?_⟩
    refine h'.fresh name hmore ?_
    rw [h.names]
    exact List.mem_append_right _ hadded
  · rcases List.mem_append.1 hname with hadded | hmore
    · exact h.fresh name hadded
    · refine fun hold => h'.fresh name hmore ?_
      rw [h.names]
      exact List.mem_append_left _ hold

/-- A name that is entered is gained before the names that its schema gains. -/
theorem register {name : String} {build : Tracked → TypeSchema × Tracked}
    (h : ∀ s, ∃ added, Gains s (build s).2 added) : ∃ added, Gains s (s.register name build) added := by
  by_cases hn : name ∈ s.registry.names
  · rw [Tracked.register_of_mem hn]
    exact ⟨[], refl s⟩
  · obtain ⟨added, hadded⟩ := h ⟨s.registry.set name .any, s.builds ++ [name]⟩
    have hentered : Gains s ⟨s.registry.set name .any, s.builds ++ [name]⟩ [name] :=
      ⟨Registry.names_set_of_not_mem hn _, rfl, List.nodup_singleton name,
        List.forall_mem_singleton.2 hn⟩
    have hbuilt := hentered.trans hadded
    refine ⟨[name] ++ added, ?_⟩
    rw [Tracked.register_of_not_mem hn]
    -- the finished schema takes the place of the one that was entered, under a name that is there
    refine ⟨?_, hbuilt.builds, hbuilt.nodup, hbuilt.fresh⟩
    refine (Registry.names_set_of_mem ?_ _).trans hbuilt.names
    rw [hbuilt.names]
    exact List.mem_append_right _ List.mem_cons_self

end Gains

/-- Describing types only gains builds. -/
theorem trackedSchema_gains_and_trackedProperties_gains :
    (∀ (s : Tracked) (t : TypeShape), ∃ added, Gains s (trackedSchema s t).2 added) ∧
      ∀ (s : Tracked) (properties : List (String × TypeShape)),
        ∃ added, Gains s (trackedProperties s properties).2 added := by
  refine trackedSchema.mutual_induct (fun s t => ∃ added, Gains s (trackedSchema s t).2 added)
    (fun s properties => ∃ added, Gains s (trackedProperties s properties).2 added)
    ?items ?union ?properties ?leaf ?nil ?cons
  case items =>
    intro s text isArray isOptional items properties unionTypes schema s₁ _ ih
    rw [trackedSchema]
    exact ih
  case union =>
    intro s text isArray isOptional properties members
    rw [trackedSchema]
    exact ⟨[], Gains.refl s⟩
  case properties =>
    intro s text isArray isOptional properties ih
    rw [trackedSchema]
    have hobject (s : Tracked) : ∃ added, Gains s (trackedObject s properties).2 added := ih s
    exact Gains.register hobject
  case leaf =>
    intro s text isArray isOptional
    rw [trackedSchema]
    exact ⟨[], Gains.refl s⟩
  case nil =>
    intro s
    rw [trackedProperties]
    exact ⟨[], Gains.refl s⟩
  case cons =>
    intro s name t rest schema s₁ h₁ more s₂ _ iht ihrest
    rw [h₁] at iht
    rw [trackedProperties, h₁]
    obtain ⟨added, hadded⟩ := iht
    obtain ⟨addedRest, hrest⟩ := ihrest
    exact ⟨added ++ addedRest, hadded.trans hrest⟩

/-! ## Sequences of types -/

/-- The registry after these types are described one after another. -/
def registryAfter (r : Registry TypeSchema) (shapes : List TypeShape) : Registry TypeSchema :=
  shapes.foldl (fun r t => (schemaOf r t).2) r

/-- The tracked registry after these types are described one after another. -/
def trackedAfter (s : Tracked) (shapes : List TypeShape) : Tracked :=
  shapes.foldl (fun s t => (trackedSchema s t).2) s

/-- A registry only gains components. -/
theorem registryAfter_extends (r : Registry TypeSchema) (shapes : List TypeShape) :
    r.Extends (registryAfter r shapes) := by
  induction shapes generalizing r with
  | nil => exact .refl r
  | cons t shapes ih => exact (schemaOf_extends r t).trans (ih _)

/-- Tracking builds changes no registry. -/
theorem registry_trackedAfter (s : Tracked) (shapes : List TypeShape) :
    (trackedAfter s shapes).registry = registryAfter s.registry shapes := by
  induction shapes generalizing s with
  | nil => rfl
  | cons t shapes ih =>
    refine (ih _).trans ?_
    rw [(trackedSchema_erases s t).registry]
    rfl

/-- Describing a list of types only gains builds. -/
theorem trackedAfter_gains (s : Tracked) (shapes : List TypeShape) :
    ∃ added, Gains s (trackedAfter s shapes) added := by
  induction shapes generalizing s with
  | nil => exact ⟨[], .refl s⟩
  | cons t shapes ih =>
    obtain ⟨added, hadded⟩ := trackedSchema_gains_and_trackedProperties_gains.1 s t
    obtain ⟨more, hmore⟩ := ih (trackedSchema s t).2
    exact ⟨added ++ more, hadded.trans hmore⟩

/-- Components are permanent. Describing further types appends names to those of the registry and leaves
every component that is there as it is. Of the names whose schemas are begun on the way, which a tracked
run notes, none was there before and none is begun twice. -/
theorem registryAfter_permanent (r : Registry TypeSchema) :
    (∀ earlier later : List TypeShape,
      (∃ added, (registryAfter r (earlier ++ later)).names = (registryAfter r earlier).names ++ added) ∧
      ∀ name schema, (registryAfter r earlier).get? name = some schema →
        (registryAfter r (earlier ++ later)).get? name = some schema) ∧
    (∀ (s : Tracked) (t : TypeShape), Erases (trackedSchema s t) (schemaOf s.registry t)) ∧
    ∀ shapes : List TypeShape, ∃ builds : List String,
      trackedAfter ⟨r, []⟩ shapes = ⟨registryAfter r shapes, builds⟩ ∧
      (registryAfter r shapes).names = r.names ++ builds ∧
      builds.Nodup ∧ ∀ name ∈ builds, name ∉ r.names := by
  refine ⟨fun earlier later => ?_, trackedSchema_erases, fun shapes => ?_⟩
  · have hextends : (registryAfter r earlier).Extends (registryAfter r (earlier ++ later)) := by
      have happend :
          registryAfter r (earlier ++ later) = registryAfter (registryAfter r earlier) later :=
        List.foldl_append
      rw [happend]
      exact registryAfter_extends _ later
    refine ⟨hextends.names_append, fun name schema h => ?_⟩
    rw [hextends.get?_eq name (Registry.mem_names_of_get? h), h]
  · obtain ⟨builds, hbuilds⟩ := trackedAfter_gains ⟨r, []⟩ shapes
    have hregistry := registry_trackedAfter ⟨r, []⟩ shapes
    refine ⟨builds, ?_, hregistry ▸ hbuilds.names, hbuilds.nodup, hbuilds.fresh⟩
    rw [← hregistry, ← show (trackedAfter ⟨r, []⟩ shapes).builds = builds from hbuilds.builds]

/-- The first type of a name stays, whatever later types of that name are made of. -/
example : (registryAfter .empty [.object "Dto" false [("a", .leaf "str" false)],
    .object "Dto" false [("b", .leaf "int" false)]]).get? "Dto" =
      some (.object [("a", ofTypeName "str")] ["a"]) := by
  rfl

end RouteAtlas.Schema
