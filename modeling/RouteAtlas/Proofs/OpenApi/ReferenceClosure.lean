import RouteAtlas.Proofs.OpenApi.Describing
import RouteAtlas.Proofs.Schema.Written

/-!
# Reference closure of documents

`HoldsSchema` names the places of a written document where a schema stands: components, bodies,
parameters, responses and whatever these schemas hold. In the document of any list of controllers every
reference at such a place has its component, and every component is a finished object schema.
-/

namespace RouteAtlas.OpenApi

open RouteAtlas.Api RouteAtlas.Document RouteAtlas.Routing RouteAtlas.Schema RouteAtlas.Text

/-! ## Places of schemas -/

/-- The value below a sequence of fields. -/
def valueAt? (v : Value) (path : List String) : Option Value :=
  path.foldlM (fun v name => v.get? name) v

/-- A content map holds the schema under some media type. -/
def ContentHolds (v s : Value) : Prop :=
  ∃ content media entry, v.get? "content" = some (.map content) ∧ (media, entry) ∈ content ∧
    entry.get? "schema" = some s

/-- A written operation holds the schema in its body, a parameter or a response. -/
inductive OperationHolds (o s : Value) : Prop
  | body (v : Value) (hv : o.get? "requestBody" = some v) (hs : ContentHolds v s)
  | parameter (ps : List Value) (p : Value) (hps : o.get? "parameters" = some (.list ps))
      (hp : p ∈ ps) (hs : p.get? "schema" = some s)
  | response (rs : List (String × Value)) (status : String) (v : Value)
      (hrs : o.get? "responses" = some (.map rs)) (hv : (status, v) ∈ rs) (hs : ContentHolds v s)

/-- A written document has the operation under some path and verb. -/
def HasOperation (document o : Value) : Prop :=
  ∃ paths path methods verb, document.get? "paths" = some (.map paths) ∧
    (path, .map methods) ∈ paths ∧ (verb, o) ∈ methods

/-- The value stands in a written document where a schema stands. -/
inductive HoldsSchema (document : Value) : Value → Prop
  | component (components : List (String × Value)) (name : String) (s : Value)
      (h : valueAt? document ["components", "schemas"] = some (.map components))
      (hs : (name, s) ∈ components) : HoldsSchema document s
  | operation (o s : Value) (ho : HasOperation document o) (hs : OperationHolds o s) :
      HoldsSchema document s
  | inside (s t : Value) (hs : HoldsSchema document s) (ht : HasSubschema s t) :
      HoldsSchema document t

/-! ## Written operations -/

/-- What has content holds its schema and nothing else. -/
theorem contentHolds_iff {fields : List (String × Value)} {s : TypeSchema}
    (h : field? "content" fields = some (contentValue s)) {v : Value} :
    ContentHolds (.map fields) v ↔ v = s.toValue := by
  constructor
  · rintro ⟨content, media, entry, hcontent, hentry, hv⟩
    obtain rfl : [(jsonContentType, Value.map [("schema", s.toValue)])] = content := by
      simpa [Value.get?, h, contentValue] using hcontent
    obtain ⟨rfl, rfl⟩ := Prod.mk.inj (List.mem_singleton.1 hentry)
    simpa [Value.get?, field?_cons] using hv.symm
  · rintro rfl
    exact ⟨_, _, _, h, List.mem_singleton_self _, by simp [Value.get?, field?_cons]⟩

/-- A written operation has the body of the operation. -/
theorem get?_requestBody_toValue (o : Operation) :
    o.toValue.get? "requestBody" = o.body.map (·.toValue) := by
  simp only [Operation.toValue, Value.get?, field?_append]
  cases o.body <;> cases h : o.description.isEmpty <;> cases h' : o.parameters.isEmpty <;>
    simp [field?_cons]

/-- A written operation has the parameters of the operation, if there are any. -/
theorem get?_parameters_toValue (o : Operation) :
    o.toValue.get? "parameters" =
      if o.parameters.isEmpty then none else some (.list (o.parameters.map (·.toValue))) := by
  simp only [Operation.toValue, Value.get?, field?_append]
  cases o.body <;> cases h : o.description.isEmpty <;> cases h' : o.parameters.isEmpty <;>
    simp [field?_cons]

/-- A written operation has the response of the operation. -/
theorem get?_responses_toValue (o : Operation) :
    o.toValue.get? "responses" = some o.response.toValue := by
  simp only [Operation.toValue, Value.get?, field?_append]
  cases o.body <;> cases h : o.description.isEmpty <;> cases h' : o.parameters.isEmpty <;>
    simp [field?_cons]

/-- A written operation holds its schemas and no others. -/
theorem operationHolds_toValue_iff {o : Operation} {v : Value} :
    OperationHolds o.toValue v ↔ ∃ s ∈ o.schemas, v = s.toValue := by
  -- an operation holds schemas in three places: its body, its parameters and its answer
  constructor
  · intro h
    cases h with
    | body w hw hs =>
      rw [get?_requestBody_toValue] at hw
      obtain ⟨b, hb, rfl⟩ := Option.map_eq_some_iff.1 hw
      refine ⟨b.schema, ?_, (contentHolds_iff (by simp [field?_cons])).1 hs⟩
      simp [Operation.schemas, hb]
    | parameter ps p hps hp hs =>
      rw [get?_parameters_toValue] at hps
      split at hps
      · cases hps
      · obtain rfl : o.parameters.map (·.toValue) = ps := by simpa using hps
        obtain ⟨q, hq, rfl⟩ := List.mem_map.1 hp
        refine ⟨q.schema, ?_, by simpa [ParameterInfo.toValue, Value.get?, field?_cons] using hs.symm⟩
        exact List.mem_append_left _ (List.mem_append_right _ (List.mem_map_of_mem hq))
    | response rs status w hrs hw hs =>
      rw [get?_responses_toValue] at hrs
      cases hc : o.response.content with
      | none =>
        obtain rfl : _ = rs := by simpa [ResponseInfo.toValue, hc] using hrs
        obtain ⟨rfl, rfl⟩ := Prod.mk.inj (List.mem_singleton.1 hw)
        obtain ⟨content, _, _, hcontent, _⟩ := hs
        simp [Value.get?, field?_cons] at hcontent
      | some s =>
        obtain rfl : _ = rs := by simpa [ResponseInfo.toValue, hc] using hrs
        obtain ⟨rfl, rfl⟩ := Prod.mk.inj (List.mem_singleton.1 hw)
        refine ⟨s, ?_, (contentHolds_iff (by simp [field?_cons])).1 hs⟩
        simp [Operation.schemas, hc]
  · rintro ⟨s, hs, rfl⟩
    rcases List.mem_append.1 hs with hs | hs
    · rcases List.mem_append.1 hs with hs | hs
      · obtain ⟨b, hb, rfl⟩ := List.mem_map.1 hs
        refine .body b.toValue ?_ ((contentHolds_iff (by simp [field?_cons])).2 rfl)
        rw [get?_requestBody_toValue, Option.mem_toList.1 hb]
        rfl
      · obtain ⟨p, hp, rfl⟩ := List.mem_map.1 hs
        refine .parameter (o.parameters.map (·.toValue)) p.toValue ?_ (List.mem_map_of_mem hp)
          (by simp [ParameterInfo.toValue, Value.get?, field?_cons])
        have hne : o.parameters.isEmpty = false := by
          cases hps : o.parameters with
          | nil => simp [hps] at hp
          | cons q qs => rfl
        simp [get?_parameters_toValue, hne]
    · have hc : o.response.content = some s := Option.mem_toList.1 hs
      refine .response _ (toString o.response.status) _ (get?_responses_toValue o)
        (List.mem_singleton_self _) ?_
      simp only [hc]
      exact (contentHolds_iff (by simp [field?_cons])).2 rfl

/-! ## The table of paths -/

/-- The operations of a table. -/
def PathTable.operations (table : PathTable) : List Operation :=
  table.flatMap fun entry => entry.2.map (·.2)

/-- The schemas of the operations of a table. -/
def PathTable.schemas (table : PathTable) : List TypeSchema :=
  table.operations.flatMap (·.schemas)

/-- The operations of a table stand under its paths and verbs. -/
theorem PathTable.mem_operations {table : PathTable} {o : Operation} :
    o ∈ table.operations ↔ ∃ path methods verb, (path, methods) ∈ table ∧ (verb, o) ∈ methods := by
  simp [PathTable.operations]

/-- An operation after entering one is that one or an earlier one. -/
theorem PathTable.mem_operations_enter {table : PathTable} {path verb : String} {o other : Operation}
    (h : other ∈ (table.enter path verb o).operations) : other = o ∨ other ∈ table.operations := by
  obtain ⟨key, methods, verb', hkey, hother⟩ := mem_operations.1 h
  rcases mem_setField hkey with he | hkey
  · obtain ⟨rfl, rfl⟩ := Prod.mk.inj he
    rcases mem_setField hother with he | hother
    · exact Or.inl (Prod.mk.inj he).2
    · cases hf : field? key table with
      | none => simp [hf] at hother
      | some methods =>
        rw [hf] at hother
        exact Or.inr (mem_operations.2 ⟨key, methods, verb', mem_of_field? hf, hother⟩)
  · exact Or.inr (mem_operations.2 ⟨key, methods, verb', hkey, hother⟩)

/-- The schemas of a table stay resolved with one more route. -/
theorem describes_route (baseUrl : String) (table : PathTable) (route : Route) :
    Describes table.schemas (describeRoute baseUrl table route) PathTable.schemas := by
  unfold describeRoute
  refine (describes_operation _ baseUrl route.controller.name _ route.endpoint).bind fun o => ?_
  refine Describes.pure _ fun s hs => ?_
  obtain ⟨other, hother, hmem⟩ := List.mem_flatMap.1 hs
  rcases PathTable.mem_operations_enter hother with rfl | hother
  · exact List.mem_append_right _ hmem
  · exact List.mem_append_left _ (List.mem_flatMap.2 ⟨other, hother, hmem⟩)

namespace ApiDocument

/-- The components of a document are built and hold what its operations refer to. -/
theorem ofControllers_resolved (info : ApiInfo) (controllers : List Controller) :
    (ofControllers info controllers).components.Built [] ∧
      Resolved (ofControllers info controllers).components
        (ofControllers info controllers).paths.schemas := by
  have h := Describes.foldlM (RouteTable.ofControllers controllers)
    (fun table route _ => describes_route info.baseUrl table route) []
  obtain ⟨hbuilt, _, hres⟩ := h .empty built_empty (resolved_nil _)
  exact ⟨hbuilt, hres⟩

/-- A written document has the components of the document. -/
theorem valueAt?_components (d : ApiDocument) :
    valueAt? d.toValue ["components", "schemas"] = some (.map (schemaFields d.components.components)) := by
  simp [valueAt?, toValue, Value.get?, field?_cons, Registry.toValue]

/-- The operations of a written document are those of its table. -/
theorem exists_of_hasOperation {d : ApiDocument} {v : Value} (h : HasOperation d.toValue v) :
    ∃ o ∈ d.paths.operations, v = o.toValue := by
  obtain ⟨paths, path, methods, verb, hpaths, hpath, hverb⟩ := h
  obtain rfl : _ = paths := by simpa [toValue, Value.get?, field?_cons] using hpaths
  obtain ⟨entry, hentry, he⟩ := List.mem_map.1 hpath
  obtain ⟨_, hmethods⟩ := Prod.mk.inj he
  obtain rfl := Value.map.inj hmethods
  obtain ⟨operation, hoperation, he⟩ := List.mem_map.1 hverb
  obtain ⟨_, rfl⟩ := Prod.mk.inj he
  exact ⟨operation.2, PathTable.mem_operations.2 ⟨entry.1, entry.2, operation.1, hentry, hoperation⟩, rfl⟩

/-- What stands in schema position is a written schema, and what it refers to is a component. -/
theorem exists_of_holdsSchema (info : ApiInfo) (controllers : List Controller) {v : Value}
    (h : HoldsSchema (ofControllers info controllers).toValue v) :
    ∃ s : TypeSchema, v = s.toValue ∧
      ∀ name, s.RefersTo name → name ∈ (ofControllers info controllers).components.names := by
  obtain ⟨hbuilt, hres⟩ := ofControllers_resolved info controllers
  induction h with
  | component components name v h hv =>
    rw [valueAt?_components] at h
    obtain rfl := Value.map.inj (Option.some.inj h)
    obtain ⟨s, hs, rfl⟩ := mem_schemaFields hv
    exact ⟨s, rfl, hbuilt.closed name s (field?_eq_some_of_mem hbuilt.nodup hs)⟩
  | operation o v ho hv =>
    obtain ⟨operation, hmem, rfl⟩ := exists_of_hasOperation ho
    obtain ⟨s, hs, rfl⟩ := operationHolds_toValue_iff.1 hv
    exact ⟨s, rfl, fun name hn => hres name ⟨s, List.mem_flatMap.2 ⟨operation, hmem, hs⟩, hn⟩⟩
  | inside v w _ hw ih =>
    obtain ⟨s, rfl, hs⟩ := ih
    obtain ⟨t, rfl, ht⟩ := TypeSchema.exists_of_hasSubschema_toValue hw
    exact ⟨t, rfl, fun name hn => hs name (ht name hn)⟩

/-- In the document of any controllers, every reference in schema position names a component, and every
component is a finished object schema. -/
theorem ofControllers_references_closed (info : ApiInfo) (controllers : List Controller) :
    ∃ components, valueAt? (ofControllers info controllers).toValue ["components", "schemas"] =
        some (.map components) ∧
      (∀ s target, HoldsSchema (ofControllers info controllers).toValue s →
        s.get? "$ref" = some target →
        ∃ name ∈ fieldNames components, target = .str (componentPath ++ name)) ∧
      ∀ name s, (name, s) ∈ components → s.get? "type" = some (.str "object") ∧
        ∃ properties, s.get? "properties" = some (.map properties) := by
  refine ⟨_, valueAt?_components _, ?_, ?_⟩
  · intro v target hv hget
    obtain ⟨s, rfl, hs⟩ := exists_of_holdsSchema info controllers hv
    obtain ⟨name, rfl, rfl⟩ := TypeSchema.get?_ref_toValue hget
    refine ⟨name, ?_, rfl⟩
    rw [fieldNames_schemaFields]
    exact hs name (.reference name)
  · intro name v hv
    obtain ⟨hbuilt, _⟩ := ofControllers_resolved info controllers
    obtain ⟨s, hs, rfl⟩ := mem_schemaFields hv
    have hfin := hbuilt.finished name s (field?_eq_some_of_mem hbuilt.nodup hs)
    obtain ⟨properties, required, rfl⟩ := hfin.resolve_left (List.not_mem_nil)
    rw [TypeSchema.toValue_object]
    simp [Value.get?, field?_cons]

end ApiDocument

end RouteAtlas.OpenApi
