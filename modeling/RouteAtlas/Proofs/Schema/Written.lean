import RouteAtlas.Proofs.Schema.Components

/-!
# Schemas as documents write them

`HasSubschema` follows the keywords under which a written schema holds further schemas. Below a written
schema of the library stand written schemas only, and one of them is a reference exactly where the
schema is one.
-/

namespace RouteAtlas.Schema

open RouteAtlas.Document

/-- A written schema holds another one: it is that schema, or it holds it in its items, in a member of
a choice or in a property. -/
inductive HasSubschema : Value → Value → Prop
  | self (v : Value) : HasSubschema v v
  | items {v w x : Value} (h : v.get? "items" = some w) (hx : HasSubschema w x) : HasSubschema v x
  | member {v w x : Value} {members : List Value} (h : v.get? "oneOf" = some (.list members))
      (hw : w ∈ members) (hx : HasSubschema w x) : HasSubschema v x
  | property {v w x : Value} {properties : List (String × Value)} {key : String}
      (h : v.get? "properties" = some (.map properties)) (hw : (key, w) ∈ properties)
      (hx : HasSubschema w x) : HasSubschema v x

/-- Schemas are written one by one. -/
theorem schemaValues_eq_map (members : List TypeSchema) :
    schemaValues members = members.map (·.toValue) := by
  induction members with
  | nil => rfl
  | cons s r ih => rw [schemaValues, ih, List.map_cons]

/-- Named schemas are written one by one. -/
theorem schemaFields_eq_map (fields : List (String × TypeSchema)) :
    schemaFields fields = fields.map fun (k, s) => (k, s.toValue) := by
  induction fields with
  | nil => rfl
  | cons f r ih =>
    obtain ⟨k, s⟩ := f
    rw [schemaFields, ih, List.map_cons]

/-- Written schemas keep their names. -/
theorem fieldNames_schemaFields (fields : List (String × TypeSchema)) :
    fieldNames (schemaFields fields) = fieldNames fields := by
  simp [schemaFields_eq_map, fieldNames]

/-- A written field is that of a schema. -/
theorem mem_schemaFields {fields : List (String × TypeSchema)} {key : String} {v : Value}
    (h : (key, v) ∈ schemaFields fields) : ∃ s, (key, s) ∈ fields ∧ v = s.toValue := by
  rw [schemaFields_eq_map] at h
  obtain ⟨⟨k, s⟩, hs, he⟩ := List.mem_map.1 h
  obtain ⟨rfl, rfl⟩ := Prod.mk.inj he
  exact ⟨s, hs, rfl⟩

/-! ## The keywords of a written schema -/

namespace TypeSchema

/-- An object schema is written with its properties, and with the required ones if there are any. -/
theorem toValue_object (properties : List (String × TypeSchema)) (required : List String) :
    (object properties required).toValue =
      .map (("type", .str "object") :: ("properties", .map (schemaFields properties)) ::
        if required.isEmpty then [] else [("required", .strings required)]) := by
  rw [toValue]
  rfl

/-- Only arrays have items. -/
theorem get?_items_toValue {s : TypeSchema} {v : Value} (h : s.toValue.get? "items" = some v) :
    ∃ items, s = array items ∧ v = items.toValue := by
  cases s with
  | array items =>
    simp only [toValue, Value.get?, field?_cons] at h
    exact ⟨items, rfl, by simpa using h.symm⟩
  | leaf type format => cases format <;> simp [toValue, Value.get?, field?_cons] at h
  | object properties required =>
    rw [toValue_object] at h
    split at h <;> simp [Value.get?, field?_cons] at h
  | _ => simp [toValue, referenceValue, Value.get?, field?_cons] at h

/-- Only choices have members. -/
theorem get?_oneOf_toValue {s : TypeSchema} {v : Value} (h : s.toValue.get? "oneOf" = some v) :
    ∃ members, s = oneOf members ∧ v = .list (members.map (·.toValue)) := by
  cases s with
  | oneOf members =>
    simp only [toValue, schemaValues_eq_map, Value.get?, field?_cons] at h
    exact ⟨members, rfl, by simpa using h.symm⟩
  | leaf type format => cases format <;> simp [toValue, Value.get?, field?_cons] at h
  | object properties required =>
    rw [toValue_object] at h
    split at h <;> simp [Value.get?, field?_cons] at h
  | _ => simp [toValue, referenceValue, Value.get?, field?_cons] at h

/-- Only objects have properties. -/
theorem get?_properties_toValue {s : TypeSchema} {v : Value}
    (h : s.toValue.get? "properties" = some v) :
    ∃ properties required, s = object properties required ∧ v = .map (schemaFields properties) := by
  cases s with
  | object properties required =>
    simp only [toValue_object, Value.get?, field?_cons] at h
    exact ⟨properties, required, rfl, by simpa using h.symm⟩
  | leaf type format => cases format <;> simp [toValue, Value.get?, field?_cons] at h
  | _ => simp [toValue, referenceValue, Value.get?, field?_cons] at h

/-- Only references refer. -/
theorem get?_ref_toValue {s : TypeSchema} {v : Value} (h : s.toValue.get? "$ref" = some v) :
    ∃ name, s = reference name ∧ v = .str (componentPath ++ name) := by
  cases s with
  | reference name =>
    simp only [toValue, referenceValue, Value.get?, field?_cons] at h
    exact ⟨name, rfl, by simpa using h.symm⟩
  | leaf type format => cases format <;> simp [toValue, Value.get?, field?_cons] at h
  | object properties required =>
    rw [toValue_object] at h
    split at h <;> simp [Value.get?, field?_cons] at h
  | _ => simp [toValue, Value.get?, field?_cons] at h

/-- What a written schema holds is a written schema, and refers to no more than the whole. -/
theorem exists_of_hasSubschema_toValue {s : TypeSchema} {v : Value}
    (h : HasSubschema s.toValue v) :
    ∃ t : TypeSchema, v = t.toValue ∧ ∀ name, t.RefersTo name → s.RefersTo name := by
  generalize hw : s.toValue = w at h
  induction h generalizing s with
  | self v => exact ⟨s, hw.symm, fun _ h => h⟩
  | items h _ ih =>
    obtain ⟨items, rfl, he⟩ := get?_items_toValue (hw ▸ h)
    obtain ⟨t, ht, hrefs⟩ := ih he.symm
    exact ⟨t, ht, fun name hn => refersTo_array.2 (hrefs name hn)⟩
  | member h hmem _ ih =>
    obtain ⟨members, rfl, he⟩ := get?_oneOf_toValue (hw ▸ h)
    obtain rfl := Value.list.inj he
    obtain ⟨u, hu, hue⟩ := List.mem_map.1 hmem
    obtain ⟨t, ht, hrefs⟩ := ih hue
    exact ⟨t, ht, fun name hn => refersTo_oneOf.2 ⟨u, hu, hrefs name hn⟩⟩
  | property h hmem _ ih =>
    obtain ⟨properties, required, rfl, he⟩ := get?_properties_toValue (hw ▸ h)
    obtain rfl := Value.map.inj he
    obtain ⟨u, hu, hue⟩ := mem_schemaFields hmem
    obtain ⟨t, ht, hrefs⟩ := ih hue.symm
    exact ⟨t, ht, fun name hn => refersTo_object.2 ⟨_, u, hu, hrefs name hn⟩⟩

end TypeSchema

end RouteAtlas.Schema
