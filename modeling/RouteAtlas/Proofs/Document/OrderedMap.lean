import Mathlib.Data.List.Nodup
import RouteAtlas.Document.Value

/-!
# Ordered maps by look-up

`field?` is the view of an ordered map: `setField` changes it at one name and nowhere else, keeps the
names in their places and never makes two entries of one name. With distinct names the entries and the
view say the same.
-/

namespace RouteAtlas.Document

variable {α β : Type}

/-- The names of an ordered map, in order. -/
def fieldNames (m : List (String × α)) : List String := m.map (·.1)

/-- An empty map has no names. -/
@[simp] theorem fieldNames_nil : fieldNames ([] : List (String × α)) = [] := rfl

/-- The names of a map stand in the order of its fields. -/
@[simp] theorem fieldNames_cons (k : String) (v : α) (m : List (String × α)) :
    fieldNames ((k, v) :: m) = k :: fieldNames m := rfl

/-- An empty map has no fields. -/
@[simp] theorem field?_nil (name : String) : field? name ([] : List (String × α)) = none := rfl

/-- A field is looked up from the front. -/
theorem field?_cons (name k : String) (v : α) (m : List (String × α)) :
    field? name ((k, v) :: m) = if k = name then some v else field? name m := by
  unfold field?
  by_cases h : k = name
  · simp [h]
  · simp [List.find?_cons_of_neg, h]

/-- A field of two maps is looked up in the first one before the second. -/
theorem field?_append (name : String) (m m' : List (String × α)) :
    field? name (m ++ m') = (field? name m).or (field? name m') := by
  simp [field?, List.find?_append, Option.map_or]

/-- A look-up after changing the values finds the changed value. -/
theorem field?_map (f : α → β) (name : String) (m : List (String × α)) :
    field? name (m.map fun e => (e.1, f e.2)) = (field? name m).map f := by
  induction m with
  | nil => rfl
  | cons e m ih =>
    obtain ⟨k, v⟩ := e
    rw [List.map_cons, field?_cons, field?_cons, ih]
    split <;> rfl

/-- A look-up finds an entry of the map. -/
theorem mem_of_field? {name : String} {v : α} {m : List (String × α)}
    (h : field? name m = some v) : (name, v) ∈ m := by
  induction m with
  | nil => simp at h
  | cons e m ih =>
    obtain ⟨k, w⟩ := e
    rw [field?_cons] at h
    split at h
    · next hk =>
      obtain rfl : w = v := by simpa using h
      simp [hk]
    · exact List.mem_cons_of_mem _ (ih h)

/-- A field has its name in the map. -/
theorem mem_fieldNames_of_mem {name : String} {v : α} {m : List (String × α)}
    (h : (name, v) ∈ m) : name ∈ fieldNames m := List.mem_map.2 ⟨_, h, rfl⟩

/-- A name has a field exactly if it is one of the names. -/
theorem isSome_field?_iff {name : String} {m : List (String × α)} :
    (field? name m).isSome ↔ name ∈ fieldNames m := by
  induction m with
  | nil => simp
  | cons e m ih =>
    obtain ⟨k, w⟩ := e
    rw [field?_cons, fieldNames_cons, List.mem_cons]
    by_cases hk : k = name
    · simp [hk]
    · have : ¬ name = k := fun h => hk h.symm
      simp [hk, this, ih]

/-- A name of the map has a field. -/
theorem exists_field?_of_mem {name : String} {m : List (String × α)} (h : name ∈ fieldNames m) :
    ∃ v, field? name m = some v := Option.isSome_iff_exists.1 (isSome_field?_iff.2 h)

/-- With distinct names every entry is found. -/
theorem field?_eq_some_of_mem {name : String} {v : α} {m : List (String × α)}
    (hm : (fieldNames m).Nodup) (h : (name, v) ∈ m) : field? name m = some v := by
  induction m with
  | nil => simp at h
  | cons e m ih =>
    obtain ⟨k, w⟩ := e
    rw [fieldNames_cons, List.nodup_cons] at hm
    rw [field?_cons]
    rcases List.mem_cons.1 h with he | h
    · obtain ⟨rfl, rfl⟩ := Prod.mk.inj he
      exact if_pos rfl
    · -- a first entry of the same name would make the names repeat
      have hk : k ≠ name := by
        rintro rfl
        exact hm.1 (mem_fieldNames_of_mem h)
      rw [if_neg hk]
      exact ih hm.2 h

/-! ## Setting a field -/

/-- A field that was set is found. -/
theorem field?_setField_self (name : String) (v : α) (m : List (String × α)) :
    field? name (setField name v m) = some v := by
  induction m with
  | nil => simp [setField, field?_cons]
  | cons e m ih =>
    obtain ⟨k, w⟩ := e
    by_cases hk : k = name
    · simp [setField, hk, field?_cons]
    · simp [setField, hk, field?_cons, ih]

/-- Setting a field leaves the others as they are. -/
theorem field?_setField_of_ne {name other : String} (h : other ≠ name) (v : α)
    (m : List (String × α)) : field? other (setField name v m) = field? other m := by
  induction m with
  | nil => simp [setField, field?_cons, h.symm]
  | cons e m ih =>
    obtain ⟨k, w⟩ := e
    by_cases hk : k = name
    · have : ¬ name = other := h.symm
      simp [setField, hk, field?_cons, this]
    · simp [setField, hk, field?_cons, ih]

/-- A name keeps its place; a new one comes last. -/
theorem fieldNames_setField (name : String) (v : α) (m : List (String × α)) :
    fieldNames (setField name v m) =
      if name ∈ fieldNames m then fieldNames m else fieldNames m ++ [name] := by
  induction m with
  | nil => simp [setField]
  | cons e m ih =>
    obtain ⟨k, w⟩ := e
    by_cases hk : k = name
    · simp [setField, hk]
    · have : ¬ name = k := fun h => hk h.symm
      by_cases hm : name ∈ fieldNames m
      · simp [setField, hk, ih, hm]
      · simp [setField, hk, ih, hm, this]

/-- Setting a field adds its name and no other. -/
theorem mem_fieldNames_setField {name other : String} {v : α} {m : List (String × α)} :
    other ∈ fieldNames (setField name v m) ↔ other = name ∨ other ∈ fieldNames m := by
  rw [fieldNames_setField]
  split
  · next h =>
    constructor
    · exact Or.inr
    · rintro (rfl | h')
      · exact h
      · exact h'
  · rw [List.mem_append, List.mem_singleton, or_comm]

/-- Setting a field keeps names distinct. -/
theorem nodup_fieldNames_setField {name : String} {v : α} {m : List (String × α)}
    (hm : (fieldNames m).Nodup) : (fieldNames (setField name v m)).Nodup := by
  rw [fieldNames_setField]
  split
  · exact hm
  · next h => exact hm.append (List.nodup_singleton name) (by simpa using h)

/-- An entry after setting a field is the one that was set or an earlier one. -/
theorem mem_setField {name : String} {v : α} {m : List (String × α)} {e : String × α}
    (h : e ∈ setField name v m) : e = (name, v) ∨ e ∈ m := by
  induction m with
  | nil => simpa [setField] using h
  | cons d m ih =>
    obtain ⟨k, w⟩ := d
    rw [setField] at h
    split at h
    · next hk =>
      rcases List.mem_cons.1 h with rfl | h
      · exact Or.inl (by rw [hk])
      · exact Or.inr (List.mem_cons_of_mem _ h)
    · rcases List.mem_cons.1 h with rfl | h
      · exact Or.inr List.mem_cons_self
      · rcases ih h with rfl | h
        · exact Or.inl rfl
        · exact Or.inr (List.mem_cons_of_mem _ h)

/-! ## Repeated assignment -/

/-- Folding assignments into a map keeps its names distinct. -/
theorem nodup_fieldNames_foldl_setField {fields m : List (String × α)}
    (hm : (fieldNames m).Nodup) :
    (fieldNames (fields.foldl (fun m f => setField f.1 f.2 m) m)).Nodup := by
  induction fields generalizing m with
  | nil => exact hm
  | cons f fields ih => exact ih (nodup_fieldNames_setField hm)

/-- An entry after assignments is one of them or an earlier one. -/
theorem mem_foldl_setField {fields m : List (String × α)} {e : String × α}
    (h : e ∈ fields.foldl (fun m f => setField f.1 f.2 m) m) : e ∈ fields ∨ e ∈ m := by
  induction fields generalizing m with
  | nil => exact Or.inr h
  | cons f fields ih =>
    rcases ih h with h | h
    · exact Or.inl (List.mem_cons_of_mem _ h)
    · rcases mem_setField h with rfl | h
      · exact Or.inl List.mem_cons_self
      · exact Or.inr h

/-- The fields of a map are among those that were set. -/
theorem mem_of_mem_ofFields {fields : List (String × α)} {e : String × α}
    (h : e ∈ ofFields fields) : e ∈ fields := by
  rcases mem_foldl_setField h with h | h
  · exact h
  · simp at h

/-- Setting fields adds their names and no others. -/
theorem mem_fieldNames_foldl_setField {name : String} {fields m : List (String × α)} :
    name ∈ fieldNames (fields.foldl (fun m f => setField f.1 f.2 m) m) ↔
      name ∈ fieldNames fields ∨ name ∈ fieldNames m := by
  induction fields generalizing m with
  | nil => simp
  | cons f fields ih =>
    rw [List.foldl_cons, ih, mem_fieldNames_setField, fieldNames_cons, List.mem_cons]
    tauto

/-- A look-up after assignments to distinct names finds what was assigned, or else what was there. -/
theorem field?_foldl_setField {more m : List (String × α)} (h : (fieldNames more).Nodup)
    (name : String) : field? name (more.foldl (fun m f => setField f.1 f.2 m) m) =
      (field? name more).or (field? name m) := by
  induction more generalizing m with
  | nil => rfl
  | cons f more ih =>
    obtain ⟨k, v⟩ := f
    obtain ⟨hk, hmore⟩ := List.nodup_cons.1 h
    rw [List.foldl_cons, ih hmore, field?_cons]
    split
    · next hname =>
      subst hname
      have hnone : field? k more = none := by
        rw [← Option.not_isSome_iff_eq_none, isSome_field?_iff]
        exact hk
      rw [hnone, field?_setField_self]
      rfl
    · next hname => rw [field?_setField_of_ne (Ne.symm hname)]

/-- A name that is assigned one value only has it. -/
theorem field?_ofFields_of_forall {name : String} {v : α} {fields : List (String × α)}
    (hname : name ∈ fieldNames fields) (h : ∀ e ∈ fields, e.1 = name → e.2 = v) :
    field? name (ofFields fields) = some v := by
  obtain ⟨w, hw⟩ := exists_field?_of_mem (mem_fieldNames_foldl_setField (m := []).2 (Or.inl hname))
  have hv : w = v := h (name, w) (mem_of_mem_ofFields (mem_of_field? hw)) rfl
  rw [← hv]
  exact hw

/-- A new field comes last. -/
theorem setField_of_not_mem {name : String} {m : List (String × α)} (h : name ∉ fieldNames m)
    (v : α) : setField name v m = m ++ [(name, v)] := by
  induction m with
  | nil => rfl
  | cons e m ih =>
    obtain ⟨k, w⟩ := e
    rw [fieldNames_cons, List.mem_cons, not_or] at h
    rw [setField, if_neg fun hk => h.1 hk.symm, ih h.2]
    rfl

/-- Assignments to names that are distinct and new are appended. -/
theorem foldl_setField_of_nodup {fields m : List (String × α)}
    (h : (fieldNames (m ++ fields)).Nodup) :
    fields.foldl (fun m f => setField f.1 f.2 m) m = m ++ fields := by
  induction fields generalizing m with
  | nil => rw [List.append_nil, List.foldl_nil]
  | cons f fields ih =>
    obtain ⟨k, v⟩ := f
    -- what has been assigned stands in `m`, so a name that is not repeated is new to it
    have hk : k ∉ fieldNames m := by
      unfold fieldNames at h ⊢
      rw [List.map_append, List.nodup_append] at h
      exact fun hmem => h.2.2 k hmem k List.mem_cons_self rfl
    rw [List.foldl_cons, setField_of_not_mem hk, ih (by rwa [List.append_assoc]), List.append_assoc]
    rfl

/-- With distinct names no assignment replaces another. -/
theorem ofFields_of_nodup {fields : List (String × α)} (h : (fieldNames fields).Nodup) :
    ofFields fields = fields := foldl_setField_of_nodup (m := []) h

end RouteAtlas.Document
