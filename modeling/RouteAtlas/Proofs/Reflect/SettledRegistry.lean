import RouteAtlas.Proofs.Reflect.SettledSchema
import RouteAtlas.Proofs.Schema.Components

/-!
# Registries of reflected classes

Where every class has a name that spells itself, describing a reflected shape gives its settled schema
and enters exactly the classes that this schema needs, each with the schema on which all expansions
agree (`schemaOf_settled`). So nothing in the registry tells where a class was expanded first.

That takes for granted that a class which is being expanded is entered. Where one is absent, the schemas
and the components that arise meanwhile are the same without the references to it
(`schemaOf_without`).
-/

namespace RouteAtlas.Reflect

open RouteAtlas.Api RouteAtlas.Document RouteAtlas.Schema RouteAtlas.Schema.Registry
open RouteAtlas.Syntax

/-! ## The schema of a class -/

/-- The schema of an object with these fields, where every class is a component. -/
def settledObject (index : ClassIndex) (fields : List (String × TypeShape)) : TypeSchema :=
  .object (ofFields (fields.map fun f => (f.1, settledSchema index f.2))) (requiredNames fields)

/-- The schema belongs to a class of the index, whatever classes are being expanded around it. -/
def IsClassSchema (index : ClassIndex) (name : String) (s : TypeSchema) : Prop :=
  ∃ c active fields, index.get? name = some c ∧ c.isEnum = false ∧
    classFields index active [c.name] c = .ok fields ∧ s = settledObject index fields

variable {index : ClassIndex}

/-- Fields that agree have the same settled schemas. -/
theorem FieldsAgree.settledFields_eq {fields fields' : List (String × TypeShape)}
    (h : FieldsAgree index fields fields') :
    (fields.map fun f => (f.1, settledSchema index f.2)) =
      fields'.map fun f => (f.1, settledSchema index f.2) := by
  induction h with
  | nil => rfl
  | cons hfg _ ih =>
    obtain ⟨hname, _, hschema⟩ := hfg
    rw [List.map_cons, List.map_cons, hname, hschema, ih]

/-- The first field is required unless it is optional. -/
theorem requiredNames_cons (name : String) (t : TypeShape) (fields : List (String × TypeShape)) :
    requiredNames ((name, t) :: fields) =
      if t.isOptional then requiredNames fields else name :: requiredNames fields := by
  unfold requiredNames
  by_cases h : t.isOptional <;> simp [h]

/-- Fields that agree require the same names. -/
theorem FieldsAgree.requiredNames_eq {fields fields' : List (String × TypeShape)}
    (h : FieldsAgree index fields fields') : requiredNames fields = requiredNames fields' := by
  induction h with
  | nil => rfl
  | @cons f g fields fields' hfg _ ih =>
    obtain ⟨k, t⟩ := f
    obtain ⟨k', u⟩ := g
    obtain ⟨rfl, hoptional, _⟩ := hfg
    rw [requiredNames_cons, requiredNames_cons, hoptional, ih]

/-- A class has one schema. -/
theorem IsClassSchema.unique {name : String} {s s' : TypeSchema} (h : IsClassSchema index name s)
    (h' : IsClassSchema index name s') : s = s' := by
  obtain ⟨c, active, fields, hc, _, hfields, rfl⟩ := h
  obtain ⟨c', active', fields', hc', _, hfields', rfl⟩ := h'
  obtain rfl := Option.some.inj (hc.symm.trans hc')
  have hagree := classFields_agree hfields hfields'
  unfold settledObject
  rw [hagree.settledFields_eq, hagree.requiredNames_eq]

/-- The names of the fields of a class are distinct. -/
theorem nodup_fieldNames_classFields {active lineage : List String} {c : ClassDecl}
    {fields : List (String × TypeShape)} (h : classFields index active lineage c = .ok fields) :
    (fieldNames fields).Nodup := by
  rw [classFields_eq] at h
  obtain ⟨inherited, hinherited, h⟩ := exists_of_bind_eq_ok h
  refine foldlM_ok_induction (P := fun fields => (fieldNames fields).Nodup) _ ?own ?inherited h
  case own =>
    intro fields d _ fields' hstep hnodup
    obtain ⟨t, _, he⟩ := exists_of_bind_eq_ok hstep
    obtain rfl := Except.ok.inj he
    exact nodup_fieldNames_setField hnodup
  case inherited =>
    refine foldlM_ok_induction (P := fun fields => (fieldNames fields).Nodup) _ ?_ ?_ hinherited
    case refine_2 => exact List.nodup_nil
    intro fields base _ fields' hstep hnodup
    unfold inheritFields at hstep
    split at hstep
    · exact Except.ok.inj hstep ▸ hnodup
    split at hstep
    · exact Except.ok.inj hstep ▸ hnodup
    obtain ⟨own, _, he⟩ := exists_of_bind_eq_ok hstep
    obtain rfl := Except.ok.inj he
    exact nodup_fieldNames_foldl_setField hnodup

/-- What the schema of a field refers to, the schema of the class refers to. -/
theorem refersTo_settledObject {fields : List (String × TypeShape)}
    (hnodup : (fieldNames fields).Nodup) {f : String × TypeShape} (hf : f ∈ fields) {name : String}
    (h : (settledSchema index f.2).RefersTo name) : (settledObject index fields).RefersTo name := by
  have hnames : fieldNames (fields.map fun f => (f.1, settledSchema index f.2)) = fieldNames fields := by
    unfold fieldNames
    rw [List.map_map]
    rfl
  have hmem : (f.1, settledSchema index f.2) ∈ fields.map fun f => (f.1, settledSchema index f.2) :=
    List.mem_map.2 ⟨f, hf, rfl⟩
  unfold settledObject
  rw [ofFields_of_nodup (hnames.symm ▸ hnodup)]
  exact .object hmem h

/-! ## The classes that a schema needs -/

/-- The schema refers to the class, or the schema of a class that it needs does. -/
inductive Needed (index : ClassIndex) (s : TypeSchema) : String → Prop
  | direct {name : String} (h : s.RefersTo name) : Needed index s name
  | component {other name : String} {u : TypeSchema} (h : Needed index s other)
      (hu : IsClassSchema index other u) (hr : u.RefersTo name) : Needed index s name

/-- What a needed class needs is needed. -/
theorem Needed.trans {s u : TypeSchema} {other name : String} (h : Needed index s other)
    (hu : IsClassSchema index other u) (hn : Needed index u name) : Needed index s name := by
  induction hn with
  | direct hr => exact .component h hu hr
  | component _ hv hr ih => exact .component ih hv hr

/-- What the items need the array needs. -/
theorem Needed.array {s : TypeSchema} {name : String} (h : Needed index s name) :
    Needed index (.array s) name := by
  induction h with
  | direct hr => exact .direct (.array hr)
  | component _ hv hr ih => exact .component ih hv hr

/-- What a field of a class needs, a schema that refers to the class needs. -/
theorem Needed.field {s : TypeSchema} {active : List String} {c : ClassDecl}
    {fields : List (String × TypeShape)} (h : Needed index s c.name)
    (hc : index.get? c.name = some c) (henum : c.isEnum = false)
    (hfields : classFields index active [c.name] c = .ok fields) {f : String × TypeShape}
    (hf : f ∈ fields) {name : String} (hn : Needed index (settledSchema index f.2) name) :
    Needed index s name := by
  refine h.trans ⟨c, active, fields, hc, henum, hfields, rfl⟩ ?_
  induction hn with
  | direct hr => exact .direct (refersTo_settledObject (nodup_fieldNames_classFields hfields) hf hr)
  | component _ hv hr ih => exact .component ih hv hr

/-! ## References to absent classes -/

/-- The schema where absent classes are leaves like any other name. Only references on the way through
arrays count, for a shape has no others that name a class. -/
def withoutReferences (absent : List String) : TypeSchema → TypeSchema
  | .array items => .array (withoutReferences absent items)
  | .reference name => if name ∈ absent then ofTypeName name else .reference name
  | s => s

/-- A schema that refers to no absent class is the same. -/
theorem withoutReferences_eq_self {absent : List String} {s : TypeSchema}
    (h : ∀ name ∈ absent, ¬ s.RefersTo name) : withoutReferences absent s = s := by
  fun_induction withoutReferences absent s with
  | case1 items ih => rw [ih fun name hn hr => h name hn (.array hr)]
  | case2 name hn => exact absurd (.reference name) (h name hn)
  | case3 => rfl
  | case4 => rfl

/-- The schema of a type name has no references. -/
theorem withoutReferences_ofTypeName (absent : List String) (typeName : String) :
    withoutReferences absent (ofTypeName typeName) = ofTypeName typeName :=
  withoutReferences_eq_self fun name _ => not_refersTo_ofTypeName typeName name

/-- Without absent names nothing changes. -/
theorem withoutReferences_nil (s : TypeSchema) : withoutReferences [] s = s :=
  withoutReferences_eq_self fun _ hn => absurd hn List.not_mem_nil

/-- The properties of an object with these fields, where absent classes are leaves. -/
def propertiesWithout (index : ClassIndex) (absent : List String) (fields : List (String × TypeShape)) :
    List (String × TypeSchema) :=
  fields.map fun f => (f.1, withoutReferences absent (settledSchema index f.2))

/-- Fields that agree have the same properties without the absent names. -/
theorem FieldsAgree.propertiesWithout_eq {fields fields' : List (String × TypeShape)}
    (h : FieldsAgree index fields fields') (absent : List String) :
    propertiesWithout index absent fields = propertiesWithout index absent fields' := by
  have hmap (fields : List (String × TypeShape)) : propertiesWithout index absent fields =
      (fields.map fun f => (f.1, settledSchema index f.2)).map
        fun f => (f.1, withoutReferences absent f.2) := by
    rw [List.map_map]
    rfl
  rw [hmap, hmap, h.settledFields_eq]

/-- The properties have the names of their fields. -/
theorem fieldNames_propertiesWithout (absent : List String) (fields : List (String × TypeShape)) :
    fieldNames (propertiesWithout index absent fields) = fieldNames fields := by
  unfold fieldNames propertiesWithout
  rw [List.map_map]
  rfl

/-- The schema belongs to a class of the index, but absent classes are leaves in it. -/
def IsClassSchemaWithout (index : ClassIndex) (absent : List String) (name : String) (s : TypeSchema) :
    Prop :=
  ∃ c active fields, index.get? name = some c ∧ c.isEnum = false ∧
    classFields index active [c.name] c = .ok fields ∧
    s = .object (ofFields (propertiesWithout index absent fields)) (requiredNames fields)

/-- Without absent names a class has its own schema. -/
theorem isClassSchemaWithout_nil_iff {name : String} {s : TypeSchema} :
    IsClassSchemaWithout index [] name s ↔ IsClassSchema index name s := by
  unfold IsClassSchemaWithout IsClassSchema propertiesWithout settledObject
  simp only [withoutReferences_nil]

/-! ## Describing while classes are being expanded -/

/-- While the classes `active` are being expanded, all of them but the absent ones are entered, and the
registry holds nothing but declared classes that are not absent. -/
structure Expanding (index : ClassIndex) (active absent : List String) (r : Registry TypeSchema) :
    Prop where
  entered : ∀ name ∈ active, name ∈ absent ∨ name ∈ r.names
  active : absent ⊆ active
  declared : ∀ name ∈ r.names, index.Declares name ∧ name ∉ absent

namespace Expanding

variable {active absent : List String} {r r' : Registry TypeSchema}

/-- More components may be expanded where fewer were. -/
theorem extend (h : Expanding index active absent r) (hext : r.Extends r')
    (hd : ∀ name ∈ r'.names, index.Declares name ∧ name ∉ absent) :
    Expanding index active absent r' :=
  ⟨fun name hn => (h.entered name hn).imp_right hext.mem_names, h.active, hd⟩

/-- A class is entered and expanded. -/
theorem enter (h : Expanding index active absent r) {name : String} (hd : index.Declares name)
    (hn : name ∉ active) : Expanding index (name :: active) absent (r.set name .any) := by
  refine ⟨fun other ho => ?_, fun other ho => List.mem_cons_of_mem _ (h.active ho), fun other ho => ?_⟩
  · rcases List.mem_cons.1 ho with rfl | ho
    · exact .inr (mem_names_set.2 (.inl rfl))
    · exact (h.entered other ho).imp_right fun ho => mem_names_set.2 (.inr ho)
  · rcases mem_names_set.1 ho with rfl | ho
    · exact ⟨hd, fun ha => hn (h.active ha)⟩
    · exact h.declared other ho

end Expanding

/-- The second registry holds no absent class, and whatever it holds besides the first is a class whose
component has no references to absent classes. -/
structure EntersWithout (index : ClassIndex) (absent : List String) (r r' : Registry TypeSchema) :
    Prop where
  declared : ∀ name ∈ r'.names, index.Declares name ∧ name ∉ absent
  entered : ∀ name s, r'.get? name = some s →
    name ∈ r.names ∨ IsClassSchemaWithout index absent name s

namespace EntersWithout

variable {absent : List String} {r r' r'' : Registry TypeSchema}

/-- A registry enters nothing into itself. -/
theorem refl (hd : ∀ name ∈ r.names, index.Declares name ∧ name ∉ absent) :
    EntersWithout index absent r r :=
  ⟨hd, fun _ _ hs => .inl (mem_names_of_get? hs)⟩

/-- What is entered in two steps is entered. -/
theorem trans (h : EntersWithout index absent r r') (hext : r'.Extends r'')
    (h' : EntersWithout index absent r' r'') : EntersWithout index absent r r'' := by
  refine ⟨h'.declared, fun name s hs => ?_⟩
  rcases h'.entered name s hs with hn | hclass
  · -- what was entered first is left as it is
    rw [hext.get?_eq name hn] at hs
    exact h.entered name s hs
  · exact .inr hclass

/-- The component of a class is set when its fields are described. -/
theorem finish {name : String} {s : TypeSchema} (h : EntersWithout index absent (r.set name .any) r')
    (hd : index.Declares name) (ha : name ∉ absent) (hs : IsClassSchemaWithout index absent name s) :
    EntersWithout index absent r (r'.set name s) := by
  refine ⟨fun other ho => ?_, fun other u hu => ?_⟩
  · rcases mem_names_set.1 ho with rfl | ho
    · exact ⟨hd, ha⟩
    · exact h.declared other ho
  · by_cases he : other = name
    · rw [he, get?_set_self] at hu
      obtain rfl := Option.some.inj hu
      exact .inr (he ▸ hs)
    · rw [get?_set_of_ne he] at hu
      exact (h.entered other u hu).imp_left fun ho => (mem_names_set.1 ho).resolve_left he

end EntersWithout

/-- What describing a shape gives: its settled schema and the classes that it needs, all without the
references to absent classes. -/
structure DescribesWithout (index : ClassIndex) (absent : List String) (r : Registry TypeSchema)
    (t : TypeShape) : Prop where
  schema : (schemaOf r t).1 = withoutReferences absent (settledSchema index t)
  enters : EntersWithout index absent r (schemaOf r t).2
  needed : ∀ name ∈ (schemaOf r t).2.names,
    name ∈ r.names ∨ Needed index (settledSchema index t) name

/-- A plain name is the name of its component. -/
theorem componentName_of_isPlainName {name : String} (h : IsPlainName name) :
    componentName name = name := by
  unfold componentName
  split
  · next he =>
    have hempty : name = "" := by simpa using he
    have hid := h.isIdentifier
    rw [hempty] at hid
    cases hid
  · rfl

/-- Fields that are described as they should be, one after another. -/
theorem propertySchemas_without {active absent : List String} {fields : List (String × TypeShape)}
    (ih : ∀ f ∈ fields, ∀ r : Registry TypeSchema, Expanding index active absent r →
      DescribesWithout index absent r f.2)
    {r : Registry TypeSchema} (hr : Expanding index active absent r) :
    (propertySchemas r fields).1 = propertiesWithout index absent fields ∧
      EntersWithout index absent r (propertySchemas r fields).2 ∧
      ∀ name ∈ (propertySchemas r fields).2.names,
        name ∈ r.names ∨ ∃ f ∈ fields, Needed index (settledSchema index f.2) name := by
  induction fields generalizing r with
  | nil =>
    rw [propertySchemas_nil]
    exact ⟨rfl, .refl hr.declared, fun name hn => .inl hn⟩
  | cons f fields ihfields =>
    obtain ⟨key, t⟩ := f
    obtain ⟨hschema, henters, hneeded⟩ := ih (key, t) List.mem_cons_self r hr
    obtain ⟨hrest, henters', hneeded'⟩ :=
      ihfields (fun f hf => ih f (List.mem_cons_of_mem _ hf))
        (hr.extend (schemaOf_extends r t) henters.declared)
    rw [propertySchemas_cons, hschema, hrest]
    refine ⟨rfl, henters.trans (propertySchemas_extends _ fields) henters', fun name hn => ?_⟩
    rcases hneeded' name hn with hn | ⟨f, hf, hn⟩
    · exact (hneeded name hn).imp_right fun hn => ⟨_, List.mem_cons_self, hn⟩
    · exact .inr ⟨f, List.mem_cons_of_mem _ hf, hn⟩

/-- A leaf refers to a class exactly if the index declares the class and it is not absent: a declared
class that is a leaf is being expanded further out. -/
theorem leafSchema_without {active absent : List String} {r : Registry TypeSchema} {text : String}
    (hplain : ∀ name, index.Declares name → IsPlainName name)
    (h : index.Expands text → text ∈ active) (hr : Expanding index active absent r)
    (isOptional : Bool) :
    leafSchema r text = withoutReferences absent (settledSchema index (.leaf text isOptional)) := by
  rw [settledSchema_leaf]
  unfold leafSchema
  by_cases hd : index.Declares text
  · rw [if_pos hd, componentName_of_isPlainName (hplain text hd), withoutReferences]
    rcases hr.entered text (h ⟨hplain text hd, hd⟩) with habsent | hn
    · rw [if_pos habsent, if_neg fun hc => (hr.declared text (contains_iff.1 hc)).2 habsent]
    · rw [if_neg (hr.declared text hn).2, if_pos (contains_iff.2 hn)]
  · rw [if_neg hd, if_neg fun hc => hd (hr.declared text (contains_iff.1 hc)).1,
      withoutReferences_ofTypeName]

/-- Describing a reflected shape gives its settled schema and enters the classes that it needs, without
the references to the classes that are being expanded and absent. -/
theorem schemaOf_without {active : List String} {t : TypeShape}
    (hplain : ∀ name, index.Declares name → IsPlainName name) (h : Reflected index active t)
    {absent : List String} {r : Registry TypeSchema} (hr : Expanding index active absent r) :
    DescribesWithout index absent r t := by
  induction h generalizing r with
  | @leaf active text isOptional h =>
    have he : schemaOf r (.leaf text isOptional) = (leafSchema r text, r) := schemaOf_leaf r _ _ _
    refine ⟨?_, ?_, fun name hn => .inl ?_⟩
    · rw [he, leafSchema_without hplain h hr]
    · rw [he]
      exact .refl hr.declared
    · rwa [he] at hn
  | union text isOptional members =>
    have he : schemaOf r (.union text isOptional members) = (.oneOf (members.map ofTypeName), r) :=
      schemaOf_union r _ _ _ _ _
    refine ⟨?_, ?_, fun name hn => .inl ?_⟩
    · rw [he, settledSchema_union]
      rfl
    · rw [he]
      exact .refl hr.declared
    · rwa [he] at hn
  | @array active text isOptional items h ih =>
    have he : schemaOf r (.array text isOptional items) =
        (.array (schemaOf r items).1, (schemaOf r items).2) := schemaOf_items r _ _ _ _ _ _
    obtain ⟨hschema, henters, hneeded⟩ := ih hr
    refine ⟨?_, ?_, fun name hn => ?_⟩
    · rw [he, settledSchema_array, hschema]
      rfl
    · rwa [he]
    · rw [he] at hn
      rw [settledSchema_array]
      exact (hneeded name hn).imp_right Needed.array
  | @object active c isOptional fields hc henum hactive hfields h ih =>
    have hd : index.Declares c.name := ⟨c, hc, henum⟩
    have hname : componentName c.name = c.name := componentName_of_isPlainName (hplain _ hd)
    have habsent : c.name ∉ absent := fun ha => hactive (hr.active ha)
    have hfst : (schemaOf r (.object c.name isOptional fields)).1 =
        withoutReferences absent (settledSchema index (.object c.name isOptional fields)) := by
      rw [settledSchema_object, hname, withoutReferences, if_neg habsent]
      exact (congrArg Prod.fst (schemaOf_properties r _ _ _ _)).trans (congrArg _ hname)
    have hself : Needed index (settledSchema index (.object c.name isOptional fields)) c.name := by
      rw [settledSchema_object, hname]
      exact .direct (.reference c.name)
    have hsnd : (schemaOf r (.object c.name isOptional fields)).2 = _ :=
      schemaOf_properties_snd r _ _ _ _
    rw [hname] at hsnd
    by_cases hmem : c.name ∈ r.names
    · rw [if_pos hmem] at hsnd
      refine ⟨hfst, ?_, fun name hn => .inl ?_⟩
      · rw [hsnd]
        exact .refl hr.declared
      · rwa [hsnd] at hn
    rw [if_neg hmem] at hsnd
    -- the name is entered before the fields are described, and its component is set after them
    obtain ⟨hschemas, henters, hneeded⟩ := propertySchemas_without ih (hr.enter hd hactive)
    have hobject : (objectSchema (r.set c.name .any) fields).1 =
        .object (ofFields (propertiesWithout index absent fields)) (requiredNames fields) := by
      show TypeSchema.object (ofFields (propertySchemas _ fields).1) _ = _
      rw [hschemas]
    refine ⟨hfst, ?_, fun name hn => ?_⟩
    · rw [hsnd, hobject]
      exact henters.finish hd habsent ⟨c, _, fields, hc, henum, hfields, rfl⟩
    · rw [hsnd] at hn
      rcases mem_names_set.1 hn with rfl | hn
      · exact .inr hself
      rcases hneeded name hn with hn | ⟨f, hf, hn⟩
      · rcases mem_names_set.1 hn with rfl | hn
        · exact .inr hself
        · exact .inl hn
      · exact .inr (hself.field hc henum hfields hf hn)

/-! ## Registries with no class absent -/

/-- Every name is a class of the index, and its component is the schema of the class. -/
structure Settled (index : ClassIndex) (r : Registry TypeSchema) : Prop where
  declared : ∀ name ∈ r.names, index.Declares name
  settled : ∀ name s, r.get? name = some s → IsClassSchema index name s

/-- An empty registry is settled. -/
theorem settled_empty : Settled index (empty : Registry TypeSchema) :=
  ⟨fun name h => by simp at h, fun name s h => by simp at h⟩

/-- While nothing is being expanded, no class is absent. -/
theorem expanding_nil {r : Registry TypeSchema} (hd : ∀ name ∈ r.names, index.Declares name) :
    Expanding index [] [] r :=
  ⟨fun _ hn => absurd hn List.not_mem_nil, fun _ hn => hn, fun name hn => ⟨hd name hn, List.not_mem_nil⟩⟩

/-- What describing a shape gives from a settled registry: its settled schema, and a registry that is
settled as well and holds no more than the schema needs. -/
structure DescribesSettled (index : ClassIndex) (r : Registry TypeSchema) (t : TypeShape) : Prop where
  schema : (schemaOf r t).1 = settledSchema index t
  registry : Settled index (schemaOf r t).2
  needed : ∀ name ∈ (schemaOf r t).2.names,
    name ∈ r.names ∨ Needed index (settledSchema index t) name

/-- Describing a reflected shape gives its settled schema and enters the classes that it needs. -/
theorem schemaOf_settled {t : TypeShape} (hplain : ∀ name, index.Declares name → IsPlainName name)
    (h : Reflected index [] t) {r : Registry TypeSchema} (hr : Settled index r) :
    DescribesSettled index r t := by
  obtain ⟨hschema, henters, hneeded⟩ := schemaOf_without hplain h (expanding_nil hr.declared)
  refine ⟨hschema.trans (withoutReferences_nil _), ⟨fun name hn => (henters.declared name hn).1, ?_⟩,
    hneeded⟩
  intro name s hs
  rcases henters.entered name s hs with hn | hclass
  · rw [(schemaOf_extends r t).get?_eq name hn] at hs
    exact hr.settled name s hs
  · exact isClassSchemaWithout_nil_iff.1 hclass

end RouteAtlas.Reflect
