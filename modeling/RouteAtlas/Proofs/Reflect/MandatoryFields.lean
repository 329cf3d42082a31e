import RouteAtlas.Proofs.Reflect.Optionality
import RouteAtlas.Proofs.Schema.Written

/-!
# What documents require

Describing a shape enters components for objects that stand in it (`isComponentOf_of_schemaOf`). The
objects of a reflected annotation are classes, so the names that such a component requires are those of
the fields that are mandatory by their declaration, in the order of the properties, and neither the
flag at the root nor the types of the fields have a part in it (`reflectHint_optionality`).
-/

namespace RouteAtlas.Reflect

open RouteAtlas.Api RouteAtlas.Document RouteAtlas.Schema RouteAtlas.Syntax RouteAtlas.Text

/-! ## Components of a shape -/

/-- What is reached from a node is reached from its root. -/
theorem Reaches.trans {root node below : TypeShape} {above between : List TypeShape}
    (h : Reaches root above node) (h' : Reaches node between below) :
    Reaches root (between ++ above) below := by
  induction h' with
  | root => exact h
  | items _ hi ih => exact .items ih hi
  | property _ hp ht ih => exact .property ih hp ht

/-- The component is the schema of an object that stands in the shape, under the object's name. -/
def IsComponentOf (root : TypeShape) (name : String) (s : TypeSchema) : Prop :=
  ∃ above node properties, Reaches root above node ∧ node.properties = some properties ∧
    name = componentName node.text ∧ ∃ r, s = (objectSchema r properties).1

/-- A component of the items is one of the array. -/
theorem IsComponentOf.of_items {root items : TypeShape} {name : String} {s : TypeSchema}
    (hi : root.items = some items) (h : IsComponentOf items name s) : IsComponentOf root name s := by
  obtain ⟨above, node, properties, hreaches, hnode⟩ := h
  exact ⟨_, node, properties, (Reaches.items .root hi).trans hreaches, hnode⟩

/-- A component of a property is one of the object. -/
theorem IsComponentOf.of_property {root : TypeShape} {properties : List (String × TypeShape)}
    {f : String × TypeShape} {name : String} {s : TypeSchema} (hp : root.properties = some properties)
    (hf : f ∈ properties) (h : IsComponentOf f.2 name s) : IsComponentOf root name s := by
  obtain ⟨above, node, below, hreaches, hnode⟩ := h
  exact ⟨_, node, below, (Reaches.property .root hp hf).trans hreaches, hnode⟩

/-- What is entered while types are described are components of objects in them. -/
theorem isComponentOf_of_schemaOf_and_of_propertySchemas :
    (∀ (r : Registry TypeSchema) (t : TypeShape), ∀ name s, name ∉ r.names →
      (schemaOf r t).2.get? name = some s → IsComponentOf t name s) ∧
    ∀ (r : Registry TypeSchema) (properties : List (String × TypeShape)), ∀ name s, name ∉ r.names →
      (propertySchemas r properties).2.get? name = some s →
        ∃ f ∈ properties, IsComponentOf f.2 name s := by
  have hunchanged {r : Registry TypeSchema} {name : String} {s : TypeSchema} (hn : name ∉ r.names)
      (h : r.get? name = some s) : False := hn (Registry.mem_names_of_get? h)
  refine schemaOf.mutual_induct _ _ ?items ?union ?properties ?leaf ?nil ?cons
  case items =>
    intro r text isArray isOptional items properties unionTypes schema r₁ _ ih name s hn h
    rw [schemaOf_items] at h
    exact (ih name s hn h).of_items rfl
  case union =>
    intro r text isArray isOptional properties members name s hn h
    rw [schemaOf_union] at h
    exact (hunchanged hn h).elim
  case properties =>
    intro r text isArray isOptional properties ih name s hn h
    rw [schemaOf_properties_snd] at h
    split at h
    · exact (hunchanged hn h).elim
    · by_cases hname : name = componentName text
      · rw [hname, Registry.get?_set_self] at h
        exact ⟨[], _, properties, .root, rfl, hname, _, (Option.some.inj h).symm⟩
      · -- any other name was entered for a property
        rw [Registry.get?_set_of_ne hname] at h
        have hnew : name ∉ (r.set (componentName text) .any).names := by
          rw [Registry.mem_names_set]
          exact not_or.2 ⟨hname, hn⟩
        obtain ⟨f, hf, hcomponent⟩ := ih _ name s hnew h
        exact hcomponent.of_property rfl hf
  case leaf =>
    intro r text isArray isOptional name s hn h
    rw [schemaOf_leaf] at h
    exact (hunchanged hn h).elim
  case nil =>
    intro r name s hn h
    rw [propertySchemas_nil] at h
    exact (hunchanged hn h).elim
  case cons =>
    intro r key t rest schema r₁ h₁ more r₂ _ iht ihrest name s hn h
    rw [h₁] at iht
    rw [propertySchemas_cons, h₁] at h
    by_cases hfirst : name ∈ r₁.names
    · -- what the first property entered stays
      rw [(propertySchemas_extends r₁ rest).get?_eq name hfirst] at h
      exact ⟨(key, t), List.mem_cons_self, iht name s hn h⟩
    · obtain ⟨f, hf, hcomponent⟩ := ihrest name s hfirst h
      exact ⟨f, List.mem_cons_of_mem _ hf, hcomponent⟩

/-- A component that a type adds is one of the type. -/
theorem isComponentOf_of_schemaOf {r : Registry TypeSchema} {t : TypeShape} {name : String}
    {s : TypeSchema} (hn : name ∉ r.names) (h : (schemaOf r t).2.get? name = some s) :
    IsComponentOf t name s :=
  isComponentOf_of_schemaOf_and_of_propertySchemas.1 r t name s hn h

/-! ## Required names -/

/-- The required names are names in order. -/
theorem requiredNames_sublist (fields : List (String × TypeShape)) :
    (requiredNames fields).Sublist (fieldNames fields) := List.filter_sublist.map _

/-- The required names are some of the properties in their order, without repetition: those that are
mandatory by the statement that counts for them. -/
structure RequiresMandatory (index : ClassIndex) (c : ClassDecl) (properties : List (String × TypeSchema))
    (required : List String) : Prop where
  sublist : required.Sublist (fieldNames properties)
  nodup : required.Nodup
  mem_iff : ∀ name, name ∈ required ↔
    ∃ owner hint value, Declares (overrideOrder index [c.name] c) name owner hint value ∧
      IsMandatory owner hint value

/-- The schema of a class requires its mandatory fields. -/
theorem exists_requiresMandatory {index : ClassIndex} {active : List String} {c : ClassDecl}
    {fields : List (String × TypeShape)} (h : classFields index active [c.name] c = .ok fields)
    (r : Registry TypeSchema) : ∃ properties required,
      (objectSchema r fields).1 = .object properties required ∧
        RequiresMandatory index c properties required := by
  have hnodup := nodup_fieldNames_classFields h
  obtain ⟨properties, hschema, hnames⟩ := exists_objectSchema_eq r hnodup
  have hsublist := requiredNames_sublist fields
  refine ⟨properties, requiredNames fields, hschema, hnames ▸ hsublist, hsublist.nodup hnodup, ?_⟩
  exact fun name => mem_requiredNames_iff h

/-- The required names of an object schema as documents write them: not at all where there are none. -/
theorem get?_required_toValue (properties : List (String × TypeSchema)) (required : List String) :
    (TypeSchema.object properties required).toValue.get? "required" =
      if required = [] then none else some (.strings required) := by
  rw [TypeSchema.toValue_object]
  cases required with
  | nil => rfl
  | cons name required => rfl

/-- Optionality comes from declarations. Reflecting an annotation puts the flag at the root and leaves
the rest as it is without, items are never optional, and what a document requires of an object, wherever
it stands, are the fields of its class that are mandatory by the statement that declares them. -/
theorem reflectHint_optionality {index : ClassIndex} {isOptional : Bool} {hint : Option Expr}
    {root : TypeShape} (h : reflectHint index isOptional hint = .ok root) :
    root.isOptional = isOptional ∧
    (∀ flag, reflectHint index flag hint = .ok (withOptional flag root)) ∧
    (∀ above node items, Reaches root above node → node.items = some items → items.isOptional = false) ∧
    ∀ above node, Reaches root above node → ∀ (r : Registry TypeSchema) (name : String) (s : TypeSchema),
      name ∉ r.names → (schemaOf r node).2.get? name = some s →
        ∃ c properties required, index.get? c.name = some c ∧ name = componentName c.name ∧
          s = .object properties required ∧ RequiresMandatory index c properties required ∧
          s.toValue.get? "required" = if required = [] then none else some (.strings required) := by
  have hroot := outcome_of_reflectHint h
  refine ⟨hroot.isOptional_eq, fun flag => ?_, fun above node items hreaches hi => ?_,
    fun above node hreaches r name s hn hs => ?_⟩
  · cases hint with
    | none =>
      obtain rfl := Except.ok.inj h
      rfl
    | some e =>
      show reflect index [] flag e = _
      have hreflect : reflect index [] isOptional e = .ok root := h
      rw [reflect_eq_withOptional index [] flag isOptional, hreflect]
      rfl
  · obtain ⟨_, _, hnode⟩ := exists_outcome_of_reaches hroot hreaches
    exact (hnode.items hi).isOptional_eq
  · obtain ⟨_, object, fields, hbelow, hfields, hname, r', rfl⟩ := isComponentOf_of_schemaOf hn hs
    obtain ⟨_, _, hobject⟩ := exists_outcome_of_reaches hroot (hreaches.trans hbelow)
    obtain ⟨c, htext, hc, hclass⟩ := hobject.properties hfields
    obtain ⟨properties, required, hschema, hmandatory⟩ := exists_requiresMandatory hclass r'
    refine ⟨c, properties, required, hc, htext ▸ hname, hschema, hmandatory, ?_⟩
    rw [hschema, get?_required_toValue]

/-- A class whose fields need not be given, except for one. -/
def partialBase : ClassDecl := ⟨"Base", [], [(some "total", .constant (.bool false))],
  [.annAssign (.name "id") (.subscript (.name "Required") (.name "int")) none,
    .annAssign (.name "note") (.name "str") none]⟩

/-- A class that adds a field that may be the absence of a value, one with a default and one that is
marked as a field without a default. -/
def markedClass : ClassDecl := ⟨"Marked", [.name "Base"], [],
  [.annAssign (.name "name") (.binary .bitOr (.name "str") (.constant .none)) none,
    .annAssign (.name "size") (.name "int") (some (.constant (.int 3))),
    .annAssign (.name "tag") (.name "str") (some (.call (.name "Field") [.constant .ellipsis] []))]⟩

/-- The fields of that class. -/
def markedFields : List (String × TypeShape) :=
  [("id", .leaf "int" false), ("note", .leaf "str" true), ("name", .leaf "str" false),
    ("size", .leaf "int" true), ("tag", .leaf "str" false)]

/-- The index of the two classes. -/
def markedIndex : ClassIndex := ⟨[partialBase, markedClass]⟩

/-- The fields of the class, each with its own flag. -/
theorem classFields_markedClass :
    classFields markedIndex ["Marked"] ["Marked"] markedClass = .ok markedFields := by
  have hint (flag : Bool) : reflect markedIndex ["Marked"] flag (.name "int") = .ok (.leaf "int" flag) :=
    reflect_unknown rfl rfl
  have hstr (flag : Bool) : reflect markedIndex ["Marked"] flag (.name "str") = .ok (.leaf "str" flag) :=
    reflect_unknown rfl rfl
  have hid : reflect markedIndex ["Marked"] false (.subscript (.name "Required") (.name "int")) =
      .ok (.leaf "int" false) := (reflect_wrapped rfl).trans (hint false)
  have hname : reflect markedIndex ["Marked"] false (.binary .bitOr (.name "str") (.constant .none)) =
      .ok (.leaf "str" false) := (reflect_union_one rfl rfl).trans (hstr false)
  have hbase : classFields markedIndex ["Marked"] ["Base", "Marked"] partialBase =
      .ok [("id", .leaf "int" false), ("note", .leaf "str" true)] := by
    have hdecls : partialBase.fieldDecls =
        [⟨"id", .subscript (.name "Required") (.name "int"), false⟩, ⟨"note", .name "str", true⟩] := rfl
    rw [classFields_eq, hdecls]
    simp only [List.foldlM, declareField, hid, hstr]
    rfl
  have hdecls : markedClass.fieldDecls =
      [⟨"name", .binary .bitOr (.name "str") (.constant .none), false⟩, ⟨"size", .name "int", true⟩,
        ⟨"tag", .name "str", false⟩] := rfl
  have hinherited : markedClass.bases.foldlM (inheritFields markedIndex ["Marked"] ["Marked"]) [] =
      .ok [("id", .leaf "int" false), ("note", .leaf "str" true)] := by
    show List.foldlM (inheritFields markedIndex ["Marked"] ["Marked"]) [] [.name "Base"] = _
    rw [List.foldlM_cons, inheritFields_base (b := partialBase) rfl (by decide) rfl hbase]
    rfl
  refine classFields_of_ok hinherited ?_
  rw [hdecls]
  simp only [List.foldlM, declareField, hname, hint, hstr]
  rfl

/-- Of the fields of that class three are required. -/
theorem reflectHint_optionality_of_markedClass :
    ∃ root properties, reflectHint markedIndex false (some (.name "Marked")) = .ok root ∧
      reflectHint markedIndex true (some (.name "Marked")) = .ok (withOptional true root) ∧
      (schemaOf .empty root).2.get? "Marked" = some (.object properties ["id", "name", "tag"]) ∧
      RequiresMandatory markedIndex markedClass properties ["id", "name", "tag"] := by
  have hfields : classFields markedIndex [markedClass.name] [markedClass.name] markedClass =
      .ok markedFields := classFields_markedClass
  have hroot : reflectHint markedIndex false (some (.name "Marked")) =
      .ok (.object "Marked" false markedFields) := by
    show reflect markedIndex [] false (.name "Marked") = _
    rw [reflect_class (c := markedClass) rfl rfl rfl (by decide), hfields]
    rfl
  have hentered : ((schemaOf .empty (.object "Marked" false markedFields)).2.get? "Marked").bind
      (·.toValue.get? "required") = some (.strings ["id", "name", "tag"]) := by
    rfl
  obtain ⟨s, hs, hrequired⟩ := Option.bind_eq_some_iff.1 hentered
  obtain ⟨_, hflags, _, hcomponents⟩ := reflectHint_optionality hroot
  obtain ⟨c, properties, required, hc, hname, rfl, hmandatory, hwritten⟩ :=
    hcomponents [] _ .root .empty "Marked" s List.not_mem_nil hs
  obtain rfl : required = ["id", "name", "tag"] := by
    rw [hrequired] at hwritten
    split at hwritten
    · cases hwritten
    · exact (List.map_injective_iff.2 (fun _ _ => Value.str.inj)
        (Value.list.inj (Option.some.inj hwritten))).symm
  have hcname : c.name = "Marked" := by
    unfold componentName at hname
    split at hname
    · exact absurd hname (by decide)
    · exact hname.symm
  rw [hcname] at hc
  obtain rfl : markedClass = c := Option.some.inj hc
  exact ⟨_, properties, hroot, hflags true, hs, hmandatory⟩

end RouteAtlas.Reflect
