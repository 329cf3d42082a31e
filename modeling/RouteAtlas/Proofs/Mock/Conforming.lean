import RouteAtlas.Proofs.Mock.Servable

/-!
# Values of a type's shape

`Conforms` reads the parts of a type in the order items, union members, properties and says which values
have its shape. From every state of the source `generate` gives such a value (`generate_conforms`), if the
type leaves something to choose wherever a union is drawn from and names each property of an object once.
-/

namespace RouteAtlas.Document

/-- The value is a text, a number, a truth value or null. -/
def Value.IsScalar : Value → Prop
  | .null | .bool _ | .int _ | .float _ | .str _ | .surrogate _ => True
  | _ => False

end RouteAtlas.Document

namespace RouteAtlas.Mock

open RouteAtlas.Api RouteAtlas.Document RouteAtlas.Syntax RouteAtlas.Text

/-- Wherever the type is a union it has members, and wherever it is an object its properties have
distinct names. -/
inductive IsOrderly : TypeShape → Prop
  | array {t items : TypeShape} (hi : t.items = some items) (h : IsOrderly items) : IsOrderly t
  | union {t : TypeShape} {members : List String} (hi : t.items = none)
      (hu : t.unionTypes = some members) (hne : members ≠ []) : IsOrderly t
  | object {t : TypeShape} {properties : List (String × TypeShape)} (hi : t.items = none)
      (hu : t.unionTypes = none) (hp : t.properties = some properties)
      (hnodup : (fieldNames properties).Nodup) (h : ∀ p ∈ properties, IsOrderly p.2) : IsOrderly t
  | leaf {t : TypeShape} (hi : t.items = none) (hu : t.unionTypes = none) (hp : t.properties = none) :
      IsOrderly t

/-- The value has the shape of the type: a list of one to five items, a scalar that belongs to a member
of the union, an object of some properties in order and at least the required ones, or a scalar. -/
inductive Conforms : TypeShape → Value → Prop
  | array {t items : TypeShape} {vs : List Value} (hi : t.items = some items) (hpos : 1 ≤ vs.length)
      (hle : vs.length ≤ 5) (h : ∀ v ∈ vs, Conforms items v) : Conforms t (.list vs)
  | union {t : TypeShape} {members : List String} {member : String} {v : Value} (hi : t.items = none)
      (hu : t.unionTypes = some members) (hm : member ∈ members) (hs : v.IsScalar)
      (hv : Gen.MayGive (mockForType member) v) : Conforms t v
  | object {t : TypeShape} {properties : List (String × TypeShape)} {fields : List (String × Value)}
      (hi : t.items = none) (hu : t.unionTypes = none) (hp : t.properties = some properties)
      (hsub : (fieldNames fields).Sublist (fieldNames properties))
      (hrequired : ∀ p ∈ properties, p.2.isOptional = false → p.1 ∈ fieldNames fields)
      (h : ∀ name u v, (name, u) ∈ properties → (name, v) ∈ fields → Conforms u v) :
      Conforms t (.map fields)
  | leaf {t : TypeShape} {v : Value} (hi : t.items = none) (hu : t.unionTypes = none)
      (hp : t.properties = none) (hs : v.IsScalar) : Conforms t v

/-! ## By the part that counts -/

section Parts

variable {t : TypeShape} (hint : Option String)

/-- A type with items is generated as an array. -/
theorem generate_of_items {items : TypeShape} (hi : t.items = some items) :
    generate hint t = (do
      let count ← Gen.between 1 5
      return .list (← repeatGen (generate hint items) count)) := by
  obtain ⟨text, isArray, isOptional, _, properties, members⟩ := t
  obtain rfl := hi
  rw [generate]

/-- A type with members and no items is generated as one of the members. -/
theorem generate_of_members {members : List String} (hi : t.items = none)
    (hu : t.unionTypes = some members) :
    generate hint t = (do mockForType (← Gen.element members)) := by
  obtain ⟨text, isArray, isOptional, _, properties, _⟩ := t
  obtain rfl := hi
  obtain rfl := hu
  rw [generate]

/-- A type that has properties only is generated as an object. -/
theorem generate_of_properties {properties : List (String × TypeShape)} (hi : t.items = none)
    (hu : t.unionTypes = none) (hp : t.properties = some properties) :
    generate hint t = (do return .map (ofFields (← generateFields properties))) := by
  obtain ⟨text, isArray, isOptional, _, _, _⟩ := t
  obtain rfl := hi
  obtain rfl := hu
  obtain rfl := hp
  rw [generate]

/-- A type without parts is generated as a leaf. -/
theorem generate_of_no_parts (hi : t.items = none) (hu : t.unionTypes = none)
    (hp : t.properties = none) : generate hint t = mockLeaf t.text hint := by
  obtain ⟨text, isArray, isOptional, _, _, _⟩ := t
  obtain rfl := hi
  obtain rfl := hu
  obtain rfl := hp
  rw [generate]

end Parts

/-! ## Scalars -/

/-- A text of a kind is a scalar. -/
theorem gives_mockText (kind : String) : Gen.Gives (mockText kind) Value.IsScalar :=
  ((Gen.produces_numbered kind).map fun _ _ => trivial).1

/-- A moment is a scalar. -/
theorem gives_mockMoment : Gen.Gives mockMoment Value.IsScalar :=
  (Gen.produces_nextText.map fun _ _ => trivial).1

/-- Several words are a scalar. -/
theorem gives_several (kind : String) (count : Nat) :
    Gen.Gives (do return Value.str (← Gen.several kind count)) Value.IsScalar :=
  ((Gen.produces_several kind count).map fun _ _ => trivial).1

/-- A number between bounds is a scalar. -/
theorem gives_number {low high : Nat} (h : low ≤ high) :
    Gen.Gives (do return Value.int (← Gen.between low high)) Value.IsScalar :=
  ((Gen.produces_between h).map fun _ _ => trivial).1

/-- The name of a type gives a scalar. -/
theorem gives_mockForType (typeName : String) : Gen.Gives (mockForType typeName) Value.IsScalar := by
  unfold mockForType
  split
  · next v _ => exact Gen.gives_pure (by cases v <;> trivial)
  · exact Gen.gives_ite (Gen.gives_pure trivial) <| Gen.gives_ite (gives_several _ _) <|
      Gen.gives_ite (Gen.produces_bool.map fun _ _ => trivial).1 <|
      Gen.gives_ite (gives_number (by decide)) <| Gen.gives_ite gives_mockMoment <|
      Gen.gives_ite (gives_mockText _) (gives_mockText _)

/-- The name of a property gives a scalar. -/
theorem gives_mockForName (name typeName : String) :
    Gen.Gives (mockForName name typeName) Value.IsScalar := by
  unfold mockForName
  exact Gen.gives_ite (gives_mockText _) <|
    Gen.gives_ite (Gen.produces_personName.map fun _ _ => trivial).1 <|
    Gen.gives_ite (gives_mockText _) <| Gen.gives_ite (gives_mockText _) <|
    Gen.gives_ite (gives_mockText _) <| Gen.gives_ite (gives_mockText _) <|
    Gen.gives_ite (gives_mockText _) <| Gen.gives_ite (gives_number (by decide)) <|
    Gen.gives_ite (gives_number (by decide)) <| Gen.gives_ite gives_mockMoment <|
    Gen.gives_ite (gives_several _ _) <| Gen.gives_ite (gives_several _ _) <|
    gives_mockForType typeName

/-- A leaf gives a scalar. -/
theorem gives_mockLeaf (typeName : String) (hint : Option String) :
    Gen.Gives (mockLeaf typeName hint) Value.IsScalar := by
  unfold mockLeaf
  split
  · split
    · exact gives_mockForType typeName
    · exact gives_mockForName _ typeName
  · exact gives_mockForType typeName

/-! ## Lists and objects -/

/-- As many items are given as were asked for. -/
theorem gives_repeatGen_length {g : Gen Value} {Q : Value → Prop} (hg : Gen.Gives g Q) (n : Nat) :
    Gen.Gives (repeatGen g n) fun vs => vs.length = n ∧ ∀ v ∈ vs, Q v := by
  induction n with
  | zero => exact Gen.gives_pure ⟨rfl, fun v hv => absurd hv List.not_mem_nil⟩
  | succ n ih =>
    refine hg.bind fun v hv => ih.bind fun vs hvs => Gen.gives_pure ⟨?_, ?_⟩
    · rw [List.length_cons, hvs.1]
    · exact List.forall_mem_cons.2 ⟨hv, hvs.2⟩

/-- The fields are some of the properties in order, the required ones among them, and each has a value
of its property. -/
structure FieldsConform (properties : List (String × TypeShape)) (fields : List (String × Value)) :
    Prop where
  sublist : (fieldNames fields).Sublist (fieldNames properties)
  required : ∀ p ∈ properties, p.2.isOptional = false → p.1 ∈ fieldNames fields
  conforms : ∀ f ∈ fields, ∃ u, (f.1, u) ∈ properties ∧ Conforms u f.2

namespace FieldsConform

variable {name : String} {t : TypeShape} {properties : List (String × TypeShape)}
  {fields : List (String × Value)}

/-- No fields conform to no properties. -/
theorem nil : FieldsConform [] [] :=
  ⟨List.Sublist.refl _, fun _ hp => absurd hp List.not_mem_nil, fun _ hf => absurd hf List.not_mem_nil⟩

/-- A field of the property's shape may be added. -/
theorem present {v : Value} (hv : Conforms t v) (h : FieldsConform properties fields) :
    FieldsConform ((name, t) :: properties) ((name, v) :: fields) := by
  refine ⟨h.sublist.cons_cons name, ?_, ?_⟩
  · intro p hp hrequired
    rcases List.mem_cons.1 hp with rfl | hp
    · exact List.mem_cons_self
    · exact List.mem_cons_of_mem _ (h.required p hp hrequired)
  · intro f hf
    rcases List.mem_cons.1 hf with rfl | hf
    · exact ⟨t, List.mem_cons_self, hv⟩
    · obtain ⟨u, hu, hf⟩ := h.conforms f hf
      exact ⟨u, List.mem_cons_of_mem _ hu, hf⟩

/-- An optional property may be left out. -/
theorem absent (ht : t.isOptional = true) (h : FieldsConform properties fields) :
    FieldsConform ((name, t) :: properties) fields := by
  refine ⟨h.sublist.cons name, ?_, ?_⟩
  · intro p hp hrequired
    rcases List.mem_cons.1 hp with rfl | hp
    · exact absurd (ht.symm.trans hrequired) nofun
    · exact h.required p hp hrequired
  · intro f hf
    obtain ⟨u, hu, hf⟩ := h.conforms f hf
    exact ⟨u, List.mem_cons_of_mem _ hu, hf⟩

end FieldsConform

/-- Generated fields conform to their properties. -/
theorem gives_generateFields_conform {properties : List (String × TypeShape)}
    (h : ∀ p ∈ properties, Gen.Gives (generate (some p.1) p.2) (Conforms p.2)) :
    Gen.Gives (generateFields properties) (FieldsConform properties) := by
  induction properties with
  | nil =>
    rw [generateFields]
    exact Gen.gives_pure .nil
  | cons p properties ih =>
    obtain ⟨name, t⟩ := p
    obtain ⟨hfirst, hrest⟩ := List.forall_mem_cons.1 h
    -- a property is left out only if it is optional
    have hpresent : Gen.Gives (if t.isOptional then Gen.bool else pure true)
        fun present => present = false → t.isOptional = true := by
      split
      · next ho => exact Gen.produces_bool.1.mono fun _ _ _ => ho
      · exact Gen.gives_pure fun h => absurd h (by decide)
    rw [generateFields_cons]
    refine hpresent.bind fun present ho => ?_
    split
    · exact hfirst.bind fun v hv => (ih hrest).bind fun vs hvs => Gen.gives_pure (hvs.present hv)
    · next hnot => exact (ih hrest).mono fun vs hvs => hvs.absent (ho (Bool.eq_false_iff.2 hnot))

/-! ## All types -/

/-- From every source a value of the type's shape is given. -/
theorem gives_generate_conforms {t : TypeShape} (h : IsOrderly t) (hint : Option String) :
    Gen.Gives (generate hint t) (Conforms t) := by
  induction h generalizing hint with
  | array hi _ ih =>
    rw [generate_of_items hint hi]
    refine (Gen.produces_between (by decide)).1.bind fun count hcount => ?_
    refine (gives_repeatGen_length (ih hint) count).bind fun vs hvs => Gen.gives_pure ?_
    exact .array hi (hvs.1 ▸ hcount.1) (hvs.1 ▸ hcount.2) hvs.2
  | union hi hu hne =>
    rw [generate_of_members hint hi hu]
    refine (Gen.gives_element hne).bind fun member hm => ?_
    exact (gives_mockForType member).mayGive.mono fun v hv => .union hi hu hm hv.1 hv.2
  | @object t properties hi hu hp hnodup _ ih =>
    rw [generate_of_properties hint hi hu hp]
    refine (gives_generateFields_conform fun p hp => ih p hp (some p.1)).bind fun vs hvs => ?_
    -- the names are some of the distinct ones, so assigning the values replaces none of them
    rw [ofFields_of_nodup (hnodup.sublist hvs.sublist)]
    refine Gen.gives_pure (.object hi hu hp hvs.sublist hvs.required fun name u v hu hv => ?_)
    obtain ⟨u', hu', hconforms⟩ := hvs.conforms (name, v) hv
    obtain rfl := Option.some.inj
      ((field?_eq_some_of_mem hnodup hu').symm.trans (field?_eq_some_of_mem hnodup hu))
    exact hconforms
  | leaf hi hu hp =>
    rw [generate_of_no_parts hint hi hu hp]
    exact (gives_mockLeaf _ hint).mono fun v hv => .leaf hi hu hp hv

/-- From every state of the source a value of the type's shape is generated. -/
theorem generate_conforms {t : TypeShape} (h : IsOrderly t) (hint : Option String) (s : Source) :
    ∃ v s', (generate hint t).runFrom s = (.ok v, s') ∧ Conforms t v :=
  (gives_generate_conforms h hint).exists_run s

/-- A list of objects whose properties are a union and a list of objects that may be left out. -/
theorem generate_conforms_of_listing :
    let size := TypeShape.object "Size" false [("width", .leaf "int" false), ("unit", .leaf "str" true)]
    let offer := TypeShape.object "Offer" false [("price", .union "int | float" false ["int", "float"]),
      ("sizes", .array "list[Size]" true size)]
    let listing := TypeShape.array "list[Offer]" false offer
    IsOrderly listing ∧
      ∃ v s', (generate (some "offers") listing).runFrom {} = (.ok v, s') ∧ Conforms listing v := by
  intro size offer listing
  have hsize : IsOrderly size := by
    refine .object rfl rfl rfl (by decide) fun p hp => ?_
    rcases List.mem_pair.1 hp with rfl | rfl <;> exact .leaf rfl rfl rfl
  have hoffer : IsOrderly offer := by
    refine .object rfl rfl rfl (by decide) fun p hp => ?_
    rcases List.mem_pair.1 hp with rfl | rfl
    · exact .union rfl rfl (List.cons_ne_nil _ _)
    · exact .array rfl hsize
  have hlisting : IsOrderly listing := .array rfl hoffer
  exact ⟨hlisting, generate_conforms hlisting (some "offers") {}⟩

end RouteAtlas.Mock
