import RouteAtlas.Proofs.OpenApi.Describing
import RouteAtlas.Proofs.Reflect.SettledRegistry

/-!
# Annotations in any order

Annotations are reflected one by one and described on one registry. Where every class has a name that
spells itself, the schemas and the components do not depend on the order (`describeHints_perm`): each
annotation has its settled schema, and the registry holds the classes that these schemas need.
-/

namespace RouteAtlas.OpenApi

open RouteAtlas.Api RouteAtlas.Document RouteAtlas.Reflect RouteAtlas.Schema RouteAtlas.Syntax
open RouteAtlas.Schema.Registry

/-- The schemas of annotations that are reflected one by one, and the registry when all of them are
described. -/
def describeHints (index : ClassIndex) (hints : List (Bool × Option Expr)) :
    Except ReflectFault (List TypeSchema × Registry TypeSchema) := do
  let shapes ← hints.mapM fun hint => reflectHint index hint.1 hint.2
  return (shapes.mapM describeType).run .empty

/-- The shape of an annotation that is reflected by itself. -/
def shapeOfHint (index : ClassIndex) (hint : Bool × Option Expr) : TypeShape :=
  (reflectHint index hint.1 hint.2).toOption.getD default

variable {index : ClassIndex}

/-- Annotations are reflected together exactly if each one is, to its own shape. -/
theorem mapM_reflectHint_eq_ok_iff {hints : List (Bool × Option Expr)} {shapes : List TypeShape} :
    (hints.mapM fun hint => reflectHint index hint.1 hint.2) = .ok shapes ↔
      shapes = hints.map (shapeOfHint index) ∧
        ∀ hint ∈ hints, reflectHint index hint.1 hint.2 = .ok (shapeOfHint index hint) := by
  have hshape {hint : Bool × Option Expr} {t : TypeShape}
      (h : reflectHint index hint.1 hint.2 = .ok t) : t = shapeOfHint index hint := by
    unfold shapeOfHint
    rw [h]
    rfl
  rw [mapM_eq_ok_iff]
  constructor
  · intro h
    induction h with
    | nil => exact ⟨rfl, by simp⟩
    | @cons hint t hints shapes ht _ ih =>
      obtain ⟨rfl, hall⟩ := ih
      rw [List.map_cons, ← hshape ht]
      refine ⟨rfl, fun other ho => ?_⟩
      rcases List.mem_cons.1 ho with rfl | ho
      · rw [← hshape ht, ht]
      · exact hall other ho
  · rintro ⟨rfl, hall⟩
    rw [List.forall₂_map_right_iff, List.forall₂_same]
    exact hall

/-- What an annotation is reflected to expands no class, for none is being expanded around it. -/
theorem reflected_of_reflectHint (hany : ¬ index.Declares "Any") {hint : Bool × Option Expr}
    {t : TypeShape} (h : reflectHint index hint.1 hint.2 = .ok t) : Reflected index [] t := by
  obtain ⟨isOptional, hint⟩ := hint
  cases hint with
  | none =>
    obtain rfl := Except.ok.inj h
    exact .leaf fun hexp => absurd hexp.declared hany
  | some e => exact reflect_reflected h

/-! ## Describing reflected shapes -/

section Shapes

variable {shapes : List TypeShape} {r : Registry TypeSchema}

/-- Shapes described one after another have their settled schemas, and no class is entered that none
of them needs. -/
theorem mapM_describeType_settled (hplain : ∀ name, index.Declares name → IsPlainName name)
    (h : ∀ t ∈ shapes, Reflected index [] t) (hr : Settled index r) :
    ((shapes.mapM describeType).run r).1 = shapes.map (settledSchema index) ∧
      Settled index ((shapes.mapM describeType).run r).2 ∧
      ∀ name ∈ ((shapes.mapM describeType).run r).2.names,
        name ∈ r.names ∨ ∃ t ∈ shapes, Needed index (settledSchema index t) name := by
  induction shapes generalizing r with
  | nil => exact ⟨rfl, hr, fun name hn => Or.inl hn⟩
  | cons t shapes ih =>
    obtain ⟨hschema, hregistry, hneeded⟩ :=
      schemaOf_settled hplain (h t List.mem_cons_self) hr
    obtain ⟨hrest, hregistry', hneeded'⟩ :=
      ih (fun u hu => h u (List.mem_cons_of_mem _ hu)) hregistry
    have hcons : ((t :: shapes).mapM describeType).run r =
        ((schemaOf r t).1 :: ((shapes.mapM describeType).run (schemaOf r t).2).1,
          ((shapes.mapM describeType).run (schemaOf r t).2).2) := by
      rw [List.mapM_cons]
      rfl
    rw [hcons, List.map_cons, hschema, hrest]
    refine ⟨rfl, hregistry', fun name hn => ?_⟩
    rcases hneeded' name hn with hn | ⟨u, hu, hn⟩
    · exact (hneeded name hn).imp_right fun hn => ⟨t, List.mem_cons_self, hn⟩
    · exact Or.inr ⟨u, List.mem_cons_of_mem _ hu, hn⟩

/-- A registry that is settled and built holds whatever a schema needs whose references it holds. -/
theorem mem_names_of_needed (hsettled : Settled index r) (hbuilt : r.Built []) {s : TypeSchema}
    (hs : ∀ name, s.RefersTo name → name ∈ r.names) {name : String} (h : Needed index s name) :
    name ∈ r.names := by
  induction h with
  | direct hr => exact hs _ hr
  | @component other name u _ hu hr ih =>
    obtain ⟨v, hv⟩ := exists_get?_of_mem ih
    obtain rfl := (hsettled.settled other v hv).unique hu
    exact hbuilt.closed other v hv name hr

/-- The components of reflected shapes are the classes that they need. -/
theorem mem_names_mapM_describeType_iff (hplain : ∀ name, index.Declares name → IsPlainName name)
    (h : ∀ t ∈ shapes, Reflected index [] t) {name : String} :
    name ∈ ((shapes.mapM describeType).run .empty).2.names ↔
      ∃ t ∈ shapes, Needed index (settledSchema index t) name := by
  obtain ⟨hschemas, hsettled, hneeded⟩ := mapM_describeType_settled hplain h settled_empty
  constructor
  · intro hn
    exact (hneeded name hn).resolve_left (List.not_mem_nil)
  · -- a built registry is closed under references, so it holds what is needed
    rintro ⟨t, ht, hn⟩
    have hdescribes : Describes [] (shapes.mapM describeType) fun ss => ss.flatMap fun s => [s] :=
      Describes.mapM shapes fun t _ known => describes_type known t
    obtain ⟨hbuilt, _, hresolved⟩ := hdescribes .empty built_empty (resolved_nil _)
    refine mem_names_of_needed hsettled hbuilt (fun other ho => hresolved other ?_) hn
    refine ⟨settledSchema index t, List.mem_flatMap.2 ⟨_, ?_, List.mem_singleton_self _⟩, ho⟩
    exact hschemas ▸ List.mem_map_of_mem ht

/-- A component of reflected shapes is the schema of its class. -/
theorem isClassSchema_of_get? (hplain : ∀ name, index.Declares name → IsPlainName name)
    (h : ∀ t ∈ shapes, Reflected index [] t) {name : String} {s : TypeSchema}
    (hs : ((shapes.mapM describeType).run .empty).2.get? name = some s) :
    IsClassSchema index name s := by
  obtain ⟨_, hsettled, _⟩ := mapM_describeType_settled hplain h settled_empty
  exact hsettled.settled name s hs

end Shapes

/-- Registries that hold the same names, each with the schema of its class, hold the same. -/
theorem get?_eq_of_isClassSchema {r r' : Registry TypeSchema}
    (hnames : ∀ name, name ∈ r.names ↔ name ∈ r'.names)
    (hr : ∀ name s, r.get? name = some s → IsClassSchema index name s)
    (hr' : ∀ name s, r'.get? name = some s → IsClassSchema index name s) (name : String) :
    r.get? name = r'.get? name := by
  cases hs : r.get? name with
  | none =>
    cases hs' : r'.get? name with
    | none => rfl
    | some s' =>
      obtain ⟨s, hs''⟩ := exists_get?_of_mem ((hnames name).2 (mem_names_of_get? hs'))
      rw [hs] at hs''
      cases hs''
  | some s =>
    obtain ⟨s', hs'⟩ := exists_get?_of_mem ((hnames name).1 (mem_names_of_get? hs))
    rw [hs', (hr name s hs).unique (hr' name s' hs')]

/-- Annotations in another order have the same schemas and the same components, if no class is named
`Any` and the name of every class spells itself. -/
theorem describeHints_perm {index : ClassIndex} (hany : ¬ index.Declares "Any")
    (hplain : ∀ name, index.Declares name → IsPlainName name)
    {hints hints' : List (Bool × Option Expr)} (hp : hints.Perm hints') {schemas : List TypeSchema}
    {r : Registry TypeSchema} (h : describeHints index hints = .ok (schemas, r)) :
    ∃ schemas' r', describeHints index hints' = .ok (schemas', r') ∧
      (∃ schemaOfHint : Bool × Option Expr → TypeSchema,
        schemas = hints.map schemaOfHint ∧ schemas' = hints'.map schemaOfHint) ∧
      (∀ name, name ∈ r.names ↔ name ∈ r'.names) ∧ ∀ name, r.get? name = r'.get? name := by
  obtain ⟨shapes, hshapes, hrun⟩ := exists_of_bind_eq_ok h
  have hrun := Except.ok.inj hrun
  obtain rfl : _ = schemas := congrArg Prod.fst hrun
  obtain rfl : _ = r := congrArg Prod.snd hrun
  obtain ⟨rfl, hall⟩ := mapM_reflectHint_eq_ok_iff.1 hshapes
  have hall' : ∀ hint ∈ hints', reflectHint index hint.1 hint.2 = .ok (shapeOfHint index hint) :=
    fun hint hh => hall hint (hp.mem_iff.2 hh)
  have hreflected : ∀ t ∈ hints.map (shapeOfHint index), Reflected index [] t := by
    intro t ht
    obtain ⟨hint, hh, rfl⟩ := List.mem_map.1 ht
    exact reflected_of_reflectHint hany (hall hint hh)
  have hreflected' : ∀ t ∈ hints'.map (shapeOfHint index), Reflected index [] t :=
    fun t ht => hreflected t ((hp.map _).mem_iff.2 ht)
  obtain ⟨hschemas, _, _⟩ := mapM_describeType_settled hplain hreflected settled_empty
  obtain ⟨hschemas', _, _⟩ := mapM_describeType_settled hplain hreflected' settled_empty
  have hnames : ∀ name,
      name ∈ (((hints.map (shapeOfHint index)).mapM describeType).run empty).2.names ↔
        name ∈ (((hints'.map (shapeOfHint index)).mapM describeType).run empty).2.names := by
    intro name
    rw [mem_names_mapM_describeType_iff hplain hreflected,
      mem_names_mapM_describeType_iff hplain hreflected']
    exact exists_congr fun t => and_congr_left' (hp.map _).mem_iff
  have hrun' : describeHints index hints' =
      .ok (((hints'.map (shapeOfHint index)).mapM describeType).run empty) := by
    unfold describeHints
    rw [mapM_reflectHint_eq_ok_iff.2 ⟨rfl, hall'⟩]
    rfl
  refine ⟨_, _, hrun', ⟨fun hint => settledSchema index (shapeOfHint index hint), ?_, ?_⟩, hnames, ?_⟩
  · exact hschemas.trans List.map_map
  · exact hschemas'.trans List.map_map
  · exact get?_eq_of_isClassSchema hnames (fun name s => isClassSchema_of_get? hplain hreflected)
      fun name s => isClassSchema_of_get? hplain hreflected'

/-- Two classes that hold each other, each expanded in full only where it is met first. -/
theorem describeHints_perm_of_mutual_classes :
    let index : ClassIndex :=
      ⟨[⟨"Parent", [], [], [.annAssign (.name "child") (.name "Child") none]⟩,
        ⟨"Child", [], [], [.annAssign (.name "parent") (.name "Parent") none]⟩]⟩
    let parent : Bool × Option Expr := (false, some (.name "Parent"))
    let child : Bool × Option Expr := (false, some (.name "Child"))
    ∃ r r', describeHints index [parent, child] =
        .ok ([.reference "Parent", .reference "Child"], r) ∧
      describeHints index [child, parent] = .ok ([.reference "Child", .reference "Parent"], r') ∧
      ∀ name, r.get? name = r'.get? name := by
  intro index parent child
  have hdeclared : ∀ name, index.Declares name → IsPlainName name ∧ name ≠ "Any" := by
    rintro name ⟨c, hc, _⟩
    rw [← ClassIndex.name_of_get? hc]
    rcases List.mem_cons.1 (ClassIndex.mem_of_get? hc) with rfl | hmem
    · exact ⟨⟨by decide, by decide, by decide⟩, by decide⟩
    · rw [List.mem_singleton.1 hmem]
      exact ⟨⟨by decide, by decide, by decide⟩, by decide⟩
  have hexpand {active : List String} {name field other : String} {t : TypeShape}
      (hc : index.get? name = some ⟨name, [], [], [.annAssign (.name field) (.name other) none]⟩)
      (hfield : ClassDecl.fieldDecls ⟨name, [], [], [.annAssign (.name field) (.name other) none]⟩ =
        [⟨field, .name other, false⟩])
      (ha : name ∉ active) (ht : reflect index (name :: active) false (.name other) = .ok t) :
      reflect index active false (.name name) = .ok (.object name false [(field, t)]) := by
    rw [reflect_class rfl hc rfl ha, classFields_eq, hfield, List.foldlM_nil, pure_bind,
      List.foldlM_cons, declareField, ht]
    rfl
  have hparent : reflectHint index false (some (.name "Parent")) = .ok (.object "Parent" false
      [("child", .object "Child" false [("parent", .leaf "Parent" false)])]) :=
    hexpand rfl rfl (by decide)
      (hexpand rfl rfl (by decide) (reflect_active (c := ⟨"Parent", [], [], _⟩) rfl rfl rfl (by decide)))
  have hchild : reflectHint index false (some (.name "Child")) = .ok (.object "Child" false
      [("parent", .object "Parent" false [("child", .leaf "Child" false)])]) :=
    hexpand rfl rfl (by decide)
      (hexpand rfl rfl (by decide) (reflect_active (c := ⟨"Child", [], [], _⟩) rfl rfl rfl (by decide)))
  have hrun : ∃ r, describeHints index [parent, child] =
      .ok ([.reference "Parent", .reference "Child"], r) := by
    unfold describeHints
    rw [List.mapM_cons, List.mapM_cons, List.mapM_nil, hparent, hchild]
    exact ⟨_, rfl⟩
  obtain ⟨r, hrun⟩ := hrun
  obtain ⟨schemas', r', hrun', ⟨schemaOfHint, hschemas, rfl⟩, _, hget⟩ :=
    describeHints_perm (fun hd => (hdeclared "Any" hd).2 rfl) (fun name hd => (hdeclared name hd).1)
      (List.Perm.swap child parent []) hrun
  obtain ⟨hparent', hchild'⟩ := List.cons.inj hschemas
  refine ⟨r, r', hrun, ?_, hget⟩
  rw [hrun', List.map_cons, List.map_cons, ← hparent', ← (List.cons.inj hchild').1]
  rfl

/-- A class can bear the reserved word `None` by a spelling with a wide letter; then the absence of a
value refers to it once it has been met, and is a text before. -/
theorem not_forall_describeHints_perm :
    ¬ ∀ (index : ClassIndex) (hints hints' : List (Bool × Option Expr)) (schemas : List TypeSchema)
      (r : Registry TypeSchema), index.get? "Any" = none → hints.Perm hints' →
        describeHints index hints = .ok (schemas, r) →
        ∃ schemas' r', describeHints index hints' = .ok (schemas', r') ∧
          ∃ schemaOfHint : Bool × Option Expr → TypeSchema,
            schemas = hints.map schemaOfHint ∧ schemas' = hints'.map schemaOfHint := by
  intro h
  let index : ClassIndex := ⟨[⟨"None", [], [], []⟩]⟩
  have hnull : reflectHint index false (some (.constant .none)) = .ok (.leaf "None" false) :=
    reflect_null rfl
  have hclass : reflectHint index false (some (.name "None")) = .ok (.object "None" false []) := by
    show reflect index [] false (.name "None") = _
    rw [reflect_class (c := ⟨"None", [], [], []⟩) rfl rfl rfl (by decide), classFields_eq]
    rfl
  have hrun : ∃ r, describeHints index [(false, some (.constant .none)), (false, some (.name "None"))] =
      .ok ([ofTypeName "None", .reference "None"], r) := by
    unfold describeHints
    rw [List.mapM_cons, List.mapM_cons, List.mapM_nil, hnull, hclass]
    exact ⟨_, rfl⟩
  have hrun' : ∃ r, describeHints index [(false, some (.name "None")), (false, some (.constant .none))] =
      .ok ([.reference "None", .reference "None"], r) := by
    unfold describeHints
    rw [List.mapM_cons, List.mapM_cons, List.mapM_nil, hnull, hclass]
    exact ⟨_, rfl⟩
  obtain ⟨r, hrun⟩ := hrun
  obtain ⟨r', hrun'⟩ := hrun'
  obtain ⟨schemas', _, hother, schemaOfHint, hschemas, rfl⟩ :=
    h index _ _ _ r rfl (List.Perm.swap _ _ []) hrun
  -- one schema would have to be both that of the text and a reference
  obtain ⟨hfirst, _⟩ := List.cons.inj hschemas
  obtain ⟨hsame, _⟩ := Prod.mk.inj (Except.ok.inj (hrun'.symm.trans hother))
  obtain ⟨hsecond, _⟩ := List.cons.inj (List.cons.inj hsame).2
  have hrefers : (ofTypeName "None").RefersTo "None" := by
    rw [hfirst, ← hsecond]
    exact .reference "None"
  exact not_refersTo_ofTypeName "None" "None" hrefers

end RouteAtlas.OpenApi
