import RouteAtlas.Proofs.Document.OrderedMap
import RouteAtlas.Proofs.Fallible
import RouteAtlas.Proofs.Reflect.Equations
import RouteAtlas.Proofs.Syntax.PrintedName

/-!
# How far classes are expanded

`Reflected index active t` says that `t` is a shape as reflection makes it while the classes `active`
are being expanded: no object bears an active name, and a leaf that names a class of the index bears
one. Every result of `reflect` is such a shape, so on a path from the root no class is expanded twice,
and a class that is not expanded stands below its own expansion.
-/

namespace RouteAtlas.Reflect

open RouteAtlas.Api RouteAtlas.Document RouteAtlas.Syntax

/-- The index declares a class of this name that is no enumeration. -/
def ClassIndex.Declares (index : ClassIndex) (name : String) : Prop :=
  ∃ c, index.get? name = some c ∧ c.isEnum = false

instance (index : ClassIndex) (name : String) : Decidable (index.Declares name) :=
  decidable_of_iff ((index.get? name).any (!·.isEnum) = true) <| by
    simp [ClassIndex.Declares, Option.any_eq_true]

/-- The index declares such a class, and the name spells itself. -/
structure ClassIndex.Expands (index : ClassIndex) (name : String) : Prop where
  plain : IsPlainName name
  declared : index.Declares name

/-- The shape is one that reflection makes while the classes `active` are being expanded. -/
inductive Reflected (index : ClassIndex) : List String → TypeShape → Prop
  | leaf {active : List String} {text : String} {isOptional : Bool}
      (h : index.Expands text → text ∈ active) : Reflected index active (.leaf text isOptional)
  | union {active : List String} (text : String) (isOptional : Bool) (members : List String) :
      Reflected index active (.union text isOptional members)
  | array {active : List String} {text : String} {isOptional : Bool} {items : TypeShape}
      (h : Reflected index active items) : Reflected index active (.array text isOptional items)
  | object {active : List String} {c : ClassDecl} {isOptional : Bool}
      {fields : List (String × TypeShape)} (hc : index.get? c.name = some c)
      (henum : c.isEnum = false) (hactive : c.name ∉ active)
      (hfields : classFields index (c.name :: active) [c.name] c = .ok fields)
      (h : ∀ f ∈ fields, Reflected index (c.name :: active) f.2) :
      Reflected index active (.object c.name isOptional fields)

/-! ## Leaves -/

section Leaves

variable {index : ClassIndex} {e : Expr} {text : String}

/-- Only a name is printed as a name. -/
theorem eq_name_of_printed (h : printed e = .ok text) (ht : IsPlainName text) : e = .name text := by
  unfold printed at h
  split at h
  · next s hs =>
    obtain rfl := Except.ok.inj h
    exact eq_name_of_print? hs ht
  · cases h

/-- The printed form of an annotation that stands for itself names no class that is expanded. -/
theorem not_expands_of_leaf (hf : TypeForm.ofExpr e = .leaf) (h : printed e = .ok text) :
    ¬ index.Expands text := by
  intro hexp
  rw [eq_name_of_printed h hexp.plain] at hf
  cases hf

/-- A name of no class is not expanded. -/
theorem not_expands_of_unknown {name : String} (hf : TypeForm.ofExpr e = .named name)
    (hc : index.get? name = none) (h : printed e = .ok text) : ¬ index.Expands text := by
  intro hexp
  rw [eq_name_of_printed h hexp.plain] at hf
  obtain rfl : text = name := TypeForm.named.inj hf
  obtain ⟨c, hsome, _⟩ := hexp.declared
  rw [hc] at hsome
  cases hsome

/-- A text that is no expression is not expanded. -/
theorem not_expands_of_malformed (h : readExpr text = .error .malformed) : ¬ index.Expands text := by
  intro hexp
  rw [readExpr_of_isPlainName hexp.plain] at h
  cases h

/-- The null type is not expanded. -/
theorem not_expands_none : ¬ index.Expands "None" := fun hexp => hexp.plain.not_keyword (by decide)

/-- An enumeration is not expanded. -/
theorem not_expands_of_isEnum {c : ClassDecl} {name : String} (hc : index.get? name = some c)
    (henum : c.isEnum = true) : ¬ index.Expands c.name := by
  rintro ⟨_, d, hd, hdenum⟩
  rw [ClassIndex.name_of_get? hc, hc] at hd
  rw [← Option.some.inj hd, henum] at hdenum
  cases hdenum

end Leaves

/-! ## Results of reflection -/

/-- What is reached by further assignments has one of the shapes assigned. -/
theorem forall_mem_setField {P : TypeShape → Prop} {name : String} {t : TypeShape}
    {fields : List (String × TypeShape)} (ht : P t) (hf : ∀ f ∈ fields, P f.2) :
    ∀ f ∈ setField name t fields, P f.2 := by
  intro f h
  rcases mem_setField h with rfl | h
  · exact ht
  · exact hf f h

/-- What holds of inherited and of declared fields holds of all the fields of a class. -/
theorem forall_mem_classFields {index : ClassIndex} {active lineage : List String} {c : ClassDecl}
    {P : TypeShape → Prop} {fields : List (String × TypeShape)}
    (hbases : ∀ (base : Expr) (b : ClassDecl), index.get? base.simpleName = some b →
      b.name ∉ lineage → ∀ inherited,
        classFields index active (b.name :: lineage) b = .ok inherited → ∀ f ∈ inherited, P f.2)
    (hown : ∀ d ∈ c.fieldDecls, ∀ t, reflect index active d.isOptional d.hint = .ok t → P t)
    (h : classFields index active lineage c = .ok fields) : ∀ f ∈ fields, P f.2 := by
  rw [classFields_eq] at h
  obtain ⟨inherited, hinherited, h⟩ := exists_of_bind_eq_ok h
  refine foldlM_ok_induction (P := fun fields => ∀ f ∈ fields, P f.2) _ ?own ?inherited h
  case own =>
    intro fields d hd fields' hstep hfields
    obtain ⟨t, ht, he⟩ := exists_of_bind_eq_ok hstep
    obtain rfl := Except.ok.inj he
    exact forall_mem_setField (hown d hd t ht) hfields
  case inherited =>
    refine foldlM_ok_induction (P := fun fields => ∀ f ∈ fields, P f.2) _ ?_ (by simp) hinherited
    intro fields base _ fields' hstep hfields
    unfold inheritFields at hstep
    split at hstep
    · obtain rfl := Except.ok.inj hstep
      exact hfields
    next b hb =>
    split at hstep
    · obtain rfl := Except.ok.inj hstep
      exact hfields
    next hl =>
    obtain ⟨own, hown', he⟩ := exists_of_bind_eq_ok hstep
    obtain rfl := Except.ok.inj he
    intro f hf
    rcases mem_foldl_setField hf with hf | hf
    · exact hbases base b hb (fun hm => hl (Or.inl hm)) own hown' f hf
    · exact hfields f hf

/-- What reflection gives is a shape of the kind described, and so is every field of a class. -/
theorem reflect_reflected_and_classFields_reflected (index : ClassIndex) :
    (∀ (active : List String) (isOptional : Bool) (e : Expr) (t : TypeShape),
      reflect index active isOptional e = .ok t → Reflected index active t) ∧
    ∀ (active lineage : List String) (c : ClassDecl) (fields : List (String × TypeShape)),
      classFields index active lineage c = .ok fields → ∀ f ∈ fields, Reflected index active f.2 := by
  -- the induction is that of the functions themselves, one case for each branch that they take
  refine reflect.mutual_induct index _ _ ?nullCharacter ?malformed ?forward ?illegible ?null ?unionEmpty
    ?unionOne ?unionSeveral ?wrapped ?choice ?array ?unknown ?enumUnprintable ?enumEmpty ?enumValues
    ?activeClass ?openClass ?leaf ?fields
  case nullCharacter =>
    intro active isOptional e text hf hr t h
    rw [reflect_forward_null hf hr] at h
    cases h
  case malformed =>
    intro active isOptional e text hf hr t h
    rw [reflect_forward_malformed hf hr] at h
    obtain rfl := Except.ok.inj h
    exact .leaf fun hexp => absurd hexp (not_expands_of_malformed hr)
  case forward =>
    intro active isOptional e text hf inner hr _ ih t h
    rw [reflect_forward hf hr] at h
    exact ih t h
  case illegible =>
    intro active isOptional e hf t h
    rw [reflect_illegible hf] at h
    cases h
  case null =>
    intro active isOptional e hf t h
    rw [reflect_null hf] at h
    obtain rfl := Except.ok.inj h
    exact .leaf fun hexp => absurd hexp not_expands_none
  case unionEmpty =>
    intro active isOptional e members hf hm t h
    rw [reflect_union_empty hf hm] at h
    obtain rfl := Except.ok.inj h
    exact .leaf fun hexp => absurd hexp not_expands_none
  case unionOne =>
    intro active isOptional e members hf m hm _ _ ih t h
    rw [reflect_union_one hf hm] at h
    exact ih t h
  case unionSeveral =>
    intro active isOptional e members hf h₀ h₁ t h
    rw [reflect_union_several hf h₀ h₁] at h
    obtain ⟨text, _, h⟩ := exists_of_bind_eq_ok h
    obtain ⟨texts, _, h⟩ := exists_of_bind_eq_ok h
    obtain rfl := Except.ok.inj h
    exact .union text isOptional texts
  case wrapped =>
    intro active isOptional e inner hf _ ih t h
    rw [reflect_wrapped hf] at h
    exact ih t h
  case choice =>
    intro active isOptional e values hf t h
    rw [reflect_choice hf] at h
    obtain ⟨text, _, h⟩ := exists_of_bind_eq_ok h
    obtain ⟨texts, _, h⟩ := exists_of_bind_eq_ok h
    obtain rfl := Except.ok.inj h
    exact .union text isOptional texts
  case array =>
    intro active isOptional e item hf _ ih t h
    rw [reflect_array hf] at h
    obtain ⟨text, _, h⟩ := exists_of_bind_eq_ok h
    obtain ⟨items, hitems, h⟩ := exists_of_bind_eq_ok h
    obtain rfl := Except.ok.inj h
    exact .array (ih items hitems)
  case unknown =>
    intro active isOptional e name hf hc t h
    rw [reflect_unknown hf hc] at h
    obtain ⟨text, htext, h⟩ := exists_of_bind_eq_ok h
    obtain rfl := Except.ok.inj h
    exact .leaf fun hexp => absurd hexp (not_expands_of_unknown hf hc htext)
  case enumUnprintable =>
    intro active isOptional e name hf c hc henum hv t h
    rw [reflect_enum hf hc henum, hv] at h
    cases h
  case enumEmpty =>
    intro active isOptional e name hf c hc henum hv t h
    rw [reflect_enum hf hc henum, hv] at h
    obtain rfl := Except.ok.inj h
    exact .leaf fun hexp => absurd hexp (not_expands_of_isEnum hc henum)
  case enumValues =>
    intro active isOptional e name hf c hc henum values hne hv t h
    rw [reflect_enum hf hc henum, hv] at h
    cases values with
    | nil => exact absurd rfl hne
    | cons v values =>
      obtain rfl := Except.ok.inj h
      exact .union _ _ _
  case activeClass =>
    intro active isOptional e name hf c hc henum ha t h
    have ha : c.name ∈ active := by simpa using ha
    rw [reflect_active hf hc (by simpa using henum) ha] at h
    obtain rfl := Except.ok.inj h
    exact .leaf fun _ => ha
  case openClass =>
    intro active isOptional e name hf c hc henum ha _ ih t h
    have ha : c.name ∉ active := by simpa using ha
    have henum : c.isEnum = false := by simpa using henum
    rw [reflect_class hf hc henum ha] at h
    obtain ⟨fields, hfields, h⟩ := exists_of_bind_eq_ok h
    obtain rfl := Except.ok.inj h
    have hself : index.get? c.name = some c := by rw [ClassIndex.name_of_get? hc, hc]
    exact .object hself henum ha hfields (ih fields hfields)
  case leaf =>
    intro active isOptional e hf t h
    rw [reflect_leaf hf] at h
    obtain ⟨text, htext, h⟩ := exists_of_bind_eq_ok h
    obtain rfl := Except.ok.inj h
    exact .leaf fun hexp => absurd hexp (not_expands_of_leaf hf htext)
  case fields =>
    intro active lineage c ihbase ihown fields h
    refine forall_mem_classFields (P := Reflected index active) ?_ (fun d _ => ihown d) h
    exact fun base b hb hl inherited hi => ihbase base b hb (by simpa using hl) inherited hi

/-- What is reflected is a reflected type. -/
theorem reflect_reflected {index : ClassIndex} {active : List String} {isOptional : Bool} {e : Expr}
    {t : TypeShape} (h : reflect index active isOptional e = .ok t) : Reflected index active t :=
  (reflect_reflected_and_classFields_reflected index).1 active isOptional e t h

/-! ## Paths -/

/-- The node stands in the shape below these nodes, the nearest first. -/
inductive Reaches (root : TypeShape) : List TypeShape → TypeShape → Prop
  | root : Reaches root [] root
  | items {above : List TypeShape} {node items : TypeShape} (h : Reaches root above node)
      (hi : node.items = some items) : Reaches root (node :: above) items
  | property {above : List TypeShape} {node : TypeShape} {properties : List (String × TypeShape)}
      {name : String} {t : TypeShape} (h : Reaches root above node)
      (hp : node.properties = some properties) (ht : (name, t) ∈ properties) :
      Reaches root (node :: above) t

/-- The names of the objects among these nodes. -/
def objectNames (nodes : List TypeShape) : List String :=
  (nodes.filter (·.properties.isSome)).map (·.text)

/-- The shape has no parts. -/
def IsLeaf (t : TypeShape) : Prop := t.items = none ∧ t.unionTypes = none ∧ t.properties = none

/-- The names of objects above a node are those of the nodes with properties. -/
theorem objectNames_cons (node : TypeShape) (above : List TypeShape) :
    objectNames (node :: above) =
      if node.properties.isSome then node.text :: objectNames above else objectNames above := by
  unfold objectNames
  rw [List.filter_cons]
  split <;> rfl

namespace Reflected

variable {index : ClassIndex} {active : List String} {t : TypeShape}

/-- An array has no properties, and its items are reflected. -/
theorem of_items (h : Reflected index active t) {items : TypeShape} (hi : t.items = some items) :
    t.properties = none ∧ Reflected index active items := by
  cases h with
  | array h =>
    obtain rfl := Option.some.inj hi
    exact ⟨rfl, h⟩
  | _ => cases hi

/-- An object is of a class that is not being expanded, and its properties are reflected below that
class. -/
theorem of_properties (h : Reflected index active t) {properties : List (String × TypeShape)}
    (hp : t.properties = some properties) :
    index.Declares t.text ∧ t.text ∉ active ∧
      ∀ f ∈ properties, Reflected index (t.text :: active) f.2 := by
  cases h with
  | object hc henum hactive _ h =>
    obtain rfl := Option.some.inj hp
    exact ⟨⟨_, hc, henum⟩, hactive, h⟩
  | _ => cases hp

/-- A leaf that names a class is one that is being expanded. -/
theorem of_isLeaf (h : Reflected index active t) (hl : IsLeaf t) (hexp : index.Expands t.text) :
    t.text ∈ active := by
  obtain ⟨hi, hu, hp⟩ := hl
  cases h with
  | leaf h => exact h hexp
  | union => cases hu
  | array => cases hi
  | object => cases hp

end Reflected

/-- Each node is one that reflection makes while the objects above it are being expanded, and these are
different classes. -/
theorem reflected_of_reaches {index : ClassIndex} {root node : TypeShape} {above : List TypeShape}
    (hroot : Reflected index [] root) (h : Reaches root above node) :
    Reflected index (objectNames above) node ∧ (objectNames above).Nodup ∧
      ∀ name ∈ objectNames above, index.Declares name := by
  induction h with
  | root => exact ⟨hroot, List.nodup_nil, by simp [objectNames]⟩
  | items h hi ih =>
    obtain ⟨hnode, hrest⟩ := ih
    obtain ⟨hp, hitems⟩ := hnode.of_items hi
    rw [objectNames_cons, hp]
    exact ⟨hitems, hrest⟩
  | property h hp ht ih =>
    -- below an object its name is active, and it was not active before
    obtain ⟨hnode, hnodup, hdeclared⟩ := ih
    obtain ⟨hd, hnot, hprops⟩ := hnode.of_properties hp
    rw [objectNames_cons, hp]
    refine ⟨hprops _ ht, List.nodup_cons.2 ⟨hnot, hnodup⟩, fun name hn => ?_⟩
    rcases List.mem_cons.1 hn with rfl | hn
    · exact hd
    · exact hdeclared name hn

/-- Below a shape without parts nothing is reached. -/
theorem eq_of_reaches_leaf {text : String} {isOptional : Bool} {node : TypeShape}
    {above : List TypeShape} (h : Reaches (.leaf text isOptional) above node) :
    above = [] ∧ node = .leaf text isOptional := by
  induction h with
  | root => exact ⟨rfl, rfl⟩
  | items h hi ih =>
    rw [ih.2] at hi
    cases hi
  | property h hp ht ih =>
    rw [ih.2] at hp
    cases hp

/-- On a path through a reflected annotation the objects are different classes of the index, and a leaf
that names a class which its text spells lies below the object of that class. -/
theorem reflectHint_objects_distinct {index : ClassIndex} {isOptional : Bool} {hint : Option Expr}
    {root : TypeShape} (h : reflectHint index isOptional hint = .ok root) {above : List TypeShape}
    {node : TypeShape} (hn : Reaches root above node) :
    (objectNames (node :: above)).Nodup ∧
      (∀ name ∈ objectNames (node :: above), index.Declares name) ∧
      (IsLeaf node → index.Declares node.text → IsPlainName node.text → node.text ≠ "Any" →
        ∃ ancestor ∈ above, ancestor.properties.isSome ∧ ancestor.text = node.text) := by
  cases hint with
  | none =>
    obtain rfl := Except.ok.inj h
    obtain ⟨rfl, rfl⟩ := eq_of_reaches_leaf hn
    exact ⟨List.nodup_nil, by simp [objectNames, TypeShape.leaf], fun _ _ _ hany => absurd rfl hany⟩
  | some e =>
    obtain ⟨hnode, hnodup, hdeclared⟩ := reflected_of_reaches (reflect_reflected h) hn
    rw [objectNames_cons]
    refine ⟨?_, ?_, ?_⟩
    · cases hp : node.properties with
      | none => exact hnodup
      | some properties => exact List.nodup_cons.2 ⟨(hnode.of_properties hp).2.1, hnodup⟩
    · cases hp : node.properties with
      | none => exact hdeclared
      | some properties =>
        intro name hname
        rcases List.mem_cons.1 hname with rfl | hname
        · exact (hnode.of_properties hp).1
        · exact hdeclared name hname
    · intro hleaf hd hplain _
      have hmem := hnode.of_isLeaf hleaf ⟨hplain, hd⟩
      obtain ⟨ancestor, ha, htext⟩ := List.mem_map.1 hmem
      obtain ⟨ha, hsome⟩ := List.mem_filter.1 ha
      exact ⟨ancestor, ha, hsome, htext⟩

/-- A class with a field of its own type is expanded once, and the leaf below bears its name. -/
theorem reflectHint_objects_distinct_of_self_reference :
    let index : ClassIndex :=
      ⟨[⟨"Node", [], [], [.annAssign (.name "next") (.name "Node") none]⟩]⟩
    let leaf := TypeShape.leaf "Node" false
    let root := TypeShape.object "Node" false [("next", leaf)]
    reflectHint index false (some (.name "Node")) = .ok root ∧
      (objectNames [leaf, root]).Nodup ∧
      ∃ ancestor ∈ [root], ancestor.properties.isSome ∧ ancestor.text = "Node" := by
  intro index leaf root
  have hinner : reflect index ["Node"] false (.name "Node") = .ok leaf :=
    reflect_active (c := ⟨"Node", [], [], _⟩) rfl rfl rfl (by decide)
  have hfields : classFields index ["Node"] ["Node"]
      ⟨"Node", [], [], [.annAssign (.name "next") (.name "Node") none]⟩ = .ok [("next", leaf)] := by
    have hdecls : ClassDecl.fieldDecls ⟨"Node", [], [], [.annAssign (.name "next") (.name "Node") none]⟩
        = [⟨"next", .name "Node", false⟩] := rfl
    rw [classFields_eq, hdecls, List.foldlM_nil, pure_bind, List.foldlM_cons, declareField, hinner]
    rfl
  have hroot : reflectHint index false (some (.name "Node")) = .ok root := by
    show reflect index [] false (.name "Node") = _
    rw [reflect_class (c := ⟨"Node", [], [], _⟩) rfl rfl rfl (by decide), hfields]
    rfl
  have hreach : Reaches root [root] leaf := .property .root rfl List.mem_cons_self
  obtain ⟨hnodup, _, hbelow⟩ := reflectHint_objects_distinct hroot hreach
  exact ⟨hroot, hnodup, hbelow ⟨rfl, rfl, rfl⟩ (by decide)
    ⟨by decide, by decide, by decide⟩ (by decide)⟩

/-- A class can bear the reserved word `None` by a spelling with a wide letter, and the absence of a
value is a leaf of that text that stands below nothing. -/
theorem not_forall_declared_leaf_below_object :
    ¬ ∀ (index : ClassIndex) (isOptional : Bool) (hint : Option Expr) (root : TypeShape),
      reflectHint index isOptional hint = .ok root →
        ∀ (above : List TypeShape) (node : TypeShape), Reaches root above node →
          IsLeaf node → index.Declares node.text → node.text ≠ "Any" →
            ∃ ancestor ∈ above, ancestor.properties.isSome ∧ ancestor.text = node.text := by
  intro h
  have hroot : reflectHint ⟨[⟨"None", [], [], []⟩]⟩ false (some (.constant .none)) =
      .ok (.leaf "None" false) := reflect_null rfl
  obtain ⟨ancestor, hmem, _⟩ :=
    h _ _ _ _ hroot [] _ .root ⟨rfl, rfl, rfl⟩ (by decide) (by decide)
  cases hmem

end RouteAtlas.Reflect
