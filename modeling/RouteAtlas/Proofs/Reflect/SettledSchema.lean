import RouteAtlas.Proofs.Reflect.Expansion
import RouteAtlas.Schema.Registry

/-!
# The schema on which all expansions agree

A class is reflected to different shapes, depending on the classes that are being expanded around it.
`settledSchema` is what they have in common: the schema of a shape where every declared class is a
component. It is the same for all results of one annotation (`reflect_agrees`), and so is the schema of
a class (`IsClassSchema.unique`).
-/

namespace RouteAtlas.Reflect

open RouteAtlas.Api RouteAtlas.Document RouteAtlas.Schema RouteAtlas.Syntax

/-- The schema of a shape where every class that the index declares is a component. -/
def settledSchema (index : ClassIndex) : TypeShape → TypeSchema
  | ⟨_, _, _, some items, _, _⟩ => .array (settledSchema index items)
  | ⟨_, _, _, none, _, some members⟩ => .oneOf (members.map ofTypeName)
  | ⟨text, _, _, none, some _, none⟩ => .reference (componentName text)
  | ⟨text, _, _, none, none, none⟩ =>
    if index.Declares text then .reference (componentName text) else ofTypeName text

/-- The shapes have the same settled schema and may be left out alike. -/
def Agrees (index : ClassIndex) (t u : TypeShape) : Prop :=
  t.isOptional = u.isOptional ∧ settledSchema index t = settledSchema index u

/-- The fields have the same names, and their shapes agree. -/
def FieldsAgree (index : ClassIndex) (fields fields' : List (String × TypeShape)) : Prop :=
  List.Forall₂ (fun f g => f.1 = g.1 ∧ Agrees index f.2 g.2) fields fields'

variable {index : ClassIndex}

/-- A type agrees with itself. -/
theorem Agrees.refl (t : TypeShape) : Agrees index t t := ⟨rfl, rfl⟩

/-- A leaf refers to its class, or is described by its name. -/
@[simp] theorem settledSchema_leaf (text : String) (isOptional : Bool) :
    settledSchema index (.leaf text isOptional) =
      if index.Declares text then .reference (componentName text) else ofTypeName text := by
  rw [TypeShape.leaf, settledSchema]

/-- A union is described by its members. -/
@[simp] theorem settledSchema_union (text : String) (isOptional : Bool) (members : List String) :
    settledSchema index (.union text isOptional members) = .oneOf (members.map ofTypeName) := by
  rw [TypeShape.union, settledSchema]

/-- An array is described by its items. -/
@[simp] theorem settledSchema_array (text : String) (isOptional : Bool) (items : TypeShape) :
    settledSchema index (.array text isOptional items) = .array (settledSchema index items) := by
  rw [TypeShape.array, settledSchema]

/-- An object refers to its class. -/
@[simp] theorem settledSchema_object (text : String) (isOptional : Bool)
    (fields : List (String × TypeShape)) :
    settledSchema index (.object text isOptional fields) = .reference (componentName text) := by
  rw [TypeShape.object, settledSchema]

/-! ## Fields that agree -/

/-- Setting types that agree keeps fields in agreement. -/
theorem FieldsAgree.setField {fields fields' : List (String × TypeShape)}
    (h : FieldsAgree index fields fields') (name : String) {t u : TypeShape}
    (htu : Agrees index t u) :
    FieldsAgree index (setField name t fields) (setField name u fields') := by
  induction h with
  | nil => exact .cons ⟨rfl, htu⟩ .nil
  | @cons f g fields fields' hfg hrest ih =>
    obtain ⟨k, s⟩ := f
    obtain ⟨k', s'⟩ := g
    obtain ⟨rfl, hss⟩ := hfg
    simp only [Document.setField]
    split
    · exact .cons ⟨rfl, htu⟩ hrest
    · exact .cons ⟨rfl, hss⟩ ih

/-- Setting fields that agree keeps fields in agreement. -/
theorem FieldsAgree.foldl_setField {fields fields' more more' : List (String × TypeShape)}
    (h : FieldsAgree index fields fields') (hmore : FieldsAgree index more more') :
    FieldsAgree index (more.foldl (fun fields f => Document.setField f.1 f.2 fields) fields)
      (more'.foldl (fun fields f => Document.setField f.1 f.2 fields) fields') := by
  induction hmore generalizing fields fields' with
  | nil => exact h
  | @cons f g more more' hfg hrest ih =>
    obtain ⟨k, s⟩ := f
    obtain ⟨k', s'⟩ := g
    obtain ⟨rfl, hss⟩ := hfg
    exact ih (h.setField k hss)

/-! ## Two results of one annotation -/

/-- A class agrees with itself, expanded or not. -/
theorem agrees_of_class {name : String} {c : ClassDecl} {e : Expr}
    (hf : TypeForm.ofExpr e = .named name) (hc : index.get? name = some c) (henum : c.isEnum = false)
    {active : List String} {isOptional : Bool} {t : TypeShape}
    (h : reflect index active isOptional e = .ok t) :
    t.isOptional = isOptional ∧ settledSchema index t = .reference (componentName c.name) := by
  by_cases ha : c.name ∈ active
  · rw [reflect_active hf hc henum ha] at h
    obtain rfl := Except.ok.inj h
    have hd : index.Declares c.name := ⟨c, by rw [ClassIndex.name_of_get? hc, hc], henum⟩
    exact ⟨rfl, by rw [settledSchema_leaf, if_pos hd]⟩
  · rw [reflect_class hf hc henum ha] at h
    obtain ⟨fields, _, h⟩ := exists_of_bind_eq_ok h
    obtain rfl := Except.ok.inj h
    exact ⟨rfl, settledSchema_object _ _ _⟩

/-- What does not depend on the classes that are being expanded agrees with itself. -/
theorem agrees_of_eq {x y : Except ReflectFault TypeShape} {t u : TypeShape} (hxy : x = y)
    (hx : x = .ok t) (hy : y = .ok u) : Agrees index t u := by
  rw [hxy, hy] at hx
  obtain rfl := Except.ok.inj hx
  exact .refl _

/-- Two results of one annotation agree, whatever classes are being expanded around it. -/
theorem reflect_agrees {active active' : List String} {isOptional : Bool} {e : Expr}
    {t u : TypeShape} (ht : reflect index active isOptional e = .ok t)
    (hu : reflect index active' isOptional e = .ok u) : Agrees index t u := by
  -- by weight alone: a class agrees with itself without a look at its fields
  induction hn : weight e using Nat.strongRecOn generalizing isOptional e t u with
  | _ n ih =>
    have hinner {m : Expr} (hm : weight m < weight e) {o : Bool} {t u : TypeShape}
        (ht : reflect index active o m = .ok t) (hu : reflect index active' o m = .ok u) :
        Agrees index t u := ih (weight m) (hn ▸ hm) ht hu rfl
    cases hf : TypeForm.ofExpr e with
    | forward text =>
      cases hr : readExpr text with
      | error fault =>
        cases fault with
        | nullCharacter =>
          rw [reflect_forward_null hf hr] at ht
          cases ht
        | malformed =>
          rw [reflect_forward_malformed hf hr] at ht hu
          exact agrees_of_eq rfl ht hu
      | ok inner =>
        rw [reflect_forward hf hr] at ht hu
        exact hinner (weight_lt_of_forward hf hr) ht hu
    | illegible =>
      rw [reflect_illegible hf] at ht
      cases ht
    | null =>
      rw [reflect_null hf] at ht hu
      exact agrees_of_eq rfl ht hu
    | union members =>
      rcases valueMembers_cases members with hnone | ⟨m, hmem, hm⟩ | hseveral
      · rw [reflect_union_empty hf hnone] at ht hu
        exact agrees_of_eq rfl ht hu
      · rw [reflect_union_one hf hm] at ht hu
        exact hinner (weight_lt_of_mem_inner (hf ▸ hmem)) ht hu
      · rw [reflect_union_of_one_lt hf hseveral] at ht hu
        exact agrees_of_eq rfl ht hu
    | wrapped inner =>
      rw [reflect_wrapped hf] at ht hu
      exact hinner (weight_lt_of_mem_inner (hf ▸ List.mem_singleton_self inner)) ht hu
    | choice values =>
      rw [reflect_choice hf] at ht hu
      exact agrees_of_eq rfl ht hu
    | array item =>
      rw [reflect_array hf] at ht hu
      obtain ⟨text, _, ht⟩ := exists_of_bind_eq_ok ht
      obtain ⟨items, hitems, ht⟩ := exists_of_bind_eq_ok ht
      obtain ⟨text', _, hu⟩ := exists_of_bind_eq_ok hu
      obtain ⟨items', hitems', hu⟩ := exists_of_bind_eq_ok hu
      obtain rfl := Except.ok.inj ht
      obtain rfl := Except.ok.inj hu
      have hagree := hinner (weight_lt_of_mem_inner (hf ▸ List.mem_singleton_self item)) hitems hitems'
      exact ⟨rfl, by rw [settledSchema_array, settledSchema_array, hagree.2]⟩
    | named name =>
      cases hc : index.get? name with
      | none =>
        rw [reflect_unknown hf hc] at ht hu
        exact agrees_of_eq rfl ht hu
      | some c =>
        cases henum : c.isEnum with
        | true =>
          rw [reflect_enum hf hc henum] at ht hu
          exact agrees_of_eq rfl ht hu
        | false =>
          obtain ⟨hto, hts⟩ := agrees_of_class hf hc henum ht
          obtain ⟨huo, hus⟩ := agrees_of_class hf hc henum hu
          exact ⟨hto.trans huo.symm, hts.trans hus.symm⟩
    | leaf =>
      rw [reflect_leaf hf] at ht hu
      exact agrees_of_eq rfl ht hu

/-- The fields of a class agree, whatever classes are being expanded around it. -/
theorem classFields_agree {active active' lineage : List String} {c : ClassDecl}
    {fields fields' : List (String × TypeShape)}
    (h : classFields index active lineage c = .ok fields)
    (h' : classFields index active' lineage c = .ok fields') : FieldsAgree index fields fields' := by
  -- along the line of inheritance ever fewer classes are left
  induction hn : index.room lineage using Nat.strongRecOn generalizing lineage c fields fields' with
  | _ n ih =>
    rw [classFields_eq] at h h'
    obtain ⟨inherited, hinherited, h⟩ := exists_of_bind_eq_ok h
    obtain ⟨inherited', hinherited', h'⟩ := exists_of_bind_eq_ok h'
    refine foldlM_ok_induction₂ (R := FieldsAgree index) _ ?own ?inherited h h'
    case own =>
      intro fields fields' d _ out out' hstep hstep' hagree
      obtain ⟨t, ht, he⟩ := exists_of_bind_eq_ok hstep
      obtain ⟨u, hu, he'⟩ := exists_of_bind_eq_ok hstep'
      obtain rfl := Except.ok.inj he
      obtain rfl := Except.ok.inj he'
      exact hagree.setField d.name (reflect_agrees ht hu)
    case inherited =>
      refine foldlM_ok_induction₂ (R := FieldsAgree index) _ ?_ .nil hinherited hinherited'
      intro fields fields' base _ out out' hstep hstep' hagree
      unfold inheritFields at hstep hstep'
      split at hstep
      · next hb =>
        simp only [hb] at hstep'
        obtain rfl := Except.ok.inj hstep
        obtain rfl := Except.ok.inj hstep'
        exact hagree
      next b hb =>
      simp only [hb] at hstep'
      split at hstep
      · next hl =>
        rw [if_pos hl] at hstep'
        obtain rfl := Except.ok.inj hstep
        obtain rfl := Except.ok.inj hstep'
        exact hagree
      next hl =>
      rw [if_neg hl] at hstep'
      obtain ⟨own, hown, he⟩ := exists_of_bind_eq_ok hstep
      obtain ⟨own', hown', he'⟩ := exists_of_bind_eq_ok hstep'
      obtain rfl := Except.ok.inj he
      obtain rfl := Except.ok.inj he'
      have hroom : index.room (b.name :: lineage) < index.room lineage :=
        ClassIndex.room_cons_lt (ClassIndex.mem_of_get? hb) (by simpa using fun hm => hl (Or.inl hm))
      exact hagree.foldl_setField (ih _ (hn ▸ hroom) hown hown' rfl)

end RouteAtlas.Reflect
