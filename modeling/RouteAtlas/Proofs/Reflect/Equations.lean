import RouteAtlas.Reflect.Reflection

/-!
# Reflection by the form of an annotation

One equation of `reflect` for each form that an annotation can have, and the equation of `classFields`
with the part of a single base brought out. Later proofs go by these and leave the definitions closed.
-/

namespace RouteAtlas.Reflect

open RouteAtlas.Api RouteAtlas.Document RouteAtlas.Syntax

section Forms

variable {index : ClassIndex} {active : List String} {isOptional : Bool} {e : Expr}

/-- An annotation is printed if it has a printed form, and then as that. -/
theorem printed_eq_ok_iff {text : String} :
    printed e = .ok text ↔ e.isPrintable = true ∧ text = e.print := by
  unfold printed Expr.print?
  cases e.isPrintable with
  | true => simp [eq_comm]
  | false => simp

/-- A quoted annotation with a null character is a fault. -/
theorem reflect_forward_null {text : String} (hf : TypeForm.ofExpr e = .forward text)
    (hr : readExpr text = .error .nullCharacter) :
    reflect index active isOptional e = .error .nullCharacter := by
  rw [reflect]
  split <;> rename_i h <;> rw [hf] at h <;> cases h
  split <;> rename_i h <;> rw [hr] at h <;> cases h

/-- A quoted annotation that spells none is a leaf with its text. -/
theorem reflect_forward_malformed {text : String} (hf : TypeForm.ofExpr e = .forward text)
    (hr : readExpr text = .error .malformed) :
    reflect index active isOptional e = .ok (.leaf text isOptional) := by
  rw [reflect]
  split <;> rename_i h <;> rw [hf] at h <;> cases h
  split <;> rename_i h <;> rw [hr] at h <;> cases h

/-- A quoted annotation stands for what its text spells. -/
theorem reflect_forward {text : String} {inner : Expr} (hf : TypeForm.ofExpr e = .forward text)
    (hr : readExpr text = .ok inner) :
    reflect index active isOptional e = reflect index active isOptional inner := by
  rw [reflect]
  split <;> rename_i h <;> rw [hf] at h <;> cases h
  split <;> rename_i h <;> rw [hr] at h <;> cases h
  rfl

/-- A quoted annotation with a surrogate is a fault. -/
theorem reflect_illegible (hf : TypeForm.ofExpr e = .illegible) :
    reflect index active isOptional e = .error .surrogate := by
  rw [reflect]
  split <;> rename_i h <;> rw [hf] at h <;> cases h

/-- The absence of a value is a leaf. -/
theorem reflect_null (hf : TypeForm.ofExpr e = .null) :
    reflect index active isOptional e = .ok (.leaf "None" isOptional) := by
  rw [reflect]
  split <;> rename_i h <;> rw [hf] at h <;> cases h

/-- A union in which nothing but the absence of a value stands is that leaf. -/
theorem reflect_union_empty {members : List Expr} (hf : TypeForm.ofExpr e = .union members)
    (hm : members.filter (!isNullType ·) = []) :
    reflect index active isOptional e = .ok (.leaf "None" isOptional) := by
  rw [reflect]
  split <;> rename_i h <;> rw [hf] at h <;> cases h
  split <;> rename_i h <;> simp_all

/-- A union with one member that is not the absence of a value stands for that member. -/
theorem reflect_union_one {members : List Expr} {m : Expr} (hf : TypeForm.ofExpr e = .union members)
    (hm : members.filter (!isNullType ·) = [m]) :
    reflect index active isOptional e = reflect index active isOptional m := by
  rw [reflect]
  split <;> rename_i h <;> rw [hf] at h <;> cases h
  split <;> rename_i h <;> simp_all

/-- A union of which neither none nor one member counts is kept as the printed forms of those that do. -/
theorem reflect_union_several {members : List Expr} (hf : TypeForm.ofExpr e = .union members)
    (h₀ : members.filter (!isNullType ·) = [] → False)
    (h₁ : ∀ m, members.filter (!isNullType ·) = [m] → False) :
    reflect index active isOptional e = (do
      return .union (← printed e) isOptional
        (← (members.filter (!isNullType ·)).mapM printed)) := by
  rw [reflect]
  split <;> rename_i h <;> rw [hf] at h <;> cases h
  split <;> rename_i h <;> simp_all

/-- Of the members of a union none, one or several are not the absence of a value. -/
theorem valueMembers_cases (members : List Expr) : members.filter (!isNullType ·) = [] ∨
    (∃ m ∈ members, members.filter (!isNullType ·) = [m]) ∨
      1 < (members.filter (!isNullType ·)).length := by
  cases hfilter : members.filter (!isNullType ·) with
  | nil => exact .inl rfl
  | cons m rest =>
    cases rest with
    | nil =>
      have hm : m ∈ members := (List.mem_filter.1 (hfilter ▸ List.mem_singleton_self m)).1
      exact .inr (.inl ⟨m, hm, rfl⟩)
    | cons n rest => exact .inr (.inr (by simp))

/-- A union with several members that are not the absence of a value is kept as their printed forms. -/
theorem reflect_union_of_one_lt {members : List Expr} (hf : TypeForm.ofExpr e = .union members)
    (hseveral : 1 < (members.filter (!isNullType ·)).length) :
    reflect index active isOptional e = (do
      return .union (← printed e) isOptional
        (← (members.filter (!isNullType ·)).mapM printed)) := by
  apply reflect_union_several hf
  · intro h
    rw [h] at hseveral
    exact absurd hseveral (by decide)
  · intro m h
    rw [h] at hseveral
    exact absurd hseveral (Nat.lt_irrefl 1)

/-- A marker is left out. -/
theorem reflect_wrapped {inner : Expr} (hf : TypeForm.ofExpr e = .wrapped inner) :
    reflect index active isOptional e = reflect index active isOptional inner := by
  rw [reflect]
  split <;> rename_i h <;> rw [hf] at h <;> cases h
  rfl

/-- A choice of literal values is the union of their printed forms. -/
theorem reflect_choice {values : List Expr} (hf : TypeForm.ofExpr e = .choice values) :
    reflect index active isOptional e = (do
      return .union (← printed e) isOptional (← values.mapM printed)) := by
  rw [reflect]
  split <;> rename_i h <;> rw [hf] at h <;> cases h
  rfl

/-- A list is an array of what its items are, which are never optional. -/
theorem reflect_array {item : Expr} (hf : TypeForm.ofExpr e = .array item) :
    reflect index active isOptional e = (do
      return .array (← printed e) isOptional (← reflect index active false item)) := by
  rw [reflect]
  split <;> rename_i h <;> rw [hf] at h <;> cases h
  rfl

/-- A form that stands for itself is a leaf with its printed form. -/
theorem reflect_leaf (hf : TypeForm.ofExpr e = .leaf) :
    reflect index active isOptional e = (do return .leaf (← printed e) isOptional) := by
  rw [reflect]
  split <;> rename_i h <;> rw [hf] at h <;> cases h

/-- A name that no class has is a leaf with its printed form. -/
theorem reflect_unknown {name : String} (hf : TypeForm.ofExpr e = .named name)
    (hc : index.get? name = none) :
    reflect index active isOptional e = (do return .leaf (← printed e) isOptional) := by
  rw [reflect]
  split <;> rename_i h <;> rw [hf] at h <;> cases h
  split
  · rfl
  · next c hget => cases hc.symm.trans hget

/-- An enumeration stands for its values, and for itself where it has none. -/
theorem reflect_enum {name : String} {c : ClassDecl} (hf : TypeForm.ofExpr e = .named name)
    (hc : index.get? name = some c) (henum : c.isEnum = true) :
    reflect index active isOptional e =
      match c.enumValues? with
      | none => .error .unprintable
      | some [] => .ok (.leaf c.name isOptional)
      | some values => .ok (.union c.name isOptional values) := by
  rw [reflect]
  split <;> rename_i h <;> rw [hf] at h <;> cases h
  split <;> rename_i h <;> rw [hc] at h <;> cases h
  exact if_pos henum

/-- A class that is being expanded further out is a leaf. -/
theorem reflect_active {name : String} {c : ClassDecl} (hf : TypeForm.ofExpr e = .named name)
    (hc : index.get? name = some c) (henum : c.isEnum = false) (ha : c.name ∈ active) :
    reflect index active isOptional e = .ok (.leaf c.name isOptional) := by
  rw [reflect]
  split <;> rename_i h <;> rw [hf] at h <;> cases h
  split <;> rename_i h <;> rw [hc] at h <;> cases h
  simp [henum, ha]

/-- Any other class is expanded. -/
theorem reflect_class {name : String} {c : ClassDecl} (hf : TypeForm.ofExpr e = .named name)
    (hc : index.get? name = some c) (henum : c.isEnum = false) (ha : c.name ∉ active) :
    reflect index active isOptional e = (do
      return .object c.name isOptional (← classFields index (c.name :: active) [c.name] c)) := by
  rw [reflect]
  split <;> rename_i h <;> rw [hf] at h <;> cases h
  split <;> rename_i h <;> rw [hc] at h <;> cases h
  simp [henum, ha]

end Forms

/-- A class is found under its own name. -/
theorem ClassIndex.name_of_get? {index : ClassIndex} {name : String} {c : ClassDecl}
    (h : index.get? name = some c) : c.name = name := by
  simpa using List.find?_some h

/-! ## The flag of the root -/

/-- The shape with this flag at its root. -/
def withOptional (isOptional : Bool) (t : TypeShape) : TypeShape := { t with isOptional }

/-- The flag goes to the root of the result and nowhere else. -/
theorem reflect_eq_withOptional (index : ClassIndex) (active : List String) (isOptional flag : Bool)
    (e : Expr) : reflect index active isOptional e =
      withOptional isOptional <$> reflect index active flag e := by
  induction hn : weight e using Nat.strongRecOn generalizing e with
  | _ n ih =>
    have hinner {m : Expr} (hm : weight m < weight e) := ih (weight m) (hn ▸ hm) m rfl
    cases hf : TypeForm.ofExpr e with
    | forward text =>
      cases hr : readExpr text with
      | error fault =>
        cases fault with
        | nullCharacter =>
          rw [reflect_forward_null hf hr, reflect_forward_null hf hr]
          rfl
        | malformed =>
          rw [reflect_forward_malformed hf hr, reflect_forward_malformed hf hr]
          rfl
      | ok inner =>
        rw [reflect_forward hf hr, reflect_forward hf hr]
        exact hinner (weight_lt_of_forward hf hr)
    | illegible =>
      rw [reflect_illegible hf, reflect_illegible hf]
      rfl
    | null =>
      rw [reflect_null hf, reflect_null hf]
      rfl
    | union members =>
      rcases valueMembers_cases members with hnone | ⟨m, hmem, hm⟩ | hseveral
      · rw [reflect_union_empty hf hnone, reflect_union_empty hf hnone]
        rfl
      · rw [reflect_union_one hf hm, reflect_union_one hf hm]
        exact hinner (weight_lt_of_mem_inner (hf ▸ hmem))
      · rw [reflect_union_of_one_lt hf hseveral, reflect_union_of_one_lt hf hseveral]
        simp only [map_bind, map_pure]
        rfl
    | wrapped inner =>
      rw [reflect_wrapped hf, reflect_wrapped hf]
      exact hinner (weight_lt_of_mem_inner (hf ▸ List.mem_singleton_self inner))
    | choice values =>
      rw [reflect_choice hf, reflect_choice hf]
      simp only [map_bind, map_pure]
      rfl
    | array item =>
      rw [reflect_array hf, reflect_array hf]
      simp only [map_bind, map_pure]
      rfl
    | named name =>
      cases hc : index.get? name with
      | none =>
        rw [reflect_unknown hf hc, reflect_unknown hf hc]
        simp only [map_bind, map_pure]
        rfl
      | some c =>
        cases henum : c.isEnum with
        | true =>
          rw [reflect_enum hf hc henum, reflect_enum hf hc henum]
          split <;> rfl
        | false =>
          by_cases ha : c.name ∈ active
          · rw [reflect_active hf hc henum ha, reflect_active hf hc henum ha]
            rfl
          · rw [reflect_class hf hc henum ha, reflect_class hf hc henum ha]
            simp only [map_bind, map_pure]
            rfl
    | leaf =>
      rw [reflect_leaf hf, reflect_leaf hf]
      simp only [map_bind, map_pure]
      rfl

/-- A reflected shape has the flag that was asked for. -/
theorem isOptional_of_reflect {index : ClassIndex} {active : List String} {isOptional : Bool}
    {e : Expr} {t : TypeShape} (h : reflect index active isOptional e = .ok t) :
    t.isOptional = isOptional := by
  rw [reflect_eq_withOptional index active isOptional isOptional] at h
  cases hr : reflect index active isOptional e with
  | error fault =>
    rw [hr] at h
    cases h
  | ok u =>
    rw [hr] at h
    exact congrArg TypeShape.isOptional (Except.ok.inj h).symm

/-! ## The fields of a class -/

/-- Adds what one base contributes to the fields. -/
def inheritFields (index : ClassIndex) (active lineage : List String)
    (fields : List (String × TypeShape)) (base : Expr) :
    Except ReflectFault (List (String × TypeShape)) :=
  match index.get? base.simpleName with
  | none => return fields
  | some b =>
    if b.name ∈ lineage ∨ b.isEnum = true then return fields
    else do
      return (← classFields index active (b.name :: lineage) b).foldl
        (fun fields f => setField f.1 f.2 fields) fields

/-- A base off the line of inheritance assigns its fields to those before. -/
theorem inheritFields_base {index : ClassIndex} {active lineage : List String} {base : Expr}
    {b : ClassDecl} {own : List (String × TypeShape)} (hb : index.get? base.simpleName = some b)
    (hl : b.name ∉ lineage) (henum : b.isEnum = false)
    (h : classFields index active (b.name :: lineage) b = .ok own)
    (fields : List (String × TypeShape)) : inheritFields index active lineage fields base =
      .ok (own.foldl (fun fields f => setField f.1 f.2 fields) fields) := by
  unfold inheritFields
  simp only [hb]
  rw [if_neg (by simp [hl, henum]), h]
  rfl

/-- A base on the line of inheritance, or an enumeration, adds nothing. -/
theorem inheritFields_cut {index : ClassIndex} {active lineage : List String} {base : Expr}
    {b : ClassDecl} (hb : index.get? base.simpleName = some b)
    (hcut : b.name ∈ lineage ∨ b.isEnum = true) (fields : List (String × TypeShape)) :
    inheritFields index active lineage fields base = .ok fields := by
  unfold inheritFields
  simp only [hb]
  exact if_pos hcut

/-- Adds a field that a class itself declares. -/
def declareField (index : ClassIndex) (active : List String) (fields : List (String × TypeShape))
    (d : FieldDecl) : Except ReflectFault (List (String × TypeShape)) := do
  return setField d.name (← reflect index active d.isOptional d.hint) fields

/-- The fields of a class are those of its bases, and then its own. -/
theorem classFields_eq (index : ClassIndex) (active lineage : List String) (c : ClassDecl) :
    classFields index active lineage c = (do
      c.fieldDecls.foldlM (declareField index active)
        (← c.bases.foldlM (inheritFields index active lineage) [])) := by
  rw [classFields]
  refine congrArg (· >>= _) (congrArg (fun f => List.foldlM f [] c.bases) ?_)
  funext fields base
  unfold inheritFields
  split
  · next h => simp only [h]
  · next b h =>
    simp only [h]
    by_cases hl : b.name ∈ lineage
    · simp [hl]
    · cases b.isEnum <;> simp [hl]

/-- The fields of a class from what it inherits and what it declares. -/
theorem classFields_of_ok {index : ClassIndex} {active lineage : List String} {c : ClassDecl}
    {inherited fields : List (String × TypeShape)}
    (hinherited : c.bases.foldlM (inheritFields index active lineage) [] = .ok inherited)
    (hown : c.fieldDecls.foldlM (declareField index active) inherited = .ok fields) :
    classFields index active lineage c = .ok fields := by
  rw [classFields_eq, hinherited]
  exact hown

/-- A field whose annotation is reflected is set. -/
theorem declareField_of_ok {index : ClassIndex} {active : List String} {d : FieldDecl} {t : TypeShape}
    (h : reflect index active d.isOptional d.hint = .ok t) (fields : List (String × TypeShape)) :
    declareField index active fields d = .ok (setField d.name t fields) := by
  unfold declareField
  rw [h]
  rfl

end RouteAtlas.Reflect
