import RouteAtlas.Proofs.Document.OrderedMap
import RouteAtlas.Proofs.Reflect.LikeFields
import RouteAtlas.Proofs.Reflect.UnionSpelling

/-!
# A name and its definition

One occurrence of a name in an annotation is replaced by a definition of the name. Reflection knows nothing
of the definition: it takes the name for a leaf. So both annotations have the same shape, but for printed
texts, exactly if reflection does not come to this occurrence, or the definition is a leaf as well
(`reflect_unfolds`, `exists_leaf_of_readsAt`).
-/

namespace RouteAtlas.Reflect

open RouteAtlas.Api RouteAtlas.Document RouteAtlas.Syntax

/-! ## Shapes without their texts -/

mutual

/-- The shape with nothing said about the printed forms in it. -/
def withoutTexts : TypeShape → TypeShape
  | ⟨_, isArray, isOptional, items, properties, unionTypes⟩ =>
    ⟨"", isArray, isOptional, itemsWithoutTexts items, propertiesWithoutTexts properties,
      unionTypes.map (·.map fun _ => "")⟩

/-- The items of a shape without the printed forms in it. -/
def itemsWithoutTexts : Option TypeShape → Option TypeShape
  | none => none
  | some t => some (withoutTexts t)

/-- The properties of a shape without the printed forms in it. -/
def propertiesWithoutTexts : Option (List (String × TypeShape)) → Option (List (String × TypeShape))
  | none => none
  | some fields => some (fieldsWithoutTexts fields)

/-- Properties without the printed forms in their shapes. -/
def fieldsWithoutTexts : List (String × TypeShape) → List (String × TypeShape)
  | [] => []
  | (name, t) :: fields => (name, withoutTexts t) :: fieldsWithoutTexts fields

end

/-- A union without texts keeps the number of its members. -/
@[simp] theorem withoutTexts_union (text : String) (isOptional : Bool) (members : List String) :
    withoutTexts (.union text isOptional members) = .union "" isOptional (members.map fun _ => "") :=
  rfl

/-- An array without texts keeps its items. -/
@[simp] theorem withoutTexts_array (text : String) (isOptional : Bool) (items : TypeShape) :
    withoutTexts (.array text isOptional items) = .array "" isOptional (withoutTexts items) := rfl

/-- An object without texts keeps its properties. -/
@[simp] theorem withoutTexts_object (text : String) (isOptional : Bool)
    (fields : List (String × TypeShape)) :
    withoutTexts (.object text isOptional fields) =
      .object "" isOptional (fieldsWithoutTexts fields) := rfl

/-- The shapes differ in nothing but printed texts. -/
def SameButTexts (t t' : TypeShape) : Prop := withoutTexts t = withoutTexts t'

/-- Unions with as many members differ in texts only. -/
theorem sameButTexts_union (text text' : String) (isOptional : Bool) {members members' : List String}
    (h : members.length = members'.length) :
    SameButTexts (.union text isOptional members) (.union text' isOptional members') := by
  rw [SameButTexts, withoutTexts_union, withoutTexts_union, List.map_const', List.map_const', h]

/-- Arrays differ in texts only exactly if their items do. -/
theorem sameButTexts_array_iff {text text' : String} {isOptional : Bool} {t t' : TypeShape} :
    SameButTexts (.array text isOptional t) (.array text' isOptional t') ↔ SameButTexts t t' := by
  rw [SameButTexts, withoutTexts_array, withoutTexts_array]
  exact ⟨fun h => Option.some.inj (congrArg TypeShape.items h), congrArg (TypeShape.array "" isOptional)⟩

/-- Fields that differ in texts only are the same without texts. -/
theorem LikeFields.fieldsWithoutTexts_eq {fields fields' : List (String × TypeShape)}
    (h : LikeFields SameButTexts fields fields') :
    fieldsWithoutTexts fields = fieldsWithoutTexts fields' := by
  induction h with
  | nil => rfl
  | @cons f f' fields fields' hf _ ih =>
    obtain ⟨name, t⟩ := f
    obtain ⟨name', t'⟩ := f'
    obtain ⟨rfl, ht⟩ := hf
    have ht : withoutTexts t = withoutTexts t' := ht
    rw [fieldsWithoutTexts, fieldsWithoutTexts, ih, ht]

/-- To differ in texts only is a likeness. -/
theorem isLikeness_sameButTexts : IsLikeness SameButTexts where
  refl _ := rfl
  trans _ _ _ := Eq.trans
  array _ _ _ _ := sameButTexts_array_iff.2
  object text isOptional _ _ h := by
    rw [SameButTexts, withoutTexts_object, withoutTexts_object, h.fieldsWithoutTexts_eq]

/-- Fields lose their texts one by one. -/
theorem fieldsWithoutTexts_eq_map (fields : List (String × TypeShape)) :
    fieldsWithoutTexts fields = fields.map fun f => (f.1, withoutTexts f.2) := by
  induction fields with
  | nil => rfl
  | cons f fields ih => rw [fieldsWithoutTexts, ih, List.map_cons]

/-- A field without texts is looked up by its name. -/
theorem field?_fieldsWithoutTexts (name : String) (fields : List (String × TypeShape)) :
    field? name (fieldsWithoutTexts fields) = (field? name fields).map withoutTexts := by
  rw [fieldsWithoutTexts_eq_map, field?_map]

/-- What has the shape of a leaf is a leaf. -/
theorem exists_leaf_of_sameButTexts {text : String} {isOptional : Bool} {t : TypeShape}
    (h : SameButTexts (.leaf text isOptional) t) : ∃ text', t = .leaf text' isOptional := by
  obtain ⟨text', isArray, flag, items, properties, unionTypes⟩ := t
  refine ⟨text', ?_⟩
  simp only [SameButTexts, TypeShape.leaf, withoutTexts, TypeShape.mk.injEq, true_and] at h
  obtain ⟨rfl, rfl, hitems, hproperties, hunion⟩ := h
  cases items with
  | some _ => cases hitems
  | none =>
    cases properties with
    | some _ => cases hproperties
    | none =>
      cases unionTypes with
      | some _ => cases hunion
      | none => rfl

/-! ## One occurrence -/

/-- One occurrence of a name is replaced by its definition: the whole annotation, or one in the arguments
of a generic or in the operands of a union. -/
inductive Unfolds (name : String) (definition : Expr) : Expr → Expr → Prop
  | here : Unfolds name definition (.name name) definition
  | argument (value : Expr) {arg arg' : Expr} (h : Unfolds name definition arg arg') :
      Unfolds name definition (.subscript value arg) (.subscript value arg')
  | arguments (value : Expr) (before after : List Expr) {arg arg' : Expr}
      (h : Unfolds name definition arg arg') :
      Unfolds name definition (.subscript value (.tuple (before ++ arg :: after)))
        (.subscript value (.tuple (before ++ arg' :: after)))
  | left (right : Expr) {left left' : Expr} (h : Unfolds name definition left left') :
      Unfolds name definition (.binary .bitOr left right) (.binary .bitOr left' right)
  | right (left : Expr) {right right' : Expr} (h : Unfolds name definition right right') :
      Unfolds name definition (.binary .bitOr left right) (.binary .bitOr left right')

/-- Reflection comes to this occurrence: through whatever wraps it, as the items of an array, or as the
only member of a union. -/
inductive ReadsAt (name : String) (definition : Expr) : Expr → Expr → Prop
  | here : ReadsAt name definition (.name name) definition
  | wrapped {e e' m m' : Expr} (he : TypeForm.ofExpr e = .wrapped m)
      (he' : TypeForm.ofExpr e' = .wrapped m') (h : ReadsAt name definition m m') :
      ReadsAt name definition e e'
  | item {e e' m m' : Expr} (he : TypeForm.ofExpr e = .array m)
      (he' : TypeForm.ofExpr e' = .array m') (h : ReadsAt name definition m m') :
      ReadsAt name definition e e'
  | onlyMember {e e' m m' : Expr} {members members' : List Expr} (he : TypeForm.ofExpr e = .union members)
      (he' : TypeForm.ofExpr e' = .union members') (hm : members.filter (!isNullType ·) = [m])
      (hm' : members'.filter (!isNullType ·) = [m']) (h : ReadsAt name definition m m') :
      ReadsAt name definition e e'

/-- The forms differ in one annotation inside them, where an occurrence is replaced, or not at all in what
is read further. -/
inductive FormUnfolds (name : String) (definition : Expr) : TypeForm → TypeForm → Prop
  | union (before after : List Expr) {m m' : Expr} (h : Unfolds name definition m m') :
      FormUnfolds name definition (.union (before ++ m :: after)) (.union (before ++ m' :: after))
  | wrapped {m m' : Expr} (h : Unfolds name definition m m') :
      FormUnfolds name definition (.wrapped m) (.wrapped m')
  | wrappedAlready (m : Expr) : FormUnfolds name definition (.wrapped m) (.wrapped m)
  | choice {values values' : List Expr}
      (h : List.Forall₂ (fun v v' => v'.isPrintable = v.isPrintable) values values') :
      FormUnfolds name definition (.choice values) (.choice values')
  | array {m m' : Expr} (h : Unfolds name definition m m') :
      FormUnfolds name definition (.array m) (.array m')
  | arrayAlready (m : Expr) : FormUnfolds name definition (.array m) (.array m)
  | leaf : FormUnfolds name definition .leaf .leaf

/-- A name that stands for a value, defined as a generic that can be printed. -/
structure IsDefinition (name : String) (definition : Expr) : Prop where
  generic : ∃ value args, definition = .subscript value args
  printable : definition.isPrintable = true
  name_not_null : isNullType (.name name) = false

section Occurrences

variable {name : String} {definition e e' : Expr}

/-- Unfolding a name keeps what can be printed. -/
theorem Unfolds.isPrintable_eq (hdef : IsDefinition name definition) (h : Unfolds name definition e e') :
    e'.isPrintable = e.isPrintable := by
  induction h with
  | here => exact hdef.printable
  | argument value _ ih => simp only [Expr.isPrintable, ih]
  | arguments value before after _ ih =>
    simp only [Expr.isPrintable, arePrintable_eq_all, List.all_append, List.all_cons, ih]
  | left right _ ih => simp only [Expr.isPrintable, ih]
  | right left _ ih => simp only [Expr.isPrintable, ih]

/-- Unfolding a name in one of several expressions keeps what can be printed. -/
theorem forall₂_isPrintable_unfolds (hdef : IsDefinition name definition) (before after : List Expr)
    (h : Unfolds name definition e e') :
    List.Forall₂ (fun v v' : Expr => v'.isPrintable = v.isPrintable) (before ++ e :: after)
      (before ++ e' :: after) := by
  have hrefl (l : List Expr) : List.Forall₂ (fun v v' : Expr => v'.isPrintable = v.isPrintable) l l :=
    List.forall₂_same.2 fun _ _ => rfl
  exact List.rel_append (hrefl before) (.cons (h.isPrintable_eq hdef) (hrefl after))

/-- With the occurrence and without, the annotation stands for a value. -/
theorem Unfolds.isNullType_eq (hdef : IsDefinition name definition) (h : Unfolds name definition e e') :
    isNullType e = false ∧ isNullType e' = false := by
  cases h with
  | here =>
    obtain ⟨value, args, rfl⟩ := hdef.generic
    exact ⟨hdef.name_not_null, rfl⟩
  | argument => exact ⟨rfl, rfl⟩
  | arguments => exact ⟨rfl, rfl⟩
  | left => exact ⟨rfl, rfl⟩
  | right => exact ⟨rfl, rfl⟩

/-- An unfolded expression is a single argument, before and after. -/
theorem Unfolds.subscriptArgs_eq (hdef : IsDefinition name definition)
    (h : Unfolds name definition e e') :
    Expr.subscriptArgs e = [e] ∧ Expr.subscriptArgs e' = [e'] := by
  cases h with
  | here =>
    obtain ⟨value, args, rfl⟩ := hdef.generic
    exact ⟨rfl, rfl⟩
  | argument => exact ⟨rfl, rfl⟩
  | arguments => exact ⟨rfl, rfl⟩
  | left => exact ⟨rfl, rfl⟩
  | right => exact ⟨rfl, rfl⟩

/-- Of the operands one differs. -/
theorem Unfolds.exists_barOperands (hdef : IsDefinition name definition)
    (h : Unfolds name definition e e') : ∃ before after m m', barOperands e = before ++ m :: after ∧
      barOperands e' = before ++ m' :: after ∧ Unfolds name definition m m' := by
  induction h with
  | here =>
    obtain ⟨value, args, rfl⟩ := hdef.generic
    exact ⟨[], [], _, _, rfl, rfl, .here⟩
  | argument value h => exact ⟨[], [], _, _, rfl, rfl, .argument value h⟩
  | arguments value before after h => exact ⟨[], [], _, _, rfl, rfl, .arguments value before after h⟩
  | left right _ ih =>
    obtain ⟨before, after, m, m', hm, hm', h⟩ := ih
    refine ⟨before, after ++ barOperands right, m, m', ?_, ?_, h⟩
    · rw [barOperands, hm, List.append_assoc, List.cons_append]
    · rw [barOperands, hm', List.append_assoc, List.cons_append]
  | right left _ ih =>
    obtain ⟨before, after, m, m', hm, hm', h⟩ := ih
    refine ⟨barOperands left ++ before, after, m, m', ?_, ?_, h⟩
    · rw [barOperands, hm, List.append_assoc]
    · rw [barOperands, hm', List.append_assoc]

/-- An unfolded expression is no ellipsis, before and after. -/
theorem Unfolds.isEllipsis_eq (hdef : IsDefinition name definition) (h : Unfolds name definition e e') :
    e.isEllipsis = false ∧ e'.isEllipsis = false := by
  cases h with
  | here =>
    obtain ⟨value, args, rfl⟩ := hdef.generic
    exact ⟨rfl, rfl⟩
  | argument => exact ⟨rfl, rfl⟩
  | arguments => exact ⟨rfl, rfl⟩
  | left => exact ⟨rfl, rfl⟩
  | right => exact ⟨rfl, rfl⟩

/-- The occurrence is not what makes the arguments of a tuple uniform. -/
theorem isUniform_unfolds (hdef : IsDefinition name definition) (before after : List Expr)
    (h : Unfolds name definition e e') :
    isUniform (before ++ e' :: after) = isUniform (before ++ e :: after) := by
  obtain ⟨he, he'⟩ := h.isEllipsis_eq hdef
  match before, after with
  | [], [] | [], [_] | [], _ :: _ :: _ => rfl
  | [_], [] => exact he'.trans he.symm
  | [_], _ :: _ | [_, _], _ | _ :: _ :: _ :: _, _ => rfl

/-- Unfolding an argument unfolds the form of a generic. -/
theorem formUnfolds_ofGeneric (hdef : IsDefinition name definition) (generic : String)
    (before after : List Expr) (h : Unfolds name definition e e') :
    FormUnfolds name definition (.ofGeneric generic (before ++ e :: after))
      (.ofGeneric generic (before ++ e' :: after)) := by
  have huniform := isUniform_unfolds hdef before after h
  have hchoice := forall₂_isPrintable_unfolds hdef before after h
  have hunion : FormUnfolds name definition (.union (before ++ e :: after))
      (.union (before ++ e' :: after)) := .union before after h
  cases before with
  | nil =>
    simp only [List.nil_append, TypeForm.ofGeneric] at huniform hchoice hunion ⊢
    simp only [huniform]
    split
    · exact .wrapped h
    · split
      · exact hunion
      · split
        · exact .choice hchoice
        · split
          · exact .array h
          · exact .leaf
  | cons first before =>
    simp only [List.cons_append, TypeForm.ofGeneric] at huniform hchoice hunion ⊢
    simp only [huniform]
    split
    · exact .wrappedAlready first
    · split
      · exact hunion
      · split
        · exact .choice hchoice
        · split
          · exact .arrayAlready first
          · exact .leaf

/-- Beside the occurrence itself, the two annotations have one form. -/
theorem Unfolds.eq_or_form (hdef : IsDefinition name definition) (h : Unfolds name definition e e') :
    e = .name name ∧ e' = definition ∨
      FormUnfolds name definition (TypeForm.ofExpr e) (TypeForm.ofExpr e') := by
  have hbars := h.exists_barOperands hdef
  cases h with
  | here => exact .inl ⟨rfl, rfl⟩
  | argument value h =>
    right
    rw [TypeForm.ofExpr, TypeForm.ofExpr, (h.subscriptArgs_eq hdef).1, (h.subscriptArgs_eq hdef).2]
    exact formUnfolds_ofGeneric hdef value.simpleName [] [] h
  | arguments value before after h =>
    exact .inr (formUnfolds_ofGeneric hdef value.simpleName before after h)
  | left right h =>
    obtain ⟨before, after, m, m', hm, hm', h⟩ := hbars
    rw [barOperands] at hm hm'
    right
    rw [TypeForm.ofExpr, TypeForm.ofExpr, hm, hm']
    exact .union before after h
  | right left h =>
    obtain ⟨before, after, m, m', hm, hm', h⟩ := hbars
    rw [barOperands] at hm hm'
    right
    rw [TypeForm.ofExpr, TypeForm.ofExpr, hm, hm']
    exact .union before after h

end Occurrences

/-! ## Reflection -/

/-- Expressions that can be printed both or neither are printed alike. -/
theorem matches_printed {e e' : Expr} (h : e'.isPrintable = e.isPrintable) :
    Matches (fun _ _ => True) (printed e) (printed e') := by
  unfold printed Expr.print?
  rw [h]
  cases e.isPrintable with
  | true => exact .ok trivial
  | false => exact .error _

/-- Unions whose members can be printed alike have the same shape. -/
theorem matches_union {e e' : Expr} {members members' : List Expr} (isOptional : Bool)
    (h : e'.isPrintable = e.isPrintable)
    (hmembers : List.Forall₂ (fun v v' : Expr => v'.isPrintable = v.isPrintable) members members') :
    Matches SameButTexts
      (do return .union (← printed e) isOptional (← members.mapM printed))
      (do return .union (← printed e') isOptional (← members'.mapM printed)) := by
  refine (matches_printed h).bind fun text text' _ => ?_
  refine (matches_mapM (hmembers.imp fun _ _ hm => matches_printed hm)).map fun texts texts' htexts => ?_
  exact sameButTexts_union text text' isOptional htexts.length_eq

section Reflection

variable {index : ClassIndex} {active : List String} {name : String} {definition e e' : Expr}

/-- The definition reflects to a leaf. -/
def IsLeafIn (index : ClassIndex) (active : List String) (definition : Expr) : Prop :=
  ∃ text, reflect index active false definition = .ok (.leaf text false)

/-- What is a leaf while some classes are being expanded is one while more are. -/
theorem reflect_leaf_of_subset {more : List String} (hmore : active ⊆ more) {isOptional : Bool}
    {text : String} (h : reflect index active isOptional e = .ok (.leaf text isOptional)) :
    reflect index more isOptional e = .ok (.leaf text isOptional) := by
  induction hn : weight e using Nat.strongRecOn generalizing e with
  | _ n ih =>
    cases hf : TypeForm.ofExpr e with
    | forward spelled =>
      cases hr : readExpr spelled with
      | error fault =>
        cases fault with
        | nullCharacter =>
          rw [reflect_forward_null hf hr] at h
          cases h
        | malformed =>
          rw [reflect_forward_malformed hf hr] at h
          rw [reflect_forward_malformed hf hr, h]
      | ok inner =>
        rw [reflect_forward hf hr] at h ⊢
        exact ih (weight inner) (hn ▸ weight_lt_of_forward hf hr) h rfl
    | illegible =>
      rw [reflect_illegible hf] at h
      cases h
    | null =>
      rw [reflect_null hf] at h
      rw [reflect_null hf, h]
    | union members =>
      rcases valueMembers_cases members with hnone | ⟨m, hmem, hm⟩ | hseveral
      · rw [reflect_union_empty hf hnone] at h
        rw [reflect_union_empty hf hnone, h]
      · rw [reflect_union_one hf hm] at h ⊢
        exact ih (weight m) (hn ▸ weight_lt_of_mem_inner (hf ▸ hmem)) h rfl
      · rw [reflect_union_of_one_lt hf hseveral] at h
        rw [reflect_union_of_one_lt hf hseveral, h]
    | wrapped inner =>
      rw [reflect_wrapped hf] at h ⊢
      exact ih (weight inner) (hn ▸ weight_lt_of_mem_inner (hf ▸ List.mem_singleton_self inner)) h rfl
    | choice values =>
      rw [reflect_choice hf] at h
      rw [reflect_choice hf, h]
    | array item =>
      rw [reflect_array hf] at h
      obtain ⟨_, _, h⟩ := exists_of_bind_eq_ok h
      obtain ⟨_, _, h⟩ := exists_of_bind_eq_ok h
      cases h
    | named id =>
      cases hc : index.get? id with
      | none =>
        rw [reflect_unknown hf hc] at h
        rw [reflect_unknown hf hc, h]
      | some c =>
        cases henum : c.isEnum with
        | true =>
          rw [reflect_enum hf hc henum] at h
          rw [reflect_enum hf hc henum, h]
        | false =>
          by_cases ha : c.name ∈ active
          · rw [reflect_active hf hc henum ha] at h
            rw [reflect_active hf hc henum (hmore ha), h]
          · rw [reflect_class hf hc henum ha] at h
            obtain ⟨_, _, h⟩ := exists_of_bind_eq_ok h
            cases h
    | leaf =>
      rw [reflect_leaf hf] at h
      rw [reflect_leaf hf, h]

/-- A leaf stays one where more classes are being expanded. -/
theorem IsLeafIn.of_subset {more : List String} (hmore : active ⊆ more)
    (h : IsLeafIn index active definition) : IsLeafIn index more definition :=
  h.imp fun _ htext => reflect_leaf_of_subset hmore htext

/-- A name of no class is a leaf. -/
theorem reflect_name_of_get?_none (hname : index.get? name = none) (isOptional : Bool) :
    reflect index active isOptional (.name name) = .ok (.leaf name isOptional) := by
  rw [reflect_unknown rfl hname, printed_eq_ok_iff.2 ⟨rfl, rfl⟩]
  rfl

/-- A member that stands for a value stays, whatever is dropped around it. -/
theorem filter_others (before after : List Expr) {m : Expr} (hm : isNullType m = false) :
    (before ++ m :: after).filter (!isNullType ·) =
      before.filter (!isNullType ·) ++ m :: after.filter (!isNullType ·) := by
  rw [List.filter_append, List.filter_cons_of_pos (by simp [hm])]

/-- With the definition in place of the name an annotation has the same shape, unless reflection comes to
this place and the definition is no leaf. -/
theorem reflect_unfolds (hdef : IsDefinition name definition) (hname : index.get? name = none)
    (h : Unfolds name definition e e')
    (hleaf : ReadsAt name definition e e' → IsLeafIn index active definition) (isOptional : Bool) :
    Matches SameButTexts (reflect index active isOptional e) (reflect index active isOptional e') := by
  induction hn : weight e using Nat.strongRecOn generalizing e e' isOptional with
  | _ n ih =>
    have hprint := h.isPrintable_eq hdef
    have hinner {m m' : Expr} (hm : m ∈ (TypeForm.ofExpr e).inner) (hunfolds : Unfolds name definition m m')
        (hreads : ReadsAt name definition m m' → ReadsAt name definition e e') (flag : Bool) :
        Matches SameButTexts (reflect index active flag m) (reflect index active flag m') :=
      ih (weight m) (hn ▸ weight_lt_of_mem_inner hm) hunfolds (fun hm => hleaf (hreads hm)) flag rfl
    rcases h.eq_or_form hdef with ⟨rfl, rfl⟩ | hform
    · obtain ⟨text, htext⟩ := hleaf .here
      rw [reflect_name_of_get?_none hname, reflect_eq_withOptional index active isOptional false, htext]
      exact .ok rfl
    generalize hf : TypeForm.ofExpr e = form at hform
    generalize hf' : TypeForm.ofExpr e' = form' at hform
    cases hform with
    | @union before after m m' hm =>
      obtain ⟨hnull, hnull'⟩ := hm.isNullType_eq hdef
      have hfilter := filter_others before after hnull
      have hfilter' := filter_others before after hnull'
      by_cases hothers : before.filter (!isNullType ·) = [] ∧ after.filter (!isNullType ·) = []
      · -- the only member that is read
        rw [hothers.1, hothers.2, List.nil_append] at hfilter hfilter'
        rw [reflect_union_one hf hfilter, reflect_union_one hf' hfilter']
        have hmem : m ∈ before ++ m :: after := List.mem_append_right _ List.mem_cons_self
        exact hinner (hf ▸ hmem) hm (.onlyMember hf hf' hfilter hfilter') isOptional
      · have hseveral (l : Expr) :
            1 < (before.filter (!isNullType ·) ++ l :: after.filter (!isNullType ·)).length := by
          by_contra hone
          rw [List.length_append, List.length_cons] at hone
          exact hothers ⟨List.length_eq_zero_iff.1 (by omega), List.length_eq_zero_iff.1 (by omega)⟩
        rw [reflect_union_of_one_lt hf (hfilter ▸ hseveral m),
          reflect_union_of_one_lt hf' (hfilter' ▸ hseveral m'), hfilter, hfilter']
        exact matches_union isOptional hprint (forall₂_isPrintable_unfolds hdef _ _ hm)
    | @wrapped m m' hm =>
      rw [reflect_wrapped hf, reflect_wrapped hf']
      exact hinner (hf ▸ List.mem_singleton_self m) hm (.wrapped hf hf') isOptional
    | wrappedAlready m =>
      rw [reflect_wrapped hf, reflect_wrapped hf']
      exact matches_self isLikeness_sameButTexts.refl _
    | choice hvalues =>
      rw [reflect_choice hf, reflect_choice hf']
      exact matches_union isOptional hprint hvalues
    | @array m m' hm =>
      rw [reflect_array hf, reflect_array hf']
      refine (matches_printed hprint).bind fun text text' _ => ?_
      exact (hinner (hf ▸ List.mem_singleton_self m) hm (.item hf hf') false).map
        fun t t' ht => sameButTexts_array_iff.2 ht
    | arrayAlready m =>
      rw [reflect_array hf, reflect_array hf']
      refine (matches_printed hprint).bind fun text text' _ => ?_
      exact (matches_self isLikeness_sameButTexts.refl _).map fun t t' ht => sameButTexts_array_iff.2 ht
    | leaf =>
      rw [reflect_leaf hf, reflect_leaf hf']
      exact (matches_printed hprint).map fun text text' _ => rfl

/-- Where reflection comes to this place and finds a leaf in both, the definition is a leaf. -/
theorem isLeafIn_of_readsAt {index' : ClassIndex} {active' : List String} {isOptional : Bool}
    {t t' : TypeShape} (hname : index.get? name = none) (h : ReadsAt name definition e e')
    (ht : reflect index active isOptional e = .ok t)
    (ht' : reflect index' active' isOptional e' = .ok t') (hsame : SameButTexts t t') :
    IsLeafIn index' active' definition := by
  induction h generalizing isOptional t t' with
  | here =>
    rw [reflect_name_of_get?_none hname] at ht
    obtain rfl := Except.ok.inj ht
    obtain ⟨text, rfl⟩ := exists_leaf_of_sameButTexts hsame
    refine ⟨text, ?_⟩
    rw [reflect_eq_withOptional index' active' false isOptional, ht']
    rfl
  | wrapped he he' _ ih =>
    rw [reflect_wrapped he] at ht
    rw [reflect_wrapped he'] at ht'
    exact ih ht ht' hsame
  | item he he' _ ih =>
    rw [reflect_array he] at ht
    rw [reflect_array he'] at ht'
    obtain ⟨text, _, ht⟩ := exists_of_bind_eq_ok ht
    obtain ⟨u, hu, ht⟩ := exists_of_bind_eq_ok ht
    obtain ⟨text', _, ht'⟩ := exists_of_bind_eq_ok ht'
    obtain ⟨u', hu', ht'⟩ := exists_of_bind_eq_ok ht'
    obtain rfl := Except.ok.inj ht
    obtain rfl := Except.ok.inj ht'
    exact ih hu hu' (sameButTexts_array_iff.1 hsame)
  | onlyMember he he' hm hm' _ ih =>
    rw [reflect_union_one he hm] at ht
    rw [reflect_union_one he' hm'] at ht'
    exact ih ht ht' hsame

end Reflection

end RouteAtlas.Reflect
