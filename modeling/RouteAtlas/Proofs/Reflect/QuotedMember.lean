import RouteAtlas.Proofs.Mock.MemberValues
import RouteAtlas.Proofs.Mock.SchemaAgreement
import RouteAtlas.Proofs.Reflect.UnionSpelling
import RouteAtlas.Proofs.Schema.Registration
import RouteAtlas.Proofs.Schema.Written
import RouteAtlas.Proofs.Syntax.PrintedName
import RouteAtlas.Proofs.Syntax.QuotedText

/-!
# Quoted members of a union

Reflection keeps the members of a union as they are printed, and a member in quotes is printed with its
quotes. Schemas and mock values read what is printed: they take a name for a type and a quoted name for a
literal text. So quoting a member puts the text in the place of the type
(`quotedMember_unchanged_iff`), unless what is quoted is the absence of a value.
-/

namespace RouteAtlas.Syntax

open RouteAtlas.Text RouteAtlas.Reflect

/-- No text is its own literal value: between quotes it is longer. -/
theorem literalValue?_ne_self (s : String) : literalValue? s ≠ some (.str s) := by
  intro h
  unfold literalValue? at h
  dsimp only at h
  split at h
  · next e hread =>
    have hweight := weight_le_of_readExpr hread
    have hdrop := s.toList.length_dropWhile_le fun c => c == ' ' || c == '\t'
    obtain ⟨marked, rfl⟩ : ∃ marked, e = .constant (.str s marked) := by
      unfold Expr.scalar? at h
      split at h <;> cases h
      exact ⟨_, rfl⟩
    rw [weight, String.length_ofList] at hweight
    rw [String.length_toList] at hdrop
    omega
  · cases h

end RouteAtlas.Syntax

namespace RouteAtlas.Schema

open RouteAtlas.Document RouteAtlas.Syntax RouteAtlas.Text

/-- A union is written as the list of its members. -/
theorem toValue_oneOf_inj {members members' : List TypeSchema} :
    (TypeSchema.oneOf members).toValue = (TypeSchema.oneOf members').toValue ↔
      members.map (·.toValue) = members'.map (·.toValue) := by
  simp [TypeSchema.toValue, schemaValues_eq_map]

/-- No type is described as the text that names it. -/
theorem toValue_ofTypeName_ne (s : String) :
    (ofTypeName s).toValue ≠ (TypeSchema.literal (.str s)).toValue := by
  cases hliteral : literalValue? s with
  | some x =>
    rw [ofTypeName_of_literal hliteral]
    intro h
    have hx : x = .str s := by cases x <;> simp_all [TypeSchema.toValue, Value.ofScalar]
    exact literalValue?_ne_self s (hx ▸ hliteral)
  | none =>
    by_cases hany : lowercase s ∈ anyNames
    · rw [ofTypeName_of_mem_anyNames hliteral hany]
      simp [TypeSchema.toValue]
    · obtain ⟨format, hladder⟩ := ofTypeName_of_ladder hliteral hany
      rw [hladder]
      cases format <;> simp [TypeSchema.toValue]

end RouteAtlas.Schema

namespace RouteAtlas.Reflect

open RouteAtlas.Api RouteAtlas.Document RouteAtlas.Mock RouteAtlas.Schema RouteAtlas.Syntax

/-! ## Replacing a member -/

/-- The second annotation is the first with `q` in the place of one operand `m` of its bars. -/
inductive OperandReplaced (m q : Expr) : Expr → Expr → Prop
  | here : OperandReplaced m q m q
  | left {e e' : Expr} (h : OperandReplaced m q e e') (right : Expr) :
      OperandReplaced m q (.binary .bitOr e right) (.binary .bitOr e' right)
  | right (left : Expr) {e e' : Expr} (h : OperandReplaced m q e e') :
      OperandReplaced m q (.binary .bitOr left e) (.binary .bitOr left e')

/-- The second annotation is the first, a union, with `q` in the place of one member `m`. -/
inductive MemberReplaced (m q : Expr) : Expr → Expr → Prop
  | bars {e e' : Expr} (h : OperandReplaced m q e e') : MemberReplaced m q e e'
  | listed {value : Expr} (hname : value.simpleName = "Union") (before after : List Expr) :
      MemberReplaced m q (.subscript value (.tuple (before ++ m :: after)))
        (.subscript value (.tuple (before ++ q :: after)))

/-- The printed members of a union. -/
def memberTexts (members : List Expr) : List String :=
  (members.filter (!isNullType ·)).map (·.print)

/-- The values of the type are those of the members with these texts and the values that meet `Q`. -/
def Offers (t : TypeShape) (texts : List String) (Q : Value → Prop) : Prop :=
  ∀ hint v, Gen.MayGive (generate hint t) v ↔
    (∃ text ∈ texts, Gen.MayGive (mockForType text) v) ∨ Q v

section Replacing

variable {name : String} {m q e e' : Expr} {members before after : List Expr}

/-- A dotted name is an operand. -/
theorem IsDotted.isOperand (hm : IsDotted name m) : IsOperand m := by
  cases hm with
  | bare => exact ⟨nofun, nofun⟩
  | held => exact ⟨nofun, nofun⟩

/-- A text is an operand. -/
theorem isOperand_str (s : String) (marked : Bool) : IsOperand (.constant (.str s marked)) :=
  ⟨nofun, nofun⟩

/-- A replaced operand stands at one place of the operands. -/
theorem OperandReplaced.exists_barOperands (h : OperandReplaced m q e e') (hm : IsOperand m)
    (hq : IsOperand q) : ∃ before after,
      barOperands e = before ++ m :: after ∧ barOperands e' = before ++ q :: after := by
  induction h with
  | here => exact ⟨[], [], barOperands_of_isOperand hm, barOperands_of_isOperand hq⟩
  | left _ right ih =>
    obtain ⟨before, after, he, he'⟩ := ih
    exact ⟨before, after ++ barOperands right, by rw [barOperands, he, List.append_assoc]; rfl,
      by rw [barOperands, he', List.append_assoc]; rfl⟩
  | right left _ ih =>
    obtain ⟨before, after, he, he'⟩ := ih
    exact ⟨barOperands left ++ before, after, by rw [barOperands, he, List.append_assoc],
      by rw [barOperands, he', List.append_assoc]⟩

/-- A printable operand keeps an expression printable. -/
theorem OperandReplaced.isPrintable (h : OperandReplaced m q e e') (hq : q.isPrintable = true)
    (he : e.isPrintable = true) : e'.isPrintable = true := by
  induction h with
  | here => exact hq
  | left _ right ih =>
    rw [Expr.isPrintable, Bool.and_eq_true] at he ⊢
    exact ⟨ih he.1, he.2⟩
  | right left _ ih =>
    rw [Expr.isPrintable, Bool.and_eq_true] at he ⊢
    exact ⟨he.1, ih he.2⟩

/-- A union whose member is replaced is a union with the replaced member. -/
theorem MemberReplaced.exists_members (h : MemberReplaced m q e e') (hm : IsDotted name m)
    (hq : IsOperand q) (hform : TypeForm.ofExpr e = .union members) : ∃ before after,
      members = before ++ m :: after ∧ TypeForm.ofExpr e' = .union (before ++ q :: after) := by
  cases h with
  | bars h =>
    obtain ⟨before, after, he, he'⟩ := h.exists_barOperands hm.isOperand hq
    cases h with
    | here => cases hm <;> cases hform
    | left =>
      obtain rfl := TypeForm.union.inj hform
      exact ⟨before, after, he, congrArg TypeForm.union he'⟩
    | right =>
      obtain rfl := TypeForm.union.inj hform
      exact ⟨before, after, he, congrArg TypeForm.union he'⟩
  | @listed value hname before after =>
    have hunion (x : Expr) :
        TypeForm.ofExpr (.subscript value (.tuple (before ++ x :: after))) =
          .union (before ++ x :: after) := by
      rw [TypeForm.ofExpr, hname, Expr.subscriptArgs]
      cases before <;> rfl
    rw [hunion] at hform
    exact ⟨before, after, (TypeForm.union.inj hform).symm, hunion q⟩

/-- A printable member keeps an expression printable. -/
theorem MemberReplaced.isPrintable (h : MemberReplaced m q e e') (hq : q.isPrintable = true)
    (he : e.isPrintable = true) : e'.isPrintable = true := by
  cases h with
  | bars h => exact h.isPrintable hq he
  | listed _ before after =>
    simp only [Expr.isPrintable, arePrintable_eq_all, List.all_append, List.all_cons,
      Bool.and_eq_true] at he ⊢
    exact ⟨he.1, he.2.1, hq, he.2.2.2⟩

/-- The printed members apart from those before and after one of them. -/
theorem memberTexts_split (before after : List Expr) (m : Expr) :
    memberTexts (before ++ m :: after) = memberTexts before ++ (memberTexts [m] ++ memberTexts after) := by
  simp only [memberTexts, ← List.map_append, ← List.filter_append, List.singleton_append]

/-- A single member has its own text, unless it is null. -/
theorem memberTexts_singleton (m : Expr) :
    memberTexts [m] = if isNullType m then [] else [m.print] := by
  cases hm : isNullType m <;> simp [memberTexts, hm]

/-- Only the name itself is printed as the absence of a value. -/
theorem IsDotted.print_eq_none_iff (hm : IsDotted name m) : m.print = "None" ↔ m = .name "None" := by
  constructor
  · intro hprint
    cases hm with
    | bare => exact congrArg Expr.name hprint
    | held =>
      have hbroken : Broken "None" := hprint ▸ broken_print nofun nofun
      exact absurd (not_isIdentifier_of_broken hbroken) (by decide)
  · rintro rfl
    rfl

end Replacing

/-! ## What is made of the members -/

section Made

variable {isOptional : Bool} {text text' : String}
variable {e : Expr} {members before after : List Expr} {t : TypeShape}

/-- Members are printed together exactly if each one can be. -/
theorem mapM_printed_eq_ok_iff {texts : List String} : members.mapM printed = .ok texts ↔
    (∀ m ∈ members, m.isPrintable = true) ∧ texts = members.map (·.print) := by
  rw [mapM_eq_ok_iff]
  simp only [printed_eq_ok_iff, List.forall₂_and_left, eq_comm (b := Expr.print _)]
  rw [← List.forall₂_map_left_iff, List.forall₂_eq_eq_eq]
  exact and_congr_right fun _ => eq_comm

/-- A union with several members is kept as their printed forms. -/
theorem reflect_eq_ok_iff_of_several (index : ClassIndex) (active : List String) (isOptional : Bool)
    (hform : TypeForm.ofExpr e = .union members)
    (hseveral : 1 < (members.filter (!isNullType ·)).length) :
    reflect index active isOptional e = .ok t ↔
      e.isPrintable = true ∧ (∀ m ∈ members.filter (!isNullType ·), m.isPrintable = true) ∧
        t = .union e.print isOptional (memberTexts members) := by
  rw [reflect_union_of_one_lt hform hseveral]
  constructor
  · intro h
    obtain ⟨whole, hwhole, h⟩ := exists_of_bind_eq_ok h
    obtain ⟨texts, htexts, h⟩ := exists_of_bind_eq_ok h
    obtain ⟨he, rfl⟩ := printed_eq_ok_iff.1 hwhole
    obtain ⟨hmembers, rfl⟩ := mapM_printed_eq_ok_iff.1 htexts
    exact ⟨he, hmembers, (Except.ok.inj h).symm⟩
  · rintro ⟨he, hmembers, rfl⟩
    rw [printed_eq_ok_iff.2 ⟨he, rfl⟩, mapM_printed_eq_ok_iff.2 ⟨hmembers, rfl⟩]
    rfl

/-- What a union offers, with one of its members apart from the others. -/
theorem offers_union (before after : List Expr) (m : Expr) :
    Offers (.union text isOptional (memberTexts (before ++ m :: after))) (memberTexts (before ++ after))
      fun v => isNullType m = false ∧ Gen.MayGive (mockForType m.print) v := by
  intro hint v
  rw [mayGive_generate_of_members rfl rfl, memberTexts_split, memberTexts_singleton,
    show memberTexts (before ++ after) = memberTexts before ++ memberTexts after by
      simp [memberTexts]]
  cases isNullType m with
  | true => simp
  | false =>
    simp only [Bool.false_eq_true, if_false, List.mem_append, List.mem_singleton, or_and_right,
      exists_or, exists_eq_left, true_and]
    rw [or_assoc]
    exact or_congr_right or_comm

/-- Two unions that differ in one member have the same schema if these members have. -/
theorem toValue_schemaOf_union_iff (r r' : Registry TypeSchema) (before after : List Expr) (m m' : Expr) :
    (schemaOf r (.union text isOptional (memberTexts (before ++ m :: after)))).1.toValue =
        (schemaOf r' (.union text' isOptional (memberTexts (before ++ m' :: after)))).1.toValue ↔
      (memberTexts [m]).map (fun s => (ofTypeName s).toValue) =
        (memberTexts [m']).map fun s => (ofTypeName s).toValue := by
  unfold TypeShape.union
  rw [schemaOf_union, schemaOf_union, toValue_oneOf_inj, memberTexts_split, memberTexts_split]
  simp only [List.map_map, List.map_append, List.append_cancel_left_eq, List.append_cancel_right_eq,
    Function.comp_def]

end Made

/-! ## Quoting a member -/

section Quoting

variable {index : ClassIndex} {active : List String} {isOptional marked : Bool} {name : String}
variable {m e e' : Expr} {members : List Expr} {t : TypeShape}

/-- A text is printed as its source. -/
theorem print_str (s : String) (marked : Bool) :
    (Expr.constant (.str s marked)).print = (Constant.str s marked).source false := by
  rw [Expr.print, Expr.printAt]

/-- The quoted text of a name is no null type, and the name itself is one only if it is that of
null. -/
theorem IsDotted.isNullType_quoted (hm : IsDotted name m) (marked : Bool) :
    isNullType (.constant (.str m.print marked)) = false ↔ m ≠ .name "None" := by
  refine Iff.trans ?_ (not_congr hm.print_eq_none_iff)
  simp [isNullType]

/-- No fewer members stand for a value after one is put in quotes. -/
theorem IsDotted.length_filter_le (hm : IsDotted name m) (marked : Bool) (before after : List Expr) :
    ((before ++ m :: after).filter (!isNullType ·)).length ≤
      ((before ++ .constant (.str m.print marked) :: after).filter (!isNullType ·)).length := by
  have hnull : isNullType (.constant (.str m.print marked)) = true → isNullType m = true := by
    intro hquoted
    by_contra hm'
    have hname : m ≠ .name "None" := by
      rintro rfl
      exact hm' rfl
    rw [(hm.isNullType_quoted marked).2 hname] at hquoted
    cases hquoted
  simp only [List.filter_append, List.filter_cons, List.length_append]
  cases hquoted : isNullType (.constant (.str m.print marked)) with
  | true => simp [hnull hquoted]
  | false => cases isNullType m <;> simp

/-- A member in quotes has the text between them as its only value. -/
theorem mayGive_mockForType_quoted (s : String) (v : Value) :
    Gen.MayGive (mockForType (Expr.constant (.str s marked)).print) v ↔ v = .str s := by
  rw [print_str, mockForType_of_literal (literalValue?_source_str s marked)]
  exact Gen.mayGive_pure_iff

/-- A quoted text is described as a literal. -/
theorem ofTypeName_quoted (s : String) (marked : Bool) :
    ofTypeName (Expr.constant (.str s marked)).print = .literal (.str s) := by
  rw [print_str, ofTypeName_of_literal (literalValue?_source_str s marked)]

/-- The members before and after decide nothing: the schemas of a member and of the quoted member differ,
unless both are the absence of a value. -/
theorem toValue_quoted_iff (hm : IsDotted name m) :
    (memberTexts [.constant (.str m.print marked)]).map (fun s => (ofTypeName s).toValue) =
        (memberTexts [m]).map (fun s => (ofTypeName s).toValue) ↔ m = .name "None" := by
  rw [memberTexts_singleton, memberTexts_singleton]
  constructor
  · intro h
    by_contra hnone
    rw [(hm.isNullType_quoted marked).2 hnone] at h
    cases hnull : isNullType m with
    | true =>
      rw [hnull] at h
      cases h
    | false =>
      rw [hnull] at h
      simp only [Bool.false_eq_true, if_false, List.map_singleton, ofTypeName_quoted] at h
      exact toValue_ofTypeName_ne _ (List.singleton_inj.1 h).symm
  · rintro rfl
    rfl

/-- Let a member of a union with several members be the name of a type, and let it be put in quotes. The
schema changes unless it is the absence of a value; and where the values of the type were offered beside
those of the other members, only the text of its name is. -/
theorem quotedMember_unchanged_iff (hm : IsDotted name m)
    (he : MemberReplaced m (.constant (.str m.print marked)) e e')
    (hform : TypeForm.ofExpr e = .union members)
    (hseveral : 1 < (members.filter (!isNullType ·)).length)
    (ht : reflect index active isOptional e = .ok t) :
    ∃ before after t', members = before ++ m :: after ∧
      reflect index active isOptional e' = .ok t' ∧
      (∀ r, (schemaOf r t').1.toValue = (schemaOf r t).1.toValue ↔ m = .name "None") ∧
      Offers t (memberTexts (before ++ after))
        (fun v => isNullType m = false ∧ Gen.MayGive (mockForType m.print) v) ∧
      Offers t' (memberTexts (before ++ after)) (fun v => m ≠ .name "None" ∧ v = .str m.print) := by
  obtain ⟨before, after, rfl, hform'⟩ := he.exists_members hm (isOperand_str _ _) hform
  obtain ⟨hprint, hmembers, rfl⟩ :=
    (reflect_eq_ok_iff_of_several index active isOptional hform hseveral).1 ht
  -- several members stand for values in both unions, so both are kept as printed
  have hseveral' := Nat.lt_of_lt_of_le hseveral (hm.length_filter_le marked before after)
  have hmembers' : ∀ n ∈ (before ++ .constant (.str m.print marked) :: after).filter (!isNullType ·),
      n.isPrintable = true := by
    intro n hn
    obtain ⟨hn, hvalue⟩ := List.mem_filter.1 hn
    rcases List.mem_append.1 hn with hn | hn
    · exact hmembers n (List.mem_filter.2 ⟨List.mem_append_left _ hn, hvalue⟩)
    rcases List.mem_cons.1 hn with rfl | hn
    · rfl
    · exact hmembers n
        (List.mem_filter.2 ⟨List.mem_append_right _ (List.mem_cons_of_mem _ hn), hvalue⟩)
  have ht' := (reflect_eq_ok_iff_of_several index active isOptional hform' hseveral').2
    ⟨he.isPrintable rfl hprint, hmembers', rfl⟩
  refine ⟨before, after, _, rfl, ht', fun r => ?_, offers_union before after m, ?_⟩
  · exact (toValue_schemaOf_union_iff r r before after _ m).trans (toValue_quoted_iff hm)
  · intro hint v
    exact (offers_union before after _ hint v).trans
      (or_congr_right (and_congr (hm.isNullType_quoted marked) (mayGive_mockForType_quoted _ v)))

/-- The text takes the place of `int` in `int | str`. -/
theorem quotedMember_unchanged_iff_of_int :
    let int : Expr := .name "int"
    let str : Expr := .name "str"
    let quoted : Expr := .constant (.str int.print false)
    let e : Expr := .binary .bitOr int str
    let e' : Expr := .binary .bitOr quoted str
    let t : TypeShape := .union "int | str" false ["int", "str"]
    IsDotted "int" int ∧ MemberReplaced int quoted e e' ∧ TypeForm.ofExpr e = .union [int, str] ∧
      1 < ([int, str].filter (!isNullType ·)).length ∧ reflect ⟨[]⟩ [] false e = .ok t ∧
      ∃ before after t', [int, str] = before ++ int :: after ∧ reflect ⟨[]⟩ [] false e' = .ok t' ∧
        (∀ r, (schemaOf r t').1.toValue = (schemaOf r t).1.toValue ↔ int = .name "None") ∧
        Offers t (memberTexts (before ++ after))
          (fun v => isNullType int = false ∧ Gen.MayGive (mockForType int.print) v) ∧
        Offers t' (memberTexts (before ++ after)) (fun v => int ≠ .name "None" ∧ v = .str int.print) := by
  intro int str quoted e e' t
  have hint : IsDotted "int" int := .bare "int"
  have he : MemberReplaced int quoted e e' := .bars (.left .here str)
  have hform : TypeForm.ofExpr e = .union [int, str] := rfl
  have hseveral : 1 < ([int, str].filter (!isNullType ·)).length := by decide
  have ht : reflect ⟨[]⟩ [] false e = .ok t :=
    (reflect_eq_ok_iff_of_several _ _ _ hform hseveral).2 ⟨rfl, by decide, rfl⟩
  exact ⟨hint, he, hform, hseveral, ht, quotedMember_unchanged_iff hint he hform hseveral ht⟩

/-- In `"int" | str` the quoted member is described as the text `int`, and no number is offered for it. -/
theorem not_forall_quotedMember_unchanged :
    ¬ ∀ (index : ClassIndex) (active : List String) (isOptional marked : Bool) (name : String)
        (m e e' : Expr) (members : List Expr) (t t' : TypeShape) (r : Registry TypeSchema),
      IsDotted name m → MemberReplaced m (.constant (.str m.print marked)) e e' →
      TypeForm.ofExpr e = .union members → 1 < (members.filter (!isNullType ·)).length →
      reflect index active isOptional e = .ok t → reflect index active isOptional e' = .ok t' →
      (schemaOf r t').1.toValue = (schemaOf r t).1.toValue ∧
        ∀ hint v, Gen.MayGive (generate hint t') v ↔ Gen.MayGive (generate hint t) v := by
  intro hall
  let int : Expr := .name "int"
  let quoted : Expr := .constant (.str int.print false)
  have hint : IsDotted "int" int := .bare "int"
  have hform : TypeForm.ofExpr (.binary .bitOr int (.name "str")) = .union [int, .name "str"] := rfl
  have hform' : TypeForm.ofExpr (.binary .bitOr quoted (.name "str")) = .union [quoted, .name "str"] :=
    rfl
  have ht := (reflect_eq_ok_iff_of_several ⟨[]⟩ [] false hform (by decide)).2 ⟨rfl, by decide, rfl⟩
  have ht' := (reflect_eq_ok_iff_of_several ⟨[]⟩ [] false hform' (by decide)).2 ⟨rfl, by decide, rfl⟩
  have hschema := (hall ⟨[]⟩ [] false false "int" int _ _ _ _ _ .empty hint
    (.bars (.left .here (.name "str"))) hform (by decide) ht ht').1
  have hsame := (toValue_schemaOf_union_iff _ _ [] _ quoted int).1 hschema
  exact absurd (Expr.name.inj ((toValue_quoted_iff hint).1 hsame)) (by decide)

end Quoting

end RouteAtlas.Reflect
