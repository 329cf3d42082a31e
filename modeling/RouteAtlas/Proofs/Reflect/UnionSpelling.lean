import RouteAtlas.Proofs.Reflect.ReflectFaults

/-!
# The spellings of a union

A union is written with bars or as a generic, and the absence of a value may be named anywhere in it.
Reflection reads the same members off all these spellings, so the shapes differ in nothing but the printed
form of the root, and a union with a single member has the shape of that member.
-/

namespace RouteAtlas.Reflect

open RouteAtlas.Api RouteAtlas.Syntax

/-! ## Spellings -/

/-- The name itself, or with the modules that hold it in front. -/
inductive IsDotted : String → Expr → Prop
  | bare (name : String) : IsDotted name (.name name)
  | held {holder : String} {value : Expr} (h : IsDotted holder value) (name : String) :
      IsDotted name (.attribute value name)

/-- These members with bars between them, bracketed in some way. -/
inductive Bars : List Expr → Expr → Prop
  | one (m : Expr) : Bars [m] m
  | join {lefts rights : List Expr} {left right : Expr} (hleft : Bars lefts left)
      (hright : Bars rights right) : Bars (lefts ++ rights) (.binary .bitOr left right)

/-- These arguments between the brackets of a generic. -/
inductive Arguments : List Expr → Expr → Prop
  | one (arg : Expr) : Arguments [arg] arg
  | several (args : List Expr) : Arguments args (.tuple args)

/-- A union that lists these members. -/
inductive SpellsUnion (members : List Expr) : Expr → Prop
  | bars {e : Expr} (h : Bars members e) : SpellsUnion members e
  | generic {name : String} {value index : Expr} (hname : name ∈ ["Union", "Optional"])
      (hvalue : IsDotted name value) (hindex : Arguments members index) :
      SpellsUnion members (.subscript value index)

/-- The absence of a value: `None`, its name in quotes, or the name of its type. -/
inductive IsNull : Expr → Prop
  | constant : IsNull (.constant .none)
  | quoted (marked : Bool) : IsNull (.constant (.str "None" marked))
  | name {id : String} (h : id ∈ ["None", "NoneType"]) : IsNull (.name id)

/-- The list with the absence of a value put in anywhere, any number of times. -/
inductive WithNulls : List Expr → List Expr → Prop
  | nil : WithNulls [] []
  | member (m : Expr) {members listed : List Expr} (h : WithNulls members listed) :
      WithNulls (m :: members) (m :: listed)
  | null {n : Expr} {members listed : List Expr} (hn : IsNull n)
      (h : WithNulls members listed) : WithNulls members (n :: listed)

/-- The annotation is neither a union with bars nor a tuple. -/
structure IsOperand (m : Expr) : Prop where
  ne_bars : ∀ left right, m ≠ .binary .bitOr left right
  ne_tuple : ∀ items, m ≠ .tuple items

/-- The annotation is an operand that stands for a value. -/
structure IsUnionMember (m : Expr) : Prop extends IsOperand m where
  not_isNull : ¬ IsNull m

/-! ## What is read off a spelling -/

section Spellings

variable {name : String} {value e n : Expr} {members listed : List Expr}

/-- A dotted name has its last part as its name. -/
theorem IsDotted.simpleName_eq (h : IsDotted name value) : value.simpleName = name := by
  cases h <;> rfl

/-- A dotted name can be printed. -/
theorem IsDotted.isPrintable (h : IsDotted name value) : value.isPrintable = true := by
  induction h with
  | bare => rfl
  | held _ _ ih => simpa only [Expr.isPrintable] using ih

/-- The test for null finds exactly the spellings of null. -/
theorem isNullType_iff : isNullType n = true ↔ IsNull n := by
  constructor
  · intro hn
    unfold isNullType at hn
    split at hn
    · exact .constant
    · rw [eq_of_beq hn]
      exact .quoted _
    · exact .name (by simpa using hn)
    · cases hn
  · rintro (_ | marked | ⟨hid⟩)
    · rfl
    · rfl
    · simpa [isNullType] using hid

/-- A spelling of null is an operand. -/
theorem IsNull.isOperand (hn : IsNull n) : IsOperand n := by
  refine ⟨?_, ?_⟩
  · rintro left right rfl
    cases hn
  · rintro items rfl
    cases hn

/-- A spelling of null can be printed. -/
theorem IsNull.isPrintable (hn : IsNull n) : n.isPrintable = true := by
  cases hn <;> rfl

/-- Expressions can be printed together if each one can be. -/
theorem arePrintable_eq_all (items : List Expr) : arePrintable items = items.all (·.isPrintable) := by
  induction items with
  | nil => rfl
  | cons e items ih => rw [arePrintable, ih, List.all_cons]

/-- An operand is its own only operand. -/
theorem barOperands_of_isOperand (hm : IsOperand e) : barOperands e = [e] := by
  unfold barOperands
  split
  · next left right => exact absurd rfl (hm.ne_bars left right)
  · rfl

/-- The operands are the members, whatever the brackets. -/
theorem Bars.barOperands_eq (h : Bars members e) (hmembers : ∀ m ∈ members, IsOperand m) :
    barOperands e = members := by
  induction h with
  | one m => exact barOperands_of_isOperand (hmembers m List.mem_cons_self)
  | join _ _ ihleft ihright =>
    rw [barOperands, ihleft fun m hm => hmembers m (List.mem_append_left _ hm),
      ihright fun m hm => hmembers m (List.mem_append_right _ hm)]

/-- A chain of bars can be printed if its members can be. -/
theorem Bars.isPrintable_eq (h : Bars members e) : e.isPrintable = members.all (·.isPrintable) := by
  induction h with
  | one m => simp
  | join _ _ ihleft ihright => rw [Expr.isPrintable, ihleft, ihright, List.all_append]

/-- The arguments in brackets are the members. -/
theorem Arguments.subscriptArgs_eq (h : Arguments members e) (hmembers : ∀ m ∈ members, IsOperand m) :
    Expr.subscriptArgs e = members := by
  cases h with
  | one =>
    unfold Expr.subscriptArgs
    split
    · next items => exact absurd rfl ((hmembers _ List.mem_cons_self).ne_tuple items)
    · rfl
  | several => rfl

/-- Brackets can be printed if their members can be. -/
theorem Arguments.isPrintable_eq (h : Arguments members e) :
    e.isPrintable = members.all (·.isPrintable) := by
  cases h with
  | one => simp
  | several => rw [Expr.isPrintable, arePrintable_eq_all]

/-- A union has a printed form if its members have one. -/
theorem SpellsUnion.isPrintable_eq (h : SpellsUnion members e) :
    e.isPrintable = members.all (·.isPrintable) := by
  cases h with
  | bars h => exact h.isPrintable_eq
  | generic _ hvalue hindex =>
    rw [Expr.isPrintable, hvalue.isPrintable, Bool.true_and, hindex.isPrintable_eq]

/-- A spelling is read as the union of the members, unless it is just its only member. -/
theorem SpellsUnion.eq_singleton_or_union (h : SpellsUnion members e) (hne : members ≠ [])
    (hmembers : ∀ m ∈ members, IsOperand m) :
    members = [e] ∨ TypeForm.ofExpr e = .union members := by
  cases h with
  | bars h =>
    have hoperands := h.barOperands_eq hmembers
    cases h with
    | one => exact .inl rfl
    | join => exact .inr (congrArg TypeForm.union hoperands)
  | @generic name value index hname hvalue hindex =>
    obtain ⟨m, rest, rfl⟩ := List.exists_cons_of_ne_nil hne
    have hform : TypeForm.ofExpr (.subscript value index) = .ofGeneric name (m :: rest) := by
      rw [TypeForm.ofExpr, hvalue.simpleName_eq, hindex.subscriptArgs_eq hmembers]
    rw [hform]
    rcases List.mem_pair.1 hname with rfl | rfl <;> exact .inr rfl

/-- What is listed is a member or null. -/
theorem WithNulls.mem (h : WithNulls members listed) (hn : n ∈ listed) :
    n ∈ members ∨ IsNull n := by
  induction h with
  | nil => cases hn
  | member m _ ih =>
    rcases List.mem_cons.1 hn with rfl | hn
    · exact .inl List.mem_cons_self
    · exact (ih hn).imp_left (List.mem_cons_of_mem m)
  | null hnull _ ih =>
    rcases List.mem_cons.1 hn with rfl | hn
    · exact .inr hnull
    · exact ih hn

/-- Without the null types the members are left. -/
theorem WithNulls.filter_eq (h : WithNulls members listed)
    (hmembers : ∀ m ∈ members, ¬ IsNull m) : listed.filter (!isNullType ·) = members := by
  induction h with
  | nil => rfl
  | member m _ ih =>
    have hm : isNullType m = false :=
      Bool.eq_false_iff.2 (mt isNullType_iff.1 (hmembers m List.mem_cons_self))
    rw [List.filter_cons_of_pos (by simp [hm]), ih fun m hm => hmembers m (List.mem_cons_of_mem _ hm)]
  | null hnull _ ih => rw [List.filter_cons_of_neg (by simp [isNullType_iff.2 hnull]), ih hmembers]

/-- Nulls in a list do not matter for printing. -/
theorem WithNulls.all_isPrintable_eq (h : WithNulls members listed) :
    listed.all (·.isPrintable) = members.all (·.isPrintable) := by
  induction h with
  | nil => rfl
  | member m _ ih => rw [List.all_cons, List.all_cons, ih]
  | null hnull _ ih => rw [List.all_cons, hnull.isPrintable, ih, Bool.true_and]

/-- Whatever is listed in a union is an operand. -/
theorem WithNulls.isOperand (hlisted : WithNulls members listed)
    (hmembers : ∀ m ∈ members, IsUnionMember m) : ∀ n ∈ listed, IsOperand n := fun n hn =>
  (hlisted.mem hn).elim (fun hn => (hmembers n hn).toIsOperand) IsNull.isOperand

end Spellings

/-! ## The shape of a union -/

/-- The shape with nothing said about its printed form. -/
def withoutText (t : TypeShape) : TypeShape := { t with text := "" }

section Shapes

variable {index : ClassIndex} {active : List String} {isOptional : Bool}
variable {members listed listed' : List Expr} {e e' : Expr}

/-- If a whole is printed exactly when its members are, whether it is printed makes no difference. -/
theorem withoutText_printed (hprint : e.isPrintable = members.all (·.isPrintable)) :
    withoutText <$> (do return .union (← printed e) isOptional (← members.mapM printed)) =
      (do return .union "" isOptional (← members.mapM printed) : Except ReflectFault TypeShape) := by
  cases hwhole : e.isPrintable with
  | true =>
    have he : printed e = .ok e.print := printed_eq_ok_iff.2 ⟨hwhole, rfl⟩
    rw [he]
    simp only [map_bind, map_pure]
    rfl
  | false =>
    have he : printed e = .error .unprintable := by simp [printed, Expr.print?, hwhole]
    rw [hwhole, eq_comm, List.all_eq_false] at hprint
    obtain ⟨m, hm, hmember⟩ := hprint
    have hfails := failsWith_mapM fun m (_ : m ∈ members) => failsWith_printed m
    have hmembers : members.mapM printed = .error .unprintable := by
      cases hrun : members.mapM printed with
      | ok texts =>
        have hfault := hfails.of_ok texts hrun .unprintable
        exact absurd ⟨m, hm, rfl, by simp [Expr.print?, hmember]⟩ hfault
      | error fault =>
        obtain ⟨_, _, rfl, _⟩ := hfails.of_error fault hrun
        rfl
    rw [he, hmembers]
    rfl

/-- A union with one member has the shape of the member. -/
theorem reflect_of_spells_one {m : Expr} (hm : IsUnionMember m) (hlisted : WithNulls [m] listed)
    (he : SpellsUnion listed e) : reflect index active isOptional e = reflect index active isOptional m := by
  have hmembers : ∀ n ∈ [m], IsUnionMember n := fun n hn => List.mem_singleton.1 hn ▸ hm
  have hfilter := hlisted.filter_eq fun n hn => (hmembers n hn).not_isNull
  have hne : listed ≠ [] := fun h => by rw [h] at hfilter; cases hfilter
  rcases he.eq_singleton_or_union hne (hlisted.isOperand hmembers) with rfl | hform
  · have hmem : m ∈ [e] := List.mem_of_mem_filter (hfilter ▸ List.mem_singleton_self m)
    rw [List.mem_singleton.1 hmem]
  · exact reflect_union_one hform hfilter

/-- A union with several members has the shape of their printed forms. -/
theorem reflect_of_spells_several (hmembers : ∀ m ∈ members, IsUnionMember m)
    (hseveral : 1 < members.length) (hlisted : WithNulls members listed) (he : SpellsUnion listed e) :
    withoutText <$> reflect index active isOptional e =
      (do return .union "" isOptional (← members.mapM printed)) := by
  have hfilter := hlisted.filter_eq fun m hm => (hmembers m hm).not_isNull
  have hlength : 1 < listed.length := by
    rw [← hfilter] at hseveral
    exact Nat.lt_of_lt_of_le hseveral (List.length_filter_le _ listed)
  have hne : listed ≠ [] := List.ne_nil_of_length_pos (Nat.lt_of_succ_lt hlength)
  rcases he.eq_singleton_or_union hne (hlisted.isOperand hmembers) with rfl | hform
  · exact absurd hlength (by simp)
  · rw [reflect_union_of_one_lt hform (hfilter ▸ hseveral), hfilter]
    exact withoutText_printed (he.isPrintable_eq.trans hlisted.all_isPrintable_eq)

/-- However the union of these members is spelled, and whatever null types are put in, the shape is the
same but for the printed form of the root; with a single member it is that of the member. -/
theorem reflect_unionSpelling (hne : members ≠ []) (hmembers : ∀ m ∈ members, IsUnionMember m)
    (hlisted : WithNulls members listed) (he : SpellsUnion listed e)
    (hlisted' : WithNulls members listed') (he' : SpellsUnion listed' e') :
    withoutText <$> reflect index active isOptional e =
        withoutText <$> reflect index active isOptional e' ∧
      ∀ m, members = [m] → reflect index active isOptional e = reflect index active isOptional m := by
  refine ⟨?_, fun m hm => ?_⟩
  · obtain ⟨m, rest, rfl⟩ := List.exists_cons_of_ne_nil hne
    cases rest with
    | nil =>
      have hm := hmembers m List.mem_cons_self
      rw [reflect_of_spells_one hm hlisted he, reflect_of_spells_one hm hlisted' he']
    | cons next rest =>
      have hseveral : 1 < (m :: next :: rest).length := by simp
      rw [reflect_of_spells_several hmembers hseveral hlisted he,
        reflect_of_spells_several hmembers hseveral hlisted' he']
  · subst hm
    exact reflect_of_spells_one (hmembers m List.mem_cons_self) hlisted he

/-- `int | (None | str)` is `typing.Union["None", int, str]` but for its text, and `Optional[int]` is
`int`. -/
theorem reflect_unionSpelling_of_int :
    let int : Expr := .name "int"
    let str : Expr := .name "str"
    let bars : Expr := .binary .bitOr int (.binary .bitOr (.constant .none) str)
    let generic : Expr := .subscript (.attribute (.name "typing") "Union")
      (.tuple [.constant (.str "None" false), int, str])
    withoutText <$> reflect ⟨[]⟩ [] true bars = withoutText <$> reflect ⟨[]⟩ [] true generic ∧
      reflect ⟨[]⟩ [] true (.subscript (.name "Optional") int) = reflect ⟨[]⟩ [] true int := by
  intro int str bars generic
  have hint : IsUnionMember int := ⟨⟨nofun, nofun⟩, mt isNullType_iff.2 (by decide)⟩
  have hstr : IsUnionMember str := ⟨⟨nofun, nofun⟩, mt isNullType_iff.2 (by decide)⟩
  have hbars : SpellsUnion [int, .constant .none, str] bars :=
    .bars (.join (.one int) (.join (.one _) (.one str)))
  have hgeneric : SpellsUnion [.constant (.str "None" false), int, str] generic :=
    .generic List.mem_cons_self (.held (.bare "typing") "Union") (.several _)
  have hoptional : SpellsUnion [int] (.subscript (.name "Optional") int) :=
    .generic (List.mem_cons_of_mem _ List.mem_cons_self) (.bare "Optional") (.one int)
  refine ⟨?_, ?_⟩
  · have hmembers : ∀ m ∈ [int, str], IsUnionMember m :=
      List.forall_mem_cons.2 ⟨hint, List.forall_mem_singleton.2 hstr⟩
    have hwith : WithNulls [int, str] [int, .constant .none, str] :=
      .member int (.null .constant (.member str .nil))
    have hwith' : WithNulls [int, str] [.constant (.str "None" false), int, str] :=
      .null (.quoted false) (.member int (.member str .nil))
    exact (reflect_unionSpelling (List.cons_ne_nil _ _) hmembers hwith hbars hwith' hgeneric).1
  · exact (reflect_unionSpelling (List.cons_ne_nil _ _) (List.forall_mem_singleton.2 hint)
      (.member int .nil) hoptional (.member int .nil) (.bars (.one int))).2 int rfl

end Shapes

end RouteAtlas.Reflect
