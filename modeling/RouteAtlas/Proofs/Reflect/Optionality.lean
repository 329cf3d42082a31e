import RouteAtlas.Proofs.Reflect.Ancestry

/-!
# Where optionality comes from

`Outcome` says what reflection gives in one step: the flag of the root is the one that it was asked for,
and items are reflected without one (`outcome_of_reflect`). So the flags in a shape are those of the
fields of classes, and a field is mandatory by the statement that declares it: by a marker around its
annotation, or because nothing gives it a default (`mem_requiredNames_iff`). What type the annotation
denotes plays no part in it.
-/

namespace RouteAtlas.Reflect

open RouteAtlas.Api RouteAtlas.Document RouteAtlas.Schema RouteAtlas.Syntax RouteAtlas.Text

/-! ## One step of reflection -/

/-- What reflection gives, with the flag that it is asked for at the root. -/
inductive Outcome (index : ClassIndex) (active : List String) (isOptional : Bool) : TypeShape → Prop
  | leaf (text : String) : Outcome index active isOptional (.leaf text isOptional)
  | union (text : String) (members : List String) :
      Outcome index active isOptional (.union text isOptional members)
  | array (text : String) {item : Expr} {items : TypeShape}
      (h : reflect index active false item = .ok items) :
      Outcome index active isOptional (.array text isOptional items)
  | object {c : ClassDecl} {fields : List (String × TypeShape)} (hc : index.get? c.name = some c)
      (hfields : classFields index (c.name :: active) [c.name] c = .ok fields) :
      Outcome index active isOptional (.object c.name isOptional fields)

/-- What is reflected is one of the outcomes. -/
theorem outcome_of_reflect {index : ClassIndex} {active : List String} {isOptional : Bool} {e : Expr}
    {t : TypeShape} (h : reflect index active isOptional e = .ok t) :
    Outcome index active isOptional t := by
  -- forms that stand for another annotation are settled by that one, which weighs less
  induction hn : weight e using Nat.strongRecOn generalizing e with
  | _ n ih =>
    have hinner {m : Expr} (hm : weight m < weight e)
        (h : reflect index active isOptional m = .ok t) : Outcome index active isOptional t :=
      ih (weight m) (hn ▸ hm) h rfl
    cases hf : TypeForm.ofExpr e with
    | forward text =>
      cases hr : readExpr text with
      | error fault =>
        cases fault with
        | nullCharacter =>
          rw [reflect_forward_null hf hr] at h
          cases h
        | malformed =>
          rw [reflect_forward_malformed hf hr] at h
          exact Except.ok.inj h ▸ .leaf text
      | ok inner =>
        rw [reflect_forward hf hr] at h
        exact hinner (weight_lt_of_forward hf hr) h
    | illegible =>
      rw [reflect_illegible hf] at h
      cases h
    | null =>
      rw [reflect_null hf] at h
      exact Except.ok.inj h ▸ .leaf "None"
    | union members =>
      rcases valueMembers_cases members with hnone | ⟨m, hmem, hm⟩ | hseveral
      · rw [reflect_union_empty hf hnone] at h
        exact Except.ok.inj h ▸ .leaf "None"
      · rw [reflect_union_one hf hm] at h
        exact hinner (weight_lt_of_mem_inner (hf ▸ hmem)) h
      · rw [reflect_union_of_one_lt hf hseveral] at h
        obtain ⟨text, _, h⟩ := exists_of_bind_eq_ok h
        obtain ⟨texts, _, h⟩ := exists_of_bind_eq_ok h
        exact Except.ok.inj h ▸ .union text texts
    | wrapped inner =>
      rw [reflect_wrapped hf] at h
      exact hinner (weight_lt_of_mem_inner (hf ▸ List.mem_singleton_self inner)) h
    | choice values =>
      rw [reflect_choice hf] at h
      obtain ⟨text, _, h⟩ := exists_of_bind_eq_ok h
      obtain ⟨texts, _, h⟩ := exists_of_bind_eq_ok h
      exact Except.ok.inj h ▸ .union text texts
    | array item =>
      rw [reflect_array hf] at h
      obtain ⟨text, _, h⟩ := exists_of_bind_eq_ok h
      obtain ⟨items, hitems, h⟩ := exists_of_bind_eq_ok h
      exact Except.ok.inj h ▸ .array text hitems
    | named name =>
      cases hc : index.get? name with
      | none =>
        rw [reflect_unknown hf hc] at h
        obtain ⟨text, _, h⟩ := exists_of_bind_eq_ok h
        exact Except.ok.inj h ▸ .leaf text
      | some c =>
        cases henum : c.isEnum with
        | true =>
          rw [reflect_enum hf hc henum] at h
          split at h
          · cases h
          · exact Except.ok.inj h ▸ .leaf c.name
          · exact Except.ok.inj h ▸ .union c.name _
        | false =>
          by_cases ha : c.name ∈ active
          · rw [reflect_active hf hc henum ha] at h
            exact Except.ok.inj h ▸ .leaf c.name
          · rw [reflect_class hf hc henum ha] at h
            obtain ⟨fields, hfields, h⟩ := exists_of_bind_eq_ok h
            have hself : index.get? c.name = some c := by rw [ClassIndex.name_of_get? hc, hc]
            exact Except.ok.inj h ▸ .object hself hfields
    | leaf =>
      rw [reflect_leaf hf] at h
      obtain ⟨text, _, h⟩ := exists_of_bind_eq_ok h
      exact Except.ok.inj h ▸ .leaf text

/-- What a hint is reflected as is one of the outcomes. -/
theorem outcome_of_reflectHint {index : ClassIndex} {isOptional : Bool} {hint : Option Expr}
    {root : TypeShape} (h : reflectHint index isOptional hint = .ok root) :
    Outcome index [] isOptional root := by
  cases hint with
  | none => exact Except.ok.inj h ▸ .leaf "Any"
  | some e => exact outcome_of_reflect h

namespace Outcome

variable {index : ClassIndex} {active : List String} {isOptional : Bool} {t : TypeShape}

/-- Every outcome has the flag that was asked for. -/
theorem isOptional_eq (h : Outcome index active isOptional t) : t.isOptional = isOptional := by
  cases h <;> rfl

/-- Items are reflected without a flag. -/
theorem items (h : Outcome index active isOptional t) {items : TypeShape}
    (hi : t.items = some items) : Outcome index active false items := by
  cases h with
  | array _ h => exact Option.some.inj hi ▸ outcome_of_reflect h
  | _ => cases hi

/-- Properties are the fields of the class that the text names. -/
theorem properties (h : Outcome index active isOptional t) {properties : List (String × TypeShape)}
    (hp : t.properties = some properties) :
    ∃ c, t.text = c.name ∧ index.get? c.name = some c ∧
      classFields index (c.name :: active) [c.name] c = .ok properties := by
  cases h with
  | object hc hfields => exact ⟨_, rfl, hc, Option.some.inj hp ▸ hfields⟩
  | _ => cases hp

end Outcome

/-- A field of a class is reflected with the flag of the statement that declares it. -/
theorem exists_outcome_of_mem_classFields {index : ClassIndex} {active lineage : List String}
    {c : ClassDecl} {fields : List (String × TypeShape)}
    (h : classFields index active lineage c = .ok fields) :
    ∀ f ∈ fields, ∃ isOptional, Outcome index active isOptional f.2 := by
  rintro ⟨name, t⟩ hf
  have hfield := field?_eq_some_of_mem (nodup_fieldNames_classFields h) hf
  obtain ⟨d, _, hgives⟩ := exists_of_some_rel (hfield ▸ classFields_declared h name)
  exact ⟨d.isOptional, outcome_of_reflect hgives⟩

/-- Each node of a shape that reflection gives is given by reflection. -/
theorem exists_outcome_of_reaches {index : ClassIndex} {active : List String} {isOptional : Bool}
    {root : TypeShape} (hroot : Outcome index active isOptional root) {above : List TypeShape}
    {node : TypeShape} (h : Reaches root above node) :
    ∃ active isOptional, Outcome index active isOptional node := by
  induction h with
  | root => exact ⟨active, isOptional, hroot⟩
  | items _ hi ih =>
    obtain ⟨_, _, hnode⟩ := ih
    exact ⟨_, _, hnode.items hi⟩
  | property _ hp ht ih =>
    obtain ⟨_, _, hnode⟩ := ih
    obtain ⟨c, _, _, hfields⟩ := hnode.properties hp
    exact ⟨_, exists_outcome_of_mem_classFields hfields _ ht⟩

/-! ## Defaults -/

/-- The markers of fields, whose calls need not give a default. -/
def fieldMarkers : List String := ["Field", "field"]

/-- The assigned value gives its attribute a default: any value does, and a call of a field marker by one
of two keywords or by a first argument other than the ellipsis. -/
inductive GivesDefault : Expr → Prop
  | value {e : Expr} (h : ∀ func args keywords, e = .call func args keywords →
      func.simpleName ∉ fieldMarkers) : GivesDefault e
  | keyword {func value : Expr} {args : List Expr} {keywords : List (Option String × Expr)}
      {name : String} (hname : name = "default" ∨ name = "default_factory")
      (h : (some name, value) ∈ keywords) : GivesDefault (.call func args keywords)
  | positional {func first : Expr} {rest : List Expr} {keywords : List (Option String × Expr)}
      (h : first ≠ .constant .ellipsis) : GivesDefault (.call func (first :: rest) keywords)

/-- An ellipsis is that constant. -/
theorem isEllipsis_iff {e : Expr} : e.isEllipsis = true ↔ e = .constant .ellipsis := by
  unfold Expr.isEllipsis
  split <;> simp_all

/-- A call has a default if a keyword names one or its first argument is no ellipsis. -/
theorem callHasDefault_iff {args : List Expr} {keywords : List (Option String × Expr)} :
    callHasDefault args keywords = true ↔
      (∃ name value, (name = "default" ∨ name = "default_factory") ∧ (some name, value) ∈ keywords) ∨
        ∃ first rest, args = first :: rest ∧ first ≠ .constant .ellipsis := by
  unfold callHasDefault
  rw [Bool.or_eq_true, List.any_eq_true]
  refine or_congr ⟨?_, ?_⟩ ?_
  · rintro ⟨⟨key, value⟩, hmem, hkey⟩
    rw [Bool.or_eq_true, beq_iff_eq, beq_iff_eq] at hkey
    rcases hkey with rfl | rfl
    · exact ⟨"default", value, .inl rfl, hmem⟩
    · exact ⟨"default_factory", value, .inr rfl, hmem⟩
  · rintro ⟨name, value, hname, hmem⟩
    refine ⟨_, hmem, ?_⟩
    rcases hname with rfl | rfl <;> rfl
  · cases args with
    | nil => simp
    | cons first rest => simp [← isEllipsis_iff]

/-- A field has a default if its value gives one. -/
theorem hasDefault_iff {value : Option Expr} :
    hasDefault value = true ↔ ∃ e, value = some e ∧ GivesDefault e := by
  unfold hasDefault
  split
  · simp
  · next func args keywords =>
    by_cases hmarker : func.simpleName ∈ fieldMarkers
    · have hcontains : ["Field", "field"].contains func.simpleName = true := by
        simpa [fieldMarkers] using hmarker
      rw [if_pos hcontains, callHasDefault_iff]
      constructor
      · rintro (⟨name, value, hname, hmem⟩ | ⟨first, rest, rfl, hfirst⟩)
        · exact ⟨_, rfl, .keyword hname hmem⟩
        · exact ⟨_, rfl, .positional hfirst⟩
      · rintro ⟨e, he, hgives⟩
        obtain rfl := Option.some.inj he
        cases hgives with
        | value h => exact absurd hmarker (h _ _ _ rfl)
        | keyword hname h => exact .inl ⟨_, _, hname, h⟩
        | positional h => exact .inr ⟨_, _, rfl, h⟩
    · have hcontains : ¬ ["Field", "field"].contains func.simpleName = true := by
        simpa [fieldMarkers] using hmarker
      rw [if_neg hcontains]
      refine iff_of_true rfl ⟨_, rfl, .value fun func' args' keywords' he => ?_⟩
      rwa [← (Expr.call.inj he).1]
  · next e hne =>
    exact iff_of_true rfl ⟨e, rfl, .value fun func args keywords he => absurd he (hne func args keywords)⟩

/-! ## Statements that declare fields -/

/-- The annotation is a generic of this name with its arguments. -/
def IsWrappedBy (name : String) (hint : Expr) : Prop :=
  ∃ base args, hint = .subscript base args ∧ base.simpleName = name

/-- The test for a wrapper finds exactly the annotations that it wraps. -/
theorem isGeneric_iff {name : String} {hint : Expr} :
    isGeneric name hint = true ↔ IsWrappedBy name hint := by
  unfold isGeneric IsWrappedBy
  split
  · next base args => simp
  · next hne => exact iff_of_false nofun fun ⟨base, args, he, _⟩ => hne base args he

/-- The class says that its fields are not required: the first constant that it gives for this counts as
false. -/
def ClassDecl.IsPartial (c : ClassDecl) : Prop :=
  ∃ before k after, c.keywords = before ++ (some "total", .constant k) :: after ∧ isTruthy k = false ∧
    ∀ k', (some "total", .constant k') ∉ before

/-- The constant of a keyword is the first one that is given. -/
theorem constantKeyword?_eq_some_iff {name : String} {keywords : List (Option String × Expr)}
    {k : Constant} : constantKeyword? name keywords = some k ↔
      ∃ before after, keywords = before ++ (some name, .constant k) :: after ∧
        ∀ k', (some name, .constant k') ∉ before := by
  unfold constantKeyword?
  rw [List.findSome?_eq_some_iff]
  constructor
  · rintro ⟨before, ⟨key, e⟩, after, rfl, hfound, hbefore⟩
    dsimp only at hfound
    split at hfound
    · next c =>
      rw [Option.ite_none_right_eq_some, beq_iff_eq] at hfound
      obtain ⟨rfl, hc⟩ := hfound
      obtain rfl := Option.some.inj hc
      refine ⟨before, after, rfl, fun k' hk' => ?_⟩
      have hnone := hbefore _ hk'
      simp at hnone
    · cases hfound
  · rintro ⟨before, after, rfl, hbefore⟩
    refine ⟨before, _, after, rfl, by simp, fun ⟨key, e⟩ hmem => ?_⟩
    dsimp only
    split
    · next c =>
      refine if_neg fun hkey => ?_
      rw [beq_iff_eq] at hkey
      subst hkey
      exact hbefore c hmem
    · rfl

/-- A class is not total if it is declared partial. -/
theorem isTotal_eq_false_iff {c : ClassDecl} : c.isTotal = false ↔ c.IsPartial := by
  unfold ClassDecl.isTotal
  constructor
  · intro h
    cases hk : constantKeyword? "total" c.keywords with
    | none =>
      rw [hk] at h
      cases h
    | some k =>
      rw [hk] at h
      obtain ⟨before, after, hkeywords, hbefore⟩ := constantKeyword?_eq_some_iff.1 hk
      exact ⟨before, k, after, hkeywords, h, hbefore⟩
  · rintro ⟨before, k, after, hkeywords, hfalse, hbefore⟩
    rw [constantKeyword?_eq_some_iff.2 ⟨before, after, hkeywords, hbefore⟩]
    exact hfalse

/-- An attribute of this name with this annotation is a field. -/
structure IsField (name : String) (hint : Expr) : Prop where
  isPublic : beginsWith name "_" = false
  isData : name ∉ configurationNames
  isInstance : ¬ IsWrappedBy "ClassVar" hint

/-- A field that a statement of the class declares may not be left out: it is marked as required, or has
no default, no marker to the contrary and a class whose fields are required. -/
def IsMandatory (c : ClassDecl) (hint : Expr) (value : Option Expr) : Prop :=
  IsWrappedBy "Required" hint ∨
    (¬ ∃ e, value = some e ∧ GivesDefault e) ∧ ¬ IsWrappedBy "NotRequired" hint ∧ ¬ c.IsPartial

/-- The last statement of the class that declares a field of this name. -/
structure LastDeclares (c : ClassDecl) (name : String) (hint : Expr) (value : Option Expr) : Prop where
  isField : IsField name hint
  last : ∃ before after, c.body = before ++ .annAssign (.name name) hint value :: after ∧
    ∀ hint' value', Stmt.annAssign (.name name) hint' value' ∈ after → ¬ IsField name hint'

/-- The statement that counts for a field, where the classes come in this order: the last one of the
first class that declares it. -/
structure Declares (order : List ClassDecl) (name : String) (owner : ClassDecl) (hint : Expr)
    (value : Option Expr) : Prop where
  last : LastDeclares owner name hint value
  first : ∃ before after, order = before ++ owner :: after ∧ ∀ other ∈ before, ¬ other.Annotates name

/-- The flag of a declared field is off where the statement makes it mandatory. -/
def FieldDecl.FlagOf (c : ClassDecl) (hint : Expr) (value : Option Expr) (d : FieldDecl) : Prop :=
  d.isOptional = false ↔ IsMandatory c hint value

section Statements

variable {c : ClassDecl} {name : String} {hint : Expr} {value : Option Expr} {d : FieldDecl}

/-- The flag is off exactly for mandatory fields. -/
theorem flag_eq_false_iff :
    (!isGeneric "Required" hint && (hasDefault value || !c.isTotal || isGeneric "NotRequired" hint)) =
      false ↔ IsMandatory c hint value := by
  unfold IsMandatory
  rw [Bool.and_eq_false_iff, Bool.not_eq_false', isGeneric_iff, Bool.or_eq_false_iff,
    Bool.or_eq_false_iff, Bool.not_eq_false', ← Bool.not_eq_true, hasDefault_iff,
    ← Bool.not_eq_false, isTotal_eq_false_iff, ← Bool.not_eq_true (isGeneric _ _), isGeneric_iff,
    and_assoc, and_comm (a := ¬ c.IsPartial)]

/-- A declared field comes from an annotation. -/
theorem exists_of_fieldDecl? {s : Stmt} (h : fieldDecl? c.isTotal s = some d) :
    ∃ hint value, s = .annAssign (.name d.name) hint value ∧ IsField d.name hint ∧
      d.FlagOf c hint value := by
  unfold fieldDecl? at h
  split at h
  · next id hint value =>
    split at h
    · cases h
    · next hopen =>
      obtain rfl := Option.some.inj h
      rw [Bool.or_eq_true, Bool.or_eq_true, not_or, not_or, Bool.not_eq_true, List.contains_iff_mem,
        isGeneric_iff] at hopen
      exact ⟨hint, value, rfl, ⟨hopen.1.1, hopen.1.2, hopen.2⟩, flag_eq_false_iff⟩
  · cases h

/-- An annotation of a field declares it. -/
theorem exists_fieldDecl?_of_isField (h : IsField name hint) (value : Option Expr) :
    ∃ d, fieldDecl? c.isTotal (.annAssign (.name name) hint value) = some d ∧ d.name = name := by
  have hopen : ¬ (beginsWith name "_" || configurationNames.contains name ||
      isGeneric "ClassVar" hint) = true := by
    rw [Bool.or_eq_true, Bool.or_eq_true, not_or, not_or, Bool.not_eq_true, List.contains_iff_mem,
      isGeneric_iff]
    exact ⟨⟨h.isPublic, h.isData⟩, h.isInstance⟩
  exact ⟨_, if_neg hopen, rfl⟩

/-- The last declaration of a class is its last statement that declares the name. -/
theorem LastDeclares.exists_declaration? (h : LastDeclares c name hint value) :
    ∃ d, c.declaration? name = some d ∧ d.FlagOf c hint value := by
  obtain ⟨before, after, hbody, hlast⟩ := h.last
  obtain ⟨d, hd, rfl⟩ := exists_fieldDecl?_of_isField (c := c) h.isField value
  have hdecls : c.fieldDecls = before.filterMap (fieldDecl? c.isTotal) ++
      d :: after.filterMap (fieldDecl? c.isTotal) := by
    unfold ClassDecl.fieldDecls
    rw [hbody, List.filterMap_append, List.filterMap_cons_some hd]
  have hother : ∀ other ∈ after.filterMap (fieldDecl? c.isTotal), other.name ≠ d.name := by
    intro other hmem hname
    obtain ⟨s, hs, hdecl⟩ := List.mem_filterMap.1 hmem
    obtain ⟨hint', value', rfl, hfield, _⟩ := exists_of_fieldDecl? hdecl
    rw [hname] at hs hfield
    exact hlast hint' value' hs hfield
  obtain ⟨hint', value', hs, _, hflag⟩ := exists_of_fieldDecl? hd
  obtain ⟨_, rfl, rfl⟩ := Stmt.annAssign.inj hs
  exact ⟨d, declaration?_of_last hdecls hother, hflag⟩

/-- The declaration of a class is its last one. -/
theorem exists_lastDeclares_of_declaration? (h : c.declaration? name = some d) :
    ∃ hint value, LastDeclares c name hint value ∧ d.FlagOf c hint value := by
  unfold ClassDecl.declaration? at h
  obtain ⟨hname, later, earlier, hreverse, hlater⟩ := List.find?_eq_some_iff_append.1 h
  rw [beq_iff_eq] at hname
  have hdecls : c.body.filterMap (fieldDecl? c.isTotal) = earlier.reverse ++ d :: later.reverse := by
    have hlist := congrArg List.reverse hreverse
    rw [List.reverse_reverse, List.reverse_append, List.reverse_cons, List.append_assoc] at hlist
    exact hlist
  obtain ⟨before, rest, hbody, _, hrest⟩ := List.filterMap_eq_append_iff.1 hdecls
  obtain ⟨skipped, s, after, rfl, _, hs, hafter⟩ := List.filterMap_eq_cons_iff.1 hrest
  obtain ⟨hint, value, rfl, hfield, hflag⟩ := exists_of_fieldDecl? hs
  subst hname
  refine ⟨hint, value, ⟨hfield, before ++ skipped, after, ?_, fun hint' value' hmem hfield' => ?_⟩, hflag⟩
  · rw [hbody, List.append_assoc]
  · obtain ⟨d', hd', hname'⟩ := exists_fieldDecl?_of_isField (c := c) hfield' value'
    have hmem' : d' ∈ later := by
      rw [← List.mem_reverse, ← hafter]
      exact List.mem_filterMap.2 ⟨_, hmem, hd'⟩
    have hne := hlater d' hmem'
    rw [hname', beq_self_eq_true] at hne
    cases hne

/-- A declaration is found in the order of its class. -/
theorem Declares.exists_declarationIn {order : List ClassDecl} (h : Declares order name c hint value) :
    ∃ d, declarationIn order name = some d ∧ d.FlagOf c hint value := by
  obtain ⟨d, hd, hflag⟩ := h.last.exists_declaration?
  obtain ⟨before, after, rfl, hbefore⟩ := h.first
  have hnone : declarationIn before name = none := by
    rw [← Option.not_isSome_iff_eq_none, isSome_declarationIn_iff]
    rintro ⟨other, hother, hannotates⟩
    exact hbefore other hother hannotates
  refine ⟨d, ?_, hflag⟩
  rw [declarationIn_append, hnone, declarationIn_cons, hd]
  rfl

/-- A declaration that is found is the one that counts. -/
theorem exists_declares_of_declarationIn {order : List ClassDecl}
    (h : declarationIn order name = some d) :
    ∃ owner hint value, Declares order name owner hint value ∧ d.FlagOf owner hint value := by
  obtain ⟨before, owner, after, horder, hd, hbefore⟩ := List.findSome?_eq_some_iff.1 h
  obtain ⟨hint, value, hlast, hflag⟩ := exists_lastDeclares_of_declaration? hd
  refine ⟨owner, hint, value, ⟨hlast, before, after, horder, fun other hother hannotates => ?_⟩, hflag⟩
  have hsome := isSome_declaration?_iff.2 hannotates
  rw [hbefore other hother] at hsome
  cases hsome

end Statements

/-- The required names of a class are those of the fields that are mandatory by the statement that counts
for them. -/
theorem mem_requiredNames_iff {index : ClassIndex} {active lineage : List String} {c : ClassDecl}
    {fields : List (String × TypeShape)} (h : classFields index active lineage c = .ok fields)
    {name : String} : name ∈ requiredNames fields ↔
      ∃ owner hint value, Declares (overrideOrder index lineage c) name owner hint value ∧
        IsMandatory owner hint value := by
  have hdeclared := classFields_declared h name
  have hnodup := nodup_fieldNames_classFields h
  unfold requiredNames
  rw [List.mem_map]
  constructor
  · rintro ⟨⟨_, t⟩, hf, rfl⟩
    obtain ⟨hmem, hflag⟩ := List.mem_filter.1 hf
    rw [field?_eq_some_of_mem hnodup hmem] at hdeclared
    obtain ⟨d, hd, hgives⟩ := exists_of_some_rel hdeclared
    obtain ⟨owner, hint, value, hdeclares, hmandatory⟩ := exists_declares_of_declarationIn hd
    refine ⟨owner, hint, value, hdeclares, hmandatory.1 ?_⟩
    rw [← isOptional_of_reflect hgives]
    simpa using hflag
  · rintro ⟨owner, hint, value, hdeclares, hmandatory⟩
    obtain ⟨d, hd, hflag⟩ := hdeclares.exists_declarationIn
    obtain ⟨t, ht, hgives⟩ := exists_of_rel_some (hd ▸ hdeclared)
    refine ⟨(name, t), List.mem_filter.2 ⟨mem_of_field? ht, ?_⟩, rfl⟩
    have hoff : t.isOptional = false := (isOptional_of_reflect hgives).trans (hflag.2 hmandatory)
    simpa using hoff

end RouteAtlas.Reflect
