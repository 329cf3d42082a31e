import RouteAtlas.Proofs.Reflect.QuotedMember
import RouteAtlas.Proofs.Syntax.PrintedNumber

/-!
# Choices of literal values

The values of a `Literal` are kept as printed text, and schemas and mock values read the text again. What
is read is what was written (`literalValue?_print`), so the type is described as one of its values and
mocked by them (`reflect_literal`).
-/

namespace RouteAtlas.Syntax

open RouteAtlas.Text RouteAtlas.Number

/-- A value that its printed text spells exactly: a text, a truth value, or an integer that has a printed
text. -/
def Scalar.IsExact : Scalar → Prop
  | .str _ | .surrogate _ => True
  | .int n => (Nat.toDigits 10 n.natAbs).length ≤ maxDecimalDigits
  | .float _ => False
  | .bool _ => True

/-- A constant is printed as its source. -/
theorem print_constant (k : Constant) : (Expr.constant k).print = k.source false := by
  rw [Expr.print, Expr.printAt]

/-- A constant with a plus is printed behind it. -/
theorem toList_print_plus (k : Constant) :
    (Expr.unary .plus (.constant k)).print.toList = '+' :: (k.source false).toList := by
  rw [Expr.print, Expr.printAt, Expr.printAt, parenthesizedAbove, if_neg (by decide),
    String.toList_append]
  rfl

/-- A constant with a minus is printed behind it. -/
theorem toList_print_minus (k : Constant) :
    (Expr.unary .minus (.constant k)).print.toList = '-' :: (k.source false).toList := by
  rw [Expr.print, Expr.printAt, Expr.printAt, parenthesizedAbove, if_neg (by decide),
    String.toList_append]
  rfl

/-- An integer that has a printed text is printed as digits that spell it. -/
theorem spellsNumber_source_int {n : Nat} (h : (Constant.int n).isPrintable = true) :
    SpellsNumber ((Constant.int n).source false).toList (.int n) :=
  spellsNumber_toString (of_decide_eq_true h)

/-- An expression for a value that its text spells is printed as such a text. -/
theorem literalValue?_print {e : Expr} {v : Scalar} (hv : e.scalar? = some v) (hexact : v.IsExact) :
    e.isPrintable = true ∧ literalValue? e.print = some v := by
  have hint {n : Nat} (h : (Nat.toDigits 10 n).length ≤ maxDecimalDigits) :
      (Constant.int n).isPrintable = true := decide_eq_true h
  unfold Expr.scalar? at hv
  split at hv <;> cases hv
  · next s marked => exact ⟨rfl, print_constant _ ▸ literalValue?_source_str s marked⟩
  · next t marked => exact ⟨rfl, print_constant _ ▸ literalValue?_source_surrogate t marked⟩
  · next n =>
    exact ⟨hint hexact, print_constant _ ▸ literalValue?_spellsNumber (spellsNumber_source_int (hint hexact))⟩
  · exact hexact.elim
  · next b => exact ⟨rfl, print_constant _ ▸ literalValue?_bool b⟩
  · next n =>
    exact ⟨hint hexact, literalValue?_signed (.inl ⟨rfl, rfl⟩) (toList_print_plus _)
      (spellsNumber_source_int (hint hexact))⟩
  · exact hexact.elim
  · next n =>
    have hlength : (Nat.toDigits 10 n).length ≤ maxDecimalDigits := by
      simpa [Scalar.IsExact] using hexact
    exact ⟨hint hlength, literalValue?_signed (.inr ⟨rfl, rfl⟩) (toList_print_minus _)
      (spellsNumber_source_int (hint hlength))⟩
  · exact hexact.elim

end RouteAtlas.Syntax

namespace RouteAtlas.Reflect

open RouteAtlas.Api RouteAtlas.Document RouteAtlas.Mock RouteAtlas.Schema RouteAtlas.Syntax
open RouteAtlas.Text

/-! ## Types that are a choice of values -/

/-- The written schema of a value: its JSON type and the value as the only choice. -/
def valueEntry (v : Scalar) : Value :=
  .map [("type", .str (scalarType v)), ("enum", .list [.ofScalar v])]

/-- The type is a choice of these values: its schema has one entry for each of them in their order and
needs no component, and mock values are these values, each of them from some state of the source. -/
structure IsChoiceOf (t : TypeShape) (values : List Scalar) : Prop where
  described : ∀ r, ∃ s, schemaOf r t = (s, r) ∧
    s.toValue = .map [("oneOf", .list (values.map valueEntry))]
  given : ∀ hint source, ∃ v ∈ values, ∃ source',
    (generate hint t).runFrom source = (.ok (.ofScalar v), source')
  reached : ∀ hint, ∀ v ∈ values, Gen.MayGive (generate hint t) (.ofScalar v)

/-- The written schema of a value tells which value it is. -/
theorem valueEntry_injective : Function.Injective valueEntry := by
  intro v w h
  have hfields := Value.map.inj h
  cases v <;> cases w <;> simp_all [Value.ofScalar, scalarType]

/-- A type is a choice of one list of values only. -/
theorem IsChoiceOf.unique {t : TypeShape} {values values' : List Scalar} (h : IsChoiceOf t values)
    (h' : IsChoiceOf t values') : values = values' := by
  obtain ⟨s, hs, hentries⟩ := h.described .empty
  obtain ⟨s', hs', hentries'⟩ := h'.described .empty
  obtain rfl : s = s' := (Prod.mk.inj (hs.symm.trans hs')).1
  rw [hentries] at hentries'
  have hlists : values.map valueEntry = values'.map valueEntry := by simpa using hentries'
  exact valueEntry_injective.list_map hlists

section Choices

variable {texts : List String} {values : List Scalar}

/-- Members that spell values are described as these values. -/
theorem map_ofTypeName_of_literals (h : List.Forall₂ (fun s v => literalValue? s = some v) texts values) :
    texts.map ofTypeName = values.map .literal := by
  induction h with
  | nil => rfl
  | cons hv _ ih => rw [List.map_cons, List.map_cons, ofTypeName_of_literal hv, ih]

/-- A union whose members are literals is a choice of their values. -/
theorem isChoiceOf_union (text : String) (isOptional : Bool) (hne : values ≠ [])
    (h : List.Forall₂ (fun s v => literalValue? s = some v) texts values) :
    IsChoiceOf (.union text isOptional texts) values := by
  have htexts : texts ≠ [] := by
    rintro rfl
    cases h
    exact hne rfl
  refine ⟨fun r => ?_, fun hint source => ?_, fun hint v hv => ?_⟩
  · refine ⟨_, schemaOf_union r _ _ _ _ _, ?_⟩
    rw [map_ofTypeName_of_literals h, TypeSchema.toValue, schemaValues_eq_map, List.map_map]
    rfl
  · have hgives : Gen.Gives (generate hint (.union text isOptional texts))
        fun x => ∃ v ∈ values, x = .ofScalar v := by
      rw [generate_of_members hint rfl rfl]
      refine (Gen.gives_element htexts).bind fun s hs => ?_
      obtain ⟨v, hv, hsv⟩ := exists_of_mem_right h.flip hs
      rw [mockForType_of_literal hsv]
      exact Gen.gives_pure ⟨v, hv, rfl⟩
    obtain ⟨_, source', hrun, v, hv, rfl⟩ := hgives.exists_run source
    exact ⟨v, hv, source', hrun⟩
  · obtain ⟨s, hs, hsv⟩ := exists_of_mem_right h hv
    rw [mayGive_generate_of_members rfl rfl]
    exact ⟨s, hs, mockForType_of_literal hsv ▸ Gen.mayGive_pure_iff.2 rfl⟩

end Choices

/-! ## Literal types -/

section Literals

variable {base slice : Expr} {values : List Scalar}

/-- A `Literal` is the choice of what stands in its brackets. -/
theorem ofExpr_literal (hname : base.simpleName = "Literal") :
    TypeForm.ofExpr (.subscript base slice) = .choice (Expr.subscriptArgs slice) := by
  rw [TypeForm.ofExpr, hname]
  cases Expr.subscriptArgs slice <;> rfl

/-- Brackets can be printed if what stands in them can. -/
theorem isPrintable_of_subscriptArgs (h : ∀ e ∈ Expr.subscriptArgs slice, e.isPrintable = true) :
    slice.isPrintable = true := by
  unfold Expr.subscriptArgs at h
  split at h
  · rw [Expr.isPrintable, arePrintable_eq_all]
    exact List.all_eq_true.2 h
  · exact h _ (List.mem_singleton_self _)

/-- A `Literal` of texts, truth values and integers of at most `maxDecimalDigits` digits, with or without
a sign, is the choice of these values. -/
theorem reflect_literal (index : ClassIndex) (active : List String) (isOptional : Bool)
    (hname : base.simpleName = "Literal") (hbase : base.isPrintable = true) (hne : values ≠ [])
    (hvalues : List.Forall₂ (fun e v => e.scalar? = some v ∧ v.IsExact) (Expr.subscriptArgs slice) values) :
    ∃ t, reflect index active isOptional (.subscript base slice) = .ok t ∧ IsChoiceOf t values := by
  have hargs : ∀ e ∈ Expr.subscriptArgs slice, e.isPrintable = true := by
    intro e he
    obtain ⟨v, _, hv, hexact⟩ := exists_of_mem_right hvalues.flip he
    exact (literalValue?_print hv hexact).1
  have hwhole : (Expr.subscript base slice).isPrintable = true := by
    rw [Expr.isPrintable, hbase, isPrintable_of_subscriptArgs hargs]
    rfl
  have htexts : List.Forall₂ (fun s v => literalValue? s = some v)
      ((Expr.subscriptArgs slice).map (·.print)) values :=
    List.forall₂_map_left_iff.2 (hvalues.imp fun _ _ h => (literalValue?_print h.1 h.2).2)
  refine ⟨_, ?_, isChoiceOf_union (Expr.subscript base slice).print isOptional hne htexts⟩
  rw [reflect_choice (ofExpr_literal hname), printed_eq_ok_iff.2 ⟨hwhole, rfl⟩,
    mapM_printed_eq_ok_iff.2 ⟨hargs, rfl⟩]
  rfl

/-- Quotes, texts that look like a number or like no value, signs and truth values stay what they are. -/
theorem reflect_literal_of_mixed :
    let base : Expr := .name "Literal"
    let items : List Expr := [.constant (.str "it's \"so\"\n" false), .constant (.str "" true),
      .constant (.str "3" false), .constant (.str "None" false), .constant (.int 3),
      .unary .minus (.constant (.int 3)), .constant (.bool true)]
    let values : List Scalar := [.str "it's \"so\"\n", .str "", .str "3", .str "None", .int 3, .int (-3),
      .bool true]
    base.simpleName = "Literal" ∧ base.isPrintable = true ∧ values ≠ [] ∧
      List.Forall₂ (fun e v => e.scalar? = some v ∧ v.IsExact) (Expr.subscriptArgs (.tuple items)) values ∧
      ∃ t, reflect ⟨[]⟩ [] false (.subscript base (.tuple items)) = .ok t ∧ IsChoiceOf t values := by
  intro base items values
  have hone : (Nat.toDigits 10 3).length ≤ maxDecimalDigits := by decide
  have hvalues : List.Forall₂ (fun e v => e.scalar? = some v ∧ v.IsExact)
      (Expr.subscriptArgs (.tuple items)) values :=
    .cons ⟨rfl, trivial⟩ <| .cons ⟨rfl, trivial⟩ <| .cons ⟨rfl, trivial⟩ <| .cons ⟨rfl, trivial⟩ <|
      .cons ⟨rfl, hone⟩ <| .cons ⟨rfl, hone⟩ <| .cons ⟨rfl, trivial⟩ .nil
  exact ⟨rfl, rfl, nofun, hvalues, reflect_literal ⟨[]⟩ [] false rfl rfl nofun hvalues⟩

end Literals

end RouteAtlas.Reflect
