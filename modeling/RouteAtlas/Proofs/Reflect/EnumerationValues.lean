import RouteAtlas.Proofs.Reflect.LiteralChoice

/-!
# The values of an enumeration

An enumeration is kept as the printed values of its public members. A member that is a constant stands
for its value; one that has a sign in front of its number stands for its own name in lower case, so the
enumeration is a choice of its real values only if all its members are constants
(`reflect_enumeration`). Floats come back as the doubles that their printed digits are read as.
-/

namespace RouteAtlas.Syntax

open RouteAtlas.Text RouteAtlas.Number

/-- The double that a finite float is read back as after it was printed. -/
def readBack (x : Float) : Float :=
  match BinaryFraction.ofFloat? x with
  | none => x
  | some b => if b.negative then -reread b else reread b

/-- A literal value that is no infinite float. -/
def Scalar.IsFinite : Scalar → Prop
  | .float x => (BinaryFraction.ofFloat? x).isSome
  | _ => True

end RouteAtlas.Syntax

namespace RouteAtlas.Reflect

open RouteAtlas.Api RouteAtlas.Document RouteAtlas.Mock RouteAtlas.Number RouteAtlas.Schema RouteAtlas.Syntax
open RouteAtlas.Text

/-- The public members of an enumeration in the order of their declarations. -/
def ClassDecl.members (c : ClassDecl) : List (String × Expr) := c.body.filterMap ClassDecl.enumMember?

/-- The value that a literal member of an enumeration is documented and mocked by. -/
def documentedValue (name : String) : Expr → Scalar
  | .constant (.str s _) => .str s
  | .constant (.surrogate t _) => .surrogate t
  | .constant (.int n) => .int n
  | .constant (.bool b) => .bool b
  | .constant (.float x) => .float (readBack x)
  | _ => .str (lowercase name)

/-- The documented value is the real one: the member is a constant, and a float is read back as itself. -/
def IsKept : Expr → Prop
  | .constant (.float x) => readBack x = x
  | .constant _ => True
  | _ => False

/-- The member is an integer that has no printed text. -/
def IsOversized (e : Expr) : Prop :=
  ∃ n, e = .constant (.int n) ∧ maxDecimalDigits < (Nat.toDigits 10 n).length

section Members

variable {name : String} {e : Expr}

/-- A literal member is printed as a text that spells the documented value, unless it is an integer
without a printed text. -/
theorem memberValue_of_literal (hv : ∃ v, e.scalar? = some v ∧ v.IsFinite) :
    (IsOversized e ∧ ClassDecl.memberValue name e = none) ∨
      (¬ IsOversized e ∧ ∃ s, ClassDecl.memberValue name e = some s ∧
        literalValue? s = some (documentedValue name e)) := by
  obtain ⟨v, hv, hfinite⟩ := hv
  -- any value but a constant is printed as the quoted name
  have hquoted (s : String) : literalValue? (quoted s) = some (.str s) := by
    have hread := literalValue?_source_str s false
    rwa [Constant.source, if_neg Bool.false_ne_true, if_neg Bool.false_ne_true,
      String.empty_append] at hread
  have hshort {e : Expr} (h : ∀ n, e ≠ .constant (.int n)) : ¬ IsOversized e := by
    rintro ⟨n, hn, _⟩
    exact h n hn
  unfold Expr.scalar? at hv
  split at hv <;> cases hv
  · next s marked => exact .inr ⟨hshort (fun _ h => by cases h), quoted s, rfl, hquoted s⟩
  · next t marked =>
    exact .inr ⟨hshort (fun _ h => by cases h), _, rfl, literalValue?_source_surrogate t false⟩
  · next n =>
    by_cases hlength : (Nat.toDigits 10 n).length ≤ maxDecimalDigits
    · have hprintable : (Constant.int n).isPrintable = true := decide_eq_true hlength
      refine .inr ⟨?_, _, if_pos hprintable, literalValue?_spellsNumber (spellsNumber_source_int hprintable)⟩
      rintro ⟨m, hm, hlong⟩
      cases hm
      omega
    · refine .inl ⟨⟨n, rfl, Nat.lt_of_not_le hlength⟩, if_neg ?_⟩
      exact fun h => hlength (of_decide_eq_true h)
  · next x =>
    obtain ⟨b, hb⟩ := Option.isSome_iff_exists.1 hfinite
    refine .inr ⟨hshort (fun _ h => by cases h), FloatText.plain.writeFinite b, ?_, ?_⟩
    · show some (FloatText.plain.write x) = _
      rw [FloatText.write, hb]
    · rw [literalValue?_writeFinite, documentedValue, readBack, hb]
  · next b => exact .inr ⟨hshort (fun _ h => by cases h), _, rfl, literalValue?_bool b⟩
  all_goals exact .inr ⟨hshort (fun _ h => by cases h), _, rfl, hquoted _⟩

/-- A literal member is documented by its value exactly if it is kept. -/
theorem documentedValue_eq_iff {v : Scalar} (hv : e.scalar? = some v) :
    documentedValue name e = v ↔ IsKept e := by
  unfold Expr.scalar? at hv
  split at hv <;> cases hv <;> simp [documentedValue, IsKept]

end Members

section Enumerations

variable {index : ClassIndex} {active : List String} {isOptional : Bool} {name : String} {c : ClassDecl}
variable {e : Expr}

/-- The values that the literal members of an enumeration are documented and mocked by. -/
def ClassDecl.documentedValues (c : ClassDecl) : List Scalar :=
  c.members.map fun m => documentedValue m.1 m.2

/-- An enumeration with an integer that has no printed text is not reflected. -/
theorem reflect_oversized (hform : TypeForm.ofExpr e = .named name) (hc : index.get? name = some c)
    (henum : c.isEnum = true) {m : String × Expr} (hm : m ∈ c.members) (hlong : IsOversized m.2) :
    reflect index active isOptional e = .error .unprintable := by
  have hnone : c.enumValues? = none := by
    obtain ⟨n, hn, hlong⟩ := hlong
    refine mapM_eq_none_of_mem hm ?_
    show ClassDecl.memberValue m.1 m.2 = none
    rw [hn]
    exact if_neg fun h => Nat.not_le.2 hlong (of_decide_eq_true h)
  rw [reflect_enum hform hc henum, hnone]

/-- An enumeration of literals of which all have a printed text is a choice of the documented values. -/
theorem exists_reflect_isChoiceOf (hform : TypeForm.ofExpr e = .named name)
    (hc : index.get? name = some c) (henum : c.isEnum = true) (hne : c.members ≠ [])
    (hliteral : ∀ m ∈ c.members, ∃ v, m.2.scalar? = some v ∧ v.IsFinite)
    (hprintable : ∀ m ∈ c.members, ¬ IsOversized m.2) :
    ∃ t, reflect index active isOptional e = .ok t ∧ IsChoiceOf t c.documentedValues := by
  obtain ⟨texts, htexts, hspelt⟩ := exists_mapM_eq_some (f := fun m => ClassDecl.memberValue m.1 m.2)
    (P := fun m s => literalValue? s = some (documentedValue m.1 m.2)) fun m hm =>
      ((memberValue_of_literal (hliteral m hm)).resolve_left fun h => hprintable m hm h.1).2
  have hvalues : c.enumValues? = some texts := htexts
  have hchoice : IsChoiceOf (.union c.name isOptional texts) c.documentedValues :=
    isChoiceOf_union c.name isOptional (by simpa [ClassDecl.documentedValues] using hne)
      (List.forall₂_map_right_iff.2 hspelt.flip)
  refine ⟨.union c.name isOptional texts, ?_, hchoice⟩
  rw [reflect_enum hform hc henum, hvalues]
  cases texts with
  | nil =>
    cases hspelt' : c.members with
    | nil => exact absurd hspelt' hne
    | cons m ms =>
      rw [hspelt'] at hspelt
      cases hspelt
  | cons => rfl

/-- Let the public members of an enumeration be literals. If one is an integer without a printed text, the
enumeration cannot be reflected. Otherwise it is a choice of the documented values of its members in the
order of their declarations, and that is the choice of their real values exactly if all members are
constants and their floats are read back as themselves. -/
theorem reflect_enumeration (hform : TypeForm.ofExpr e = .named name)
    (hc : index.get? name = some c) (henum : c.isEnum = true) (hne : c.members ≠ [])
    (hliteral : ∀ m ∈ c.members, ∃ v, m.2.scalar? = some v ∧ v.IsFinite) :
    ((∃ m ∈ c.members, IsOversized m.2) ∧ reflect index active isOptional e = .error .unprintable) ∨
      ((∀ m ∈ c.members, ¬ IsOversized m.2) ∧ ∃ t, reflect index active isOptional e = .ok t ∧
        IsChoiceOf t c.documentedValues ∧
        ∀ values, List.Forall₂ (fun m v => m.2.scalar? = some v) c.members values →
          (IsChoiceOf t values ↔ ∀ m ∈ c.members, IsKept m.2)) := by
  by_cases hlong : ∃ m ∈ c.members, IsOversized m.2
  · obtain ⟨m, hm, hlong⟩ := hlong
    exact .inl ⟨⟨m, hm, hlong⟩, reflect_oversized hform hc henum hm hlong⟩
  · have hprintable : ∀ m ∈ c.members, ¬ IsOversized m.2 := fun m hm h => hlong ⟨m, hm, h⟩
    obtain ⟨t, ht, hchoice⟩ : ∃ t, reflect index active isOptional e = .ok t ∧
        IsChoiceOf t c.documentedValues :=
      exists_reflect_isChoiceOf hform hc henum hne hliteral hprintable
    refine .inr ⟨hprintable, t, ht, hchoice, fun values hvalues => ?_⟩
    have hsame : c.documentedValues = values ↔ ∀ m ∈ c.members, IsKept m.2 := by
      unfold ClassDecl.documentedValues
      generalize c.members = members at hvalues
      induction hvalues with
      | nil => simp
      | cons hv _ ih => simp [documentedValue_eq_iff hv, ih]
    rw [← hsame]
    exact ⟨fun h => hchoice.unique h, fun h => h ▸ hchoice⟩

/-- The enumeration of this name with these assignments. -/
def enumOf (name : String) (assignments : List (String × Expr)) : ClassDecl :=
  ⟨name, [.name "Enum"], [], assignments.map fun (id, value) => .assign [.name id] value⟩

/-- A text, an integer and a truth value are kept, `DOWN = -1` stands for its name, and a private member
for nothing. -/
theorem reflect_enumeration_of_level :
    let c := enumOf "Level" [("LOW", .constant (.str "low" false)), ("COUNT", .constant (.int 3)),
      ("_hidden", .name "auto"), ("ON", .constant (.bool true)), ("DOWN", .unary .minus (.constant (.int 1)))]
    let index : ClassIndex := ⟨[c]⟩
    let e : Expr := .name "Level"
    TypeForm.ofExpr e = .named "Level" ∧ index.get? "Level" = some c ∧ c.isEnum = true ∧
      c.members ≠ [] ∧ (∀ m ∈ c.members, ∃ v, m.2.scalar? = some v ∧ v.IsFinite) ∧
      c.documentedValues = [.str "low", .int 3, .bool true, .str "down"] ∧
      (((∃ m ∈ c.members, IsOversized m.2) ∧ reflect index [] false e = .error .unprintable) ∨
        ((∀ m ∈ c.members, ¬ IsOversized m.2) ∧ ∃ t, reflect index [] false e = .ok t ∧
          IsChoiceOf t c.documentedValues ∧
          ∀ values, List.Forall₂ (fun m v => m.2.scalar? = some v) c.members values →
            (IsChoiceOf t values ↔ ∀ m ∈ c.members, IsKept m.2))) := by
  intro c index e
  have hmembers : c.members = [("LOW", .constant (.str "low" false)), ("COUNT", .constant (.int 3)),
      ("ON", .constant (.bool true)), ("DOWN", .unary .minus (.constant (.int 1)))] := rfl
  have hne : c.members ≠ [] := by
    rw [hmembers]
    exact nofun
  have hliteral : ∀ m ∈ c.members, ∃ v, m.2.scalar? = some v ∧ v.IsFinite := by
    rw [hmembers]
    simp [Expr.scalar?, Scalar.IsFinite]
  have hform : TypeForm.ofExpr e = .named "Level" := rfl
  have hc : index.get? "Level" = some c := rfl
  have henum : c.isEnum = true := rfl
  exact ⟨hform, hc, henum, hne, hliteral, rfl, reflect_enumeration hform hc henum hne hliteral⟩

/-- `LOW = -1` is documented as the text `low`. -/
theorem not_forall_enumeration_real :
    ¬ ∀ (index : ClassIndex) (active : List String) (isOptional : Bool) (name : String) (c : ClassDecl)
        (e : Expr) (values : List Scalar),
      TypeForm.ofExpr e = .named name → index.get? name = some c → c.isEnum = true → c.members ≠ [] →
      List.Forall₂ (fun m v => m.2.scalar? = some v ∧ v.IsFinite) c.members values →
      ∃ t, reflect index active isOptional e = .ok t ∧ IsChoiceOf t values := by
  intro hall
  let c := enumOf "Level" [("LOW", .unary .minus (.constant (.int 1)))]
  have hmembers : c.members = [("LOW", .unary .minus (.constant (.int 1)))] := rfl
  have hne : c.members ≠ [] := by
    rw [hmembers]
    exact nofun
  have hliteral : ∀ m ∈ c.members, ∃ v, m.2.scalar? = some v ∧ v.IsFinite := by
    rw [hmembers]
    simp [Expr.scalar?, Scalar.IsFinite]
  have hprintable : ∀ m ∈ c.members, ¬ IsOversized m.2 := by
    rw [hmembers]
    simp [IsOversized]
  obtain ⟨t, ht, hdocumented⟩ : ∃ t, reflect ⟨[c]⟩ [] false (.name "Level") = .ok t ∧
      IsChoiceOf t c.documentedValues :=
    exists_reflect_isChoiceOf rfl rfl rfl hne hliteral hprintable
  obtain ⟨t', ht', hreal⟩ := hall ⟨[c]⟩ [] false "Level" c (.name "Level") [.int (-1)] rfl rfl rfl hne
    (.cons ⟨rfl, trivial⟩ .nil)
  obtain rfl : t = t' := Except.ok.inj (ht.symm.trans ht')
  have hsame : [Scalar.str (lowercase "LOW")] = [.int (-1)] := hdocumented.unique hreal
  cases hsame

end Enumerations

end RouteAtlas.Reflect
