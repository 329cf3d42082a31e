import Mathlib.Logic.Relation
import RouteAtlas.Proofs.Failing
import RouteAtlas.Proofs.Reflect.Equations
import RouteAtlas.Proofs.Scan.UnreadableSource

/-!
# Annotations that cannot be reflected

`FaultAt` says what is wrong with an annotation by itself: its quoted text holds a null character or a
surrogate, or something that is printed has no printed form. Reflecting an annotation fails exactly if one
of the annotations that it leads to has a fault (`failsWith_reflect`). Reflection cuts cycles of classes,
and so reads less than what an annotation leads to, but it misses no fault: what is cut was read further
out.
-/

namespace RouteAtlas.Reflect

open RouteAtlas.Api RouteAtlas.Document RouteAtlas.Syntax Relation

/-! ## Paths that avoid names -/

section Avoids

variable {α : Type}

/-- A step of this kind that bears none of these names. -/
def Avoids (step : α → Option String → α → Prop) (names : List String) (a b : α) : Prop :=
  ∃ label, step a label b ∧ ∀ name ∈ label, name ∉ names

variable {step : α → Option String → α → Prop} {names : List String} {a b c : α}

/-- What avoids more names avoids these. -/
theorem avoids_of_cons {name : String} (h : ReflTransGen (Avoids step (name :: names)) a b) :
    ReflTransGen (Avoids step names) a b := by
  refine ReflTransGen.mono ?_ a b h
  rintro a b ⟨label, hstep, hfree⟩
  exact ⟨label, hstep, fun n hn hmem => hfree n hn (List.mem_cons_of_mem name hmem)⟩

/-- A path avoids one more name, or its part after the last step of that name does. -/
theorem avoids_or_restarts (h : ReflTransGen (Avoids step names) a b) (name : String) :
    ReflTransGen (Avoids step (name :: names)) a b ∨
      ∃ before after, step before (some name) after ∧
        ReflTransGen (Avoids step (name :: names)) after b := by
  induction h using ReflTransGen.head_induction_on with
  | refl => exact Or.inl .refl
  | @head a c hstep _ ih =>
    rcases ih with hrest | hlater
    · obtain ⟨label, hlabel, hfree⟩ := hstep
      by_cases hname : label = some name
      · exact Or.inr ⟨a, c, hname ▸ hlabel, hrest⟩
      · refine Or.inl (.head ⟨label, hlabel, fun n hn hmem => ?_⟩ hrest)
        rcases List.mem_cons.1 hmem with rfl | hmem
        · exact hname hn
        · exact hfree n hn hmem
    · exact Or.inr hlater

end Avoids

/-! ## What an annotation leads to -/

/-- A class names the other one as a base. The step bears the name of the base. -/
inductive BaseStep (index : ClassIndex) (c : ClassDecl) : Option String → ClassDecl → Prop
  | base {base : Expr} {b : ClassDecl} (hbase : base ∈ c.bases)
      (hb : index.get? base.simpleName = some b) (henum : b.isEnum = false) :
      BaseStep index c (some b.name) b

/-- The fields of the class are its own and those that this one declares. -/
def Inherits (index : ClassIndex) (c owner : ClassDecl) : Prop :=
  ReflTransGen (Avoids (BaseStep index) []) c owner

/-- To reflect the annotation the other one is reflected, too. A step to the fields of a class bears the
name of the class. -/
def ReadsOn (index : ClassIndex) (e : Expr) (label : Option String) (next : Expr) : Prop :=
  match TypeForm.ofExpr e with
  | .forward text => label = none ∧ readExpr text = .ok next
  | .union members => label = none ∧ members.filter (!isNullType ·) = [next]
  | .wrapped inner => label = none ∧ next = inner
  | .array item => label = none ∧ next = item
  | .named name => ∃ c owner, index.get? name = some c ∧ c.isEnum = false ∧ label = some c.name ∧
      Inherits index c owner ∧ ∃ d ∈ owner.fieldDecls, next = d.hint
  | .illegible | .null | .choice _ | .leaf => False

/-- What is printed of an annotation. -/
def printedParts (index : ClassIndex) (e : Expr) : List Expr :=
  match TypeForm.ofExpr e with
  | .forward _ | .illegible | .null | .wrapped _ => []
  | .union members =>
    match members.filter (!isNullType ·) with
    | [] | [_] => []
    | several => e :: several
  | .choice values => e :: values
  | .array _ | .leaf => [e]
  | .named name => if index.contains name then [] else [e]

/-- The annotation itself cannot be reflected. -/
inductive FaultAt (index : ClassIndex) (e : Expr) : ReflectFault → Prop
  | nullCharacter {text : String} (hf : TypeForm.ofExpr e = .forward text)
      (h : Char.ofNat 0 ∈ text.toList) : FaultAt index e .nullCharacter
  | surrogate (hf : TypeForm.ofExpr e = .illegible) : FaultAt index e .surrogate
  | unprintable {part : Expr} (hpart : part ∈ printedParts index e) (h : part.print? = none) :
      FaultAt index e .unprintable
  | enumeration {name : String} {c : ClassDecl} (hf : TypeForm.ofExpr e = .named name)
      (hc : index.get? name = some c) (henum : c.isEnum = true) (h : c.enumValues? = none) :
      FaultAt index e .unprintable

/-- The annotation leads to a fault, outside the classes of these names. -/
def LeadsToFault (index : ClassIndex) (names : List String) (e : Expr) (fault : ReflectFault) : Prop :=
  ∃ last, ReflTransGen (Avoids (ReadsOn index) names) e last ∧ FaultAt index last fault

section Leads

variable {index : ClassIndex} {names : List String} {e next : Expr} {fault : ReflectFault}

/-- A fault is at the annotation, or one step leads towards it. -/
theorem leadsToFault_iff : LeadsToFault index names e fault ↔
    FaultAt index e fault ∨
      ∃ next, Avoids (ReadsOn index) names e next ∧ LeadsToFault index names next fault := by
  constructor
  · rintro ⟨last, hpath, hfault⟩
    rcases hpath.cases_head with rfl | ⟨next, hstep, hrest⟩
    · exact Or.inl hfault
    · exact Or.inr ⟨next, hstep, last, hrest, hfault⟩
  · rintro (hfault | ⟨next, hstep, last, hrest, hfault⟩)
    · exact ⟨e, .refl, hfault⟩
    · exact ⟨last, .head hstep hrest, hfault⟩

/-- An annotation that nothing follows leads to its own faults. -/
theorem leadsToFault_of_stop (hstop : ∀ next, ¬ Avoids (ReadsOn index) names e next) :
    LeadsToFault index names e fault ↔ FaultAt index e fault := by
  rw [leadsToFault_iff]
  exact or_iff_left fun ⟨next, hstep, _⟩ => hstop next hstep

/-- Where one annotation follows without a name, its faults count. -/
theorem leadsToFault_of_step
    (hstep : ∀ label other, ReadsOn index e label other ↔ label = none ∧ other = next) :
    LeadsToFault index names e fault ↔
      FaultAt index e fault ∨ LeadsToFault index names next fault := by
  rw [leadsToFault_iff]
  refine or_congr_right ⟨?_, fun h => ⟨next, ⟨none, (hstep _ _).2 ⟨rfl, rfl⟩, nofun⟩, h⟩⟩
  rintro ⟨other, ⟨label, hlabel, _⟩, h⟩
  obtain ⟨_, rfl⟩ := (hstep _ _).1 hlabel
  exact h

/-- An annotation without a fault that nothing follows leads to none. -/
theorem not_leadsToFault (hstop : ∀ next, ¬ Avoids (ReadsOn index) names e next)
    (hquiet : ¬ FaultAt index e fault) : ¬ LeadsToFault index names e fault := by
  rwa [leadsToFault_of_stop hstop]

/-- An annotation without a fault that stands for another one leads to the faults of that one. -/
theorem leadsToFault_of_redirect
    (hstep : ∀ label other, ReadsOn index e label other ↔ label = none ∧ other = next)
    (hquiet : ¬ FaultAt index e fault) :
    LeadsToFault index names next fault ↔ LeadsToFault index names e fault := by
  rw [leadsToFault_of_step hstep]
  exact (or_iff_right hquiet).symm

end Leads

/-! ## Faults of one annotation -/

section FaultAt

variable {index : ClassIndex} {e : Expr} {fault : ReflectFault}

/-- The faults of an annotation, by its form. -/
theorem faultAt_iff : FaultAt index e fault ↔
    (fault = .nullCharacter ∧ ∃ text, TypeForm.ofExpr e = .forward text ∧
      Char.ofNat 0 ∈ text.toList) ∨
    (fault = .surrogate ∧ TypeForm.ofExpr e = .illegible) ∨
    fault = .unprintable ∧ ((∃ part ∈ printedParts index e, part.print? = none) ∨
      ∃ name c, TypeForm.ofExpr e = .named name ∧ index.get? name = some c ∧ c.isEnum = true ∧
        c.enumValues? = none) := by
  constructor
  · rintro (⟨hf, h⟩ | hf | ⟨hpart, h⟩ | ⟨hf, hc, henum, h⟩)
    · exact Or.inl ⟨rfl, _, hf, h⟩
    · exact Or.inr (Or.inl ⟨rfl, hf⟩)
    · exact Or.inr (Or.inr ⟨rfl, Or.inl ⟨_, hpart, h⟩⟩)
    · exact Or.inr (Or.inr ⟨rfl, Or.inr ⟨_, _, hf, hc, henum, h⟩⟩)
  · rintro (⟨rfl, text, hf, h⟩ | ⟨rfl, hf⟩ |
      ⟨rfl, ⟨part, hpart, h⟩ | ⟨name, c, hf, hc, henum, h⟩⟩)
    · exact .nullCharacter hf h
    · exact .surrogate hf
    · exact .unprintable hpart h
    · exact .enumeration hf hc henum h

/-- A quoted annotation is refused for a null character exactly if its text holds one. -/
theorem readExpr_eq_nullCharacter_iff (text : String) :
    readExpr text = .error .nullCharacter ↔ Char.ofNat 0 ∈ text.toList := by
  unfold readExpr
  rw [Scan.readSource_eq_nullCharacter_iff, Scan.mem_sourceLines_iff (by decide) (by decide)]

/-- A quoted annotation without a null character has no fault of its own. -/
theorem not_faultAt_of_forward {text : String} (hf : TypeForm.ofExpr e = .forward text)
    (hr : readExpr text ≠ .error .nullCharacter) : ¬ FaultAt index e fault := by
  rw [Ne, readExpr_eq_nullCharacter_iff] at hr
  simp [faultAt_iff, hf, printedParts, hr]

/-- Printing fails where there is no printed form. -/
theorem failsWith_printed (e : Expr) :
    FailsWith (printed e) fun fault => fault = .unprintable ∧ e.print? = none := by
  unfold printed
  cases hprint : e.print? with
  | some s => exact failsWith_ok fun _ h => nomatch h.2
  | none => exact failsWith_error ⟨rfl, rfl⟩

/-- An annotation is printed with what stands in it. -/
theorem failsWith_printed_mapM {α : Type} (e : Expr) (several : List Expr)
    (f : String → List String → α) :
    FailsWith (do return f (← printed e) (← several.mapM printed)) fun fault =>
      fault = .unprintable ∧ ∃ part ∈ e :: several, part.print? = none := by
  have hmembers (text : String) := (failsWith_mapM fun m (_ : m ∈ several) =>
    failsWith_printed m).map (f := f text)
  refine ((failsWith_printed e).bind hmembers).congr fun fault => ?_
  rw [List.exists_mem_cons_iff, and_or_left]
  refine or_congr_right ⟨?_, ?_⟩
  · rintro ⟨m, hm, hfault, hprint⟩
    exact ⟨hfault, m, hm, hprint⟩
  · rintro ⟨hfault, m, hm, hprint⟩
    exact ⟨m, hm, hfault, hprint⟩

end FaultAt

/-! ## Fields -/

/-- A field of the class, its own or inherited outside this lineage, leads to the fault. -/
def FieldLeadsToFault (index : ClassIndex) (active lineage : List String) (c : ClassDecl)
    (fault : ReflectFault) : Prop :=
  ∃ owner, ReflTransGen (Avoids (BaseStep index) lineage) c owner ∧
    ∃ d ∈ owner.fieldDecls, LeadsToFault index active d.hint fault

section Fields

variable {index : ClassIndex} {active lineage : List String} {c b owner : ClassDecl}
variable {fault : ReflectFault}

/-- A class that is found is the one of its name. -/
theorem eq_of_get?_name {name : String} (hb : index.get? name = some b)
    (hc : index.get? c.name = some c) (hname : b.name = c.name) : b = c := by
  rw [← hname, ClassIndex.name_of_get? hb, hb] at hc
  exact Option.some.inj hc

/-- A class inherits no more through itself than without. -/
theorem inherits_outside_itself (hb : index.get? b.name = some b)
    (h : ReflTransGen (Avoids (BaseStep index) lineage) b owner) :
    ReflTransGen (Avoids (BaseStep index) (b.name :: lineage)) b owner := by
  rcases avoids_or_restarts h b.name with h | ⟨before, after, hstep, h⟩
  · exact h
  · generalize hlabel : some b.name = label at hstep
    obtain ⟨_, hafter, _⟩ := hstep
    rwa [eq_of_get?_name hafter hb (Option.some.inj hlabel).symm] at h

/-- What a class inherits outside a lineage is itself and what its bases inherit, each of them added to
the lineage. -/
theorem inherits_avoiding_iff : ReflTransGen (Avoids (BaseStep index) lineage) c owner ↔
    (∃ base ∈ c.bases, ∃ b, index.get? base.simpleName = some b ∧
      (b.name ∉ lineage ∧ b.isEnum = false) ∧
        ReflTransGen (Avoids (BaseStep index) (b.name :: lineage)) b owner) ∨ owner = c := by
  constructor
  · intro hpath
    rcases hpath.cases_head with rfl | ⟨b, ⟨label, hstep, hfree⟩, hrest⟩
    · exact Or.inr rfl
    · obtain ⟨hbase, hb, henum⟩ := hstep
      have hself : index.get? b.name = some b := by rw [ClassIndex.name_of_get? hb, hb]
      exact Or.inl ⟨_, hbase, b, hb, ⟨hfree b.name rfl, henum⟩, inherits_outside_itself hself hrest⟩
  · rintro (⟨base, hbase, b, hb, ⟨hl, henum⟩, hpath⟩ | rfl)
    · refine .head ⟨some b.name, .base hbase hb henum, ?_⟩ (avoids_of_cons hpath)
      rintro name ⟨⟩
      exact hl
    · exact .refl

/-- The fields of a class are those that its bases contribute, and its own. -/
theorem fieldLeadsToFault_iff : FieldLeadsToFault index active lineage c fault ↔
    (∃ base ∈ c.bases, ∃ b, index.get? base.simpleName = some b ∧
      (b.name ∉ lineage ∧ b.isEnum = false) ∧
        FieldLeadsToFault index active (b.name :: lineage) b fault) ∨
    ∃ d ∈ c.fieldDecls, LeadsToFault index active d.hint fault := by
  constructor
  · rintro ⟨owner, hpath, hfield⟩
    rcases inherits_avoiding_iff.1 hpath with ⟨base, hbase, b, hb, hopen, hrest⟩ | rfl
    · exact Or.inl ⟨base, hbase, b, hb, hopen, owner, hrest, hfield⟩
    · exact Or.inr hfield
  · rintro (⟨base, hbase, b, hb, hopen, owner, hrest, hfield⟩ | hfield)
    · exact ⟨owner, inherits_avoiding_iff.2 (Or.inl ⟨base, hbase, b, hb, hopen, hrest⟩), hfield⟩
    · exact ⟨c, .refl, hfield⟩

/-- A step with a name goes to a field of the class of that name. -/
theorem exists_field_of_readsOn {e next : Expr} {name : String}
    (h : ReadsOn index e (some name) next) :
    ∃ c owner, index.get? name = some c ∧ c.isEnum = false ∧ Inherits index c owner ∧
      ∃ d ∈ owner.fieldDecls, next = d.hint := by
  unfold ReadsOn at h
  split at h
  case h_5 =>
    obtain ⟨c, owner, hc, henum, hname, hinherits, hfield⟩ := h
    rw [← ClassIndex.name_of_get? hc, ← Option.some.inj hname] at hc
    exact ⟨c, owner, hc, henum, hinherits, hfield⟩
  all_goals first | cases h.1 | cases h

/-- A class that is expanded leads to the faults of its fields. Within them it need not be expanded once
more: what it leads to there it leads to from its fields, too. -/
theorem leadsToFault_class {e : Expr} {name : String} (hf : TypeForm.ofExpr e = .named name)
    (hc : index.get? name = some c) (henum : c.isEnum = false) (ha : c.name ∉ active) :
    LeadsToFault index active e fault ↔
      FieldLeadsToFault index (c.name :: active) [c.name] c fault := by
  have hself : index.get? c.name = some c := by rw [ClassIndex.name_of_get? hc, hc]
  constructor
  · intro h
    rcases leadsToFault_iff.1 h with hfault | ⟨next, ⟨label, hstep, _⟩, last, hpath, hfault⟩
    · simp [faultAt_iff, hf, printedParts, ClassIndex.contains, hc, henum] at hfault
    -- the part of the path behind the last expansion of the class starts at one of its fields
    have hlast : ∃ before next, ReadsOn index before (some c.name) next ∧
        ReflTransGen (Avoids (ReadsOn index) (c.name :: active)) next last := by
      rcases avoids_or_restarts hpath c.name with hpath | hpath
      · have hlabel : label = some c.name := by
          unfold ReadsOn at hstep
          rw [hf] at hstep
          obtain ⟨c', _, hc', _, hlabel, _⟩ := hstep
          rw [hc] at hc'
          rw [hlabel, Option.some.inj hc']
        exact ⟨e, next, hlabel ▸ hstep, hpath⟩
      · exact hpath
    obtain ⟨before, next, hstep, hpath⟩ := hlast
    obtain ⟨c', owner, hc', _, hinherits, d, hd, rfl⟩ := exists_field_of_readsOn hstep
    rw [hself] at hc'
    obtain rfl := Option.some.inj hc'
    exact ⟨owner, inherits_outside_itself hself hinherits, d, hd, last, hpath, hfault⟩
  · rintro ⟨owner, hinherits, d, hd, last, hpath, hfault⟩
    refine ⟨last, .head ⟨some c.name, ?_, ?_⟩ (avoids_of_cons hpath), hfault⟩
    · unfold ReadsOn
      rw [hf]
      exact ⟨c, owner, hc, henum, rfl, avoids_of_cons hinherits, d, hd, rfl⟩
    · rintro name ⟨⟩
      exact ha

end Fields

/-! ## Results of reflection -/

section Results

variable {index : ClassIndex} {active lineage : List String} {c : ClassDecl}

/-- A base contributes its fields unless one of them leads to a fault. -/
theorem failsWith_inheritFields {fields : List (String × TypeShape)} {base : Expr}
    (h : ∀ b, index.get? base.simpleName = some b → b.name ∉ lineage →
      FailsWith (classFields index active (b.name :: lineage) b)
        (FieldLeadsToFault index active (b.name :: lineage) b)) :
    FailsWith (inheritFields index active lineage fields base) fun fault =>
      ∃ b, index.get? base.simpleName = some b ∧ (b.name ∉ lineage ∧ b.isEnum = false) ∧
        FieldLeadsToFault index active (b.name :: lineage) b fault := by
  unfold inheritFields
  split
  · next hb => exact failsWith_ok fun fault ⟨b, hb', _⟩ => by simp [hb] at hb'
  next b hb =>
  split
  · next hcut =>
    refine failsWith_ok fun fault ⟨b', hb', hopen, _⟩ => ?_
    obtain rfl : b = b' := Option.some.inj (hb.symm.trans hb')
    rcases hcut with hl | henum
    · exact hopen.1 hl
    · exact Bool.false_ne_true (hopen.2.symm.trans henum)
  · next hcut =>
    obtain ⟨hl, henum⟩ := not_or.1 hcut
    have hfields := (h b hb hl).map (f := fun own =>
      own.foldl (fun fields f => setField f.1 f.2 fields) fields)
    refine hfields.congr fun fault => ?_
    constructor
    · exact fun hfault => ⟨b, hb, ⟨hl, Bool.eq_false_iff.2 henum⟩, hfault⟩
    · rintro ⟨b', hb', _, hfault⟩
      rwa [Option.some.inj (hb.symm.trans hb')]

/-- The fields of a class can be reflected unless one of them leads to a fault. -/
theorem failsWith_classFields_of
    (hbases : ∀ (base : Expr) (b : ClassDecl), index.get? base.simpleName = some b →
      b.name ∉ lineage → FailsWith (classFields index active (b.name :: lineage) b)
        (FieldLeadsToFault index active (b.name :: lineage) b))
    (hown : ∀ d : FieldDecl, FailsWith (reflect index active d.isOptional d.hint)
      (LeadsToFault index active d.hint)) :
    FailsWith (classFields index active lineage c) (FieldLeadsToFault index active lineage c) := by
  rw [classFields_eq]
  have hinherited := failsWith_foldlM (f := inheritFields index active lineage)
    fun fields base (_ : base ∈ c.bases) => failsWith_inheritFields (hbases base)
  have hdeclared := failsWith_foldlM (f := declareField index active)
    fun fields d (_ : d ∈ c.fieldDecls) => (hown d).map (f := fun t => setField d.name t fields)
  exact ((hinherited []).bind hdeclared).congr fun fault => fieldLeadsToFault_iff.symm

/-- An enumeration with printed values leads to nothing. -/
theorem not_leadsToFault_of_enum {e : Expr} {name : String} {values : List String}
    {fault : ReflectFault} (hf : TypeForm.ofExpr e = .named name) (hc : index.get? name = some c)
    (henum : c.isEnum = true) (hv : c.enumValues? = some values) :
    ¬ LeadsToFault index active e fault :=
  not_leadsToFault (by simp [Avoids, ReadsOn, hf, hc, henum])
    (by simp [faultAt_iff, hf, printedParts, ClassIndex.contains, hc, hv])

end Results

/-- An annotation is reflected unless it leads to a fault, and so are the fields of a class. -/
theorem failsWith_reflect_and_classFields (index : ClassIndex) :
    (∀ (active : List String) (isOptional : Bool) (e : Expr),
      FailsWith (reflect index active isOptional e) (LeadsToFault index active e)) ∧
    ∀ (active lineage : List String) (c : ClassDecl),
      FailsWith (classFields index active lineage c) (FieldLeadsToFault index active lineage c) := by
  -- the induction is that of the functions themselves, one case for each branch that they take
  refine reflect.mutual_induct index _ _ ?nullCharacter ?malformed ?forward ?illegible ?null ?unionEmpty
    ?unionOne ?unionSeveral ?wrapped ?choice ?array ?unknown ?enumUnprintable ?enumEmpty ?enumValues
    ?activeClass ?openClass ?leaf ?fields
  case nullCharacter =>
    intro active isOptional e text hf hr
    rw [reflect_forward_null hf hr]
    exact failsWith_error ⟨e, .refl, .nullCharacter hf ((readExpr_eq_nullCharacter_iff text).1 hr)⟩
  case malformed =>
    intro active isOptional e text hf hr
    rw [reflect_forward_malformed hf hr]
    exact failsWith_ok fun fault => not_leadsToFault (by simp [Avoids, ReadsOn, hf, hr])
      (not_faultAt_of_forward hf (by simp [hr]))
  case forward =>
    intro active isOptional e text hf inner hr _ ih
    rw [reflect_forward hf hr]
    have hstep : ∀ label other, ReadsOn index e label other ↔ label = none ∧ other = inner := by
      simp [ReadsOn, hf, hr, eq_comm]
    exact ih.congr fun fault => leadsToFault_of_redirect hstep
      (not_faultAt_of_forward hf (by simp [hr]))
  case illegible =>
    intro active isOptional e hf
    rw [reflect_illegible hf]
    exact failsWith_error ⟨e, .refl, .surrogate hf⟩
  case null =>
    intro active isOptional e hf
    rw [reflect_null hf]
    exact failsWith_ok fun fault => not_leadsToFault (by simp [Avoids, ReadsOn, hf])
      (by simp [faultAt_iff, hf, printedParts])
  case unionEmpty =>
    intro active isOptional e members hf hm
    rw [reflect_union_empty hf hm]
    exact failsWith_ok fun fault => not_leadsToFault (by simp [Avoids, ReadsOn, hf, hm])
      (by simp [faultAt_iff, hf, printedParts, hm])
  case unionOne =>
    intro active isOptional e members hf m hm _ _ ih
    rw [reflect_union_one hf hm]
    have hstep : ∀ label other, ReadsOn index e label other ↔ label = none ∧ other = m := by
      simp [ReadsOn, hf, hm, eq_comm]
    exact ih.congr fun fault => leadsToFault_of_redirect hstep
      (by simp [faultAt_iff, hf, printedParts, hm])
  case unionSeveral =>
    intro active isOptional e members hf h₀ h₁
    rw [reflect_union_several hf h₀ h₁]
    have hparts : printedParts index e = e :: members.filter (!isNullType ·) := by
      unfold printedParts
      rw [hf]
      dsimp only
      split
      · next hm => exact (h₀ hm).elim
      · next m hm => exact (h₁ m hm).elim
      · rfl
    refine (failsWith_printed_mapM e _ _).congr fun fault => ?_
    rw [leadsToFault_of_stop (by simpa [Avoids, ReadsOn, hf] using h₁), faultAt_iff, hparts]
    simp [hf]
  case wrapped =>
    intro active isOptional e inner hf _ ih
    rw [reflect_wrapped hf]
    have hstep : ∀ label other, ReadsOn index e label other ↔ label = none ∧ other = inner := by
      simp [ReadsOn, hf]
    exact ih.congr fun fault => leadsToFault_of_redirect hstep
      (by simp [faultAt_iff, hf, printedParts])
  case choice =>
    intro active isOptional e values hf
    rw [reflect_choice hf]
    refine (failsWith_printed_mapM e _ _).congr fun fault => ?_
    rw [leadsToFault_of_stop (by simp [Avoids, ReadsOn, hf])]
    simp [faultAt_iff, hf, printedParts]
  case array =>
    intro active isOptional e item hf _ ih
    rw [reflect_array hf]
    have hstep : ∀ label other, ReadsOn index e label other ↔ label = none ∧ other = item := by
      simp [ReadsOn, hf]
    have hitem (text : String) := ih.map (f := TypeShape.array text isOptional)
    refine ((failsWith_printed e).bind hitem).congr fun fault => ?_
    rw [leadsToFault_of_step hstep]
    refine or_congr_left ?_
    simp [faultAt_iff, hf, printedParts]
  case unknown =>
    intro active isOptional e name hf hc
    rw [reflect_unknown hf hc]
    refine (failsWith_printed e).map.congr fun fault => ?_
    rw [leadsToFault_of_stop (by simp [Avoids, ReadsOn, hf, hc])]
    simp [faultAt_iff, hf, printedParts, hc, ClassIndex.contains]
  case enumUnprintable =>
    intro active isOptional e name hf c hc henum hv
    rw [reflect_enum hf hc henum, hv]
    exact failsWith_error ⟨e, .refl, .enumeration hf hc henum hv⟩
  case enumEmpty =>
    intro active isOptional e name hf c hc henum hv
    rw [reflect_enum hf hc henum, hv]
    exact failsWith_ok fun fault => not_leadsToFault_of_enum hf hc henum hv
  case enumValues =>
    intro active isOptional e name hf c hc henum values hne hv
    rw [reflect_enum hf hc henum, hv]
    cases values with
    | nil => exact absurd rfl hne
    | cons v values => exact failsWith_ok fun fault => not_leadsToFault_of_enum hf hc henum hv
  case activeClass =>
    intro active isOptional e name hf c hc henum ha
    have ha : c.name ∈ active := by simpa using ha
    have henum : c.isEnum = false := by simpa using henum
    rw [reflect_active hf hc henum ha]
    refine failsWith_ok fun fault => not_leadsToFault ?_
      (by simp [faultAt_iff, hf, printedParts, ClassIndex.contains, hc, henum])
    -- the steps to its fields bear the name that is avoided
    rintro next ⟨label, hstep, hfree⟩
    unfold ReadsOn at hstep
    rw [hf] at hstep
    obtain ⟨c', _, hc', _, rfl, _⟩ := hstep
    obtain rfl := Option.some.inj (hc.symm.trans hc')
    exact hfree c.name rfl ha
  case openClass =>
    intro active isOptional e name hf c hc henum ha _ ih
    have ha : c.name ∉ active := by simpa using ha
    have henum : c.isEnum = false := by simpa using henum
    rw [reflect_class hf hc henum ha]
    exact ih.map.congr fun fault => (leadsToFault_class hf hc henum ha).symm
  case leaf =>
    intro active isOptional e hf
    rw [reflect_leaf hf]
    refine (failsWith_printed e).map.congr fun fault => ?_
    rw [leadsToFault_of_stop (by simp [Avoids, ReadsOn, hf])]
    simp [faultAt_iff, hf, printedParts]
  case fields =>
    intro active lineage c ihbase ihown
    exact failsWith_classFields_of (fun base b hb hl => ihbase base b hb (by simpa using hl)) ihown

/-- Reflecting an annotation fails with a fault that it leads to. -/
theorem failsWith_reflect (index : ClassIndex) (active : List String) (isOptional : Bool) (e : Expr) :
    FailsWith (reflect index active isOptional e) (LeadsToFault index active e) :=
  (failsWith_reflect_and_classFields index).1 active isOptional e

/-- Reflecting a hint fails with a fault that its annotation leads to. -/
theorem failsWith_reflectHint (index : ClassIndex) (isOptional : Bool) (hint : Option Expr) :
    FailsWith (reflectHint index isOptional hint) fun fault =>
      ∃ e, hint = some e ∧ LeadsToFault index [] e fault := by
  cases hint with
  | none => exact failsWith_ok fun fault ⟨e, he, _⟩ => nomatch he
  | some e =>
    refine (failsWith_reflect index [] isOptional e).congr fun fault => ?_
    exact ⟨fun h => ⟨e, rfl, h⟩, fun ⟨_, he, h⟩ => Option.some.inj he ▸ h⟩

end RouteAtlas.Reflect
