import Mathlib.Data.Option.Basic
import RouteAtlas.Proofs.Reflect.ReflectFaults
import RouteAtlas.Proofs.Reflect.SettledRegistry

/-!
# The fields of a class and its ancestry

The fields of a class are assigned base by base and its own last, so of several declarations of one name
the last one counts. `overrideOrder` lists the classes of that walk with the one that counts first in
front. A field holds what the first class of the list that declares it says (`classFields_declared`), and
the list holds the whole ancestry, although the walk is cut where a line of inheritance comes back to
itself (`mem_overrideOrder_iff`).
-/

namespace RouteAtlas.Reflect

open RouteAtlas.Api RouteAtlas.Document RouteAtlas.Syntax RouteAtlas.Text Relation

/-! ## Declarations -/

/-- A statement of the class declares a field of this name. -/
def ClassDecl.Annotates (c : ClassDecl) (name : String) : Prop :=
  ∃ hint value, Stmt.annAssign (.name name) hint value ∈ c.body ∧ beginsWith name "_" = false ∧
    name ∉ configurationNames ∧ isGeneric "ClassVar" hint = false

/-- The last declaration of a name in the class. -/
def ClassDecl.declaration? (c : ClassDecl) (name : String) : Option FieldDecl :=
  c.fieldDecls.reverse.find? (·.name == name)

/-- The declaration of a name in the first of these classes that declares it. -/
def declarationIn (order : List ClassDecl) (name : String) : Option FieldDecl :=
  order.findSome? (·.declaration? name)

/-- The shape is what the declaration says while the classes `active` are being expanded. -/
def FieldDecl.Gives (index : ClassIndex) (active : List String) (d : FieldDecl) (t : TypeShape) :
    Prop :=
  reflect index active d.isOptional d.hint = .ok t

/-- Each field holds what the first of these classes that declares it says. -/
def DeclaredBy (index : ClassIndex) (active : List String) (order : List ClassDecl)
    (fields : List (String × TypeShape)) : Prop :=
  ∀ name, Option.Rel (FieldDecl.Gives index active) (declarationIn order name) (field? name fields)

/-- Related alternatives stay related. -/
theorem rel_or {α β : Type} {R : α → β → Prop} {a a' : Option α} {b b' : Option β}
    (h : Option.Rel R a b) (h' : Option.Rel R a' b') : Option.Rel R (a.or a') (b.or b') := by
  cases h with
  | some h => exact .some h
  | none => exact h'

/-- What something is related to is there. -/
theorem exists_of_rel_some {α β : Type} {R : α → β → Prop} {a : α} {b : Option β}
    (h : Option.Rel R (some a) b) : ∃ y, b = some y ∧ R a y := by
  cases h with
  | some h => exact ⟨_, rfl, h⟩

/-- What is related to something is there. -/
theorem exists_of_some_rel {α β : Type} {R : α → β → Prop} {a : Option α} {b : β}
    (h : Option.Rel R a (some b)) : ∃ x, a = some x ∧ R x b := by
  cases h with
  | some h => exact ⟨_, rfl, h⟩

/-- Related options are both there or both absent. -/
theorem isSome_eq_of_rel {α β : Type} {R : α → β → Prop} {a : Option α} {b : Option β}
    (h : Option.Rel R a b) : a.isSome = b.isSome := by
  cases h <;> rfl

section Declarations

variable {c : ClassDecl} {name : String}

/-- An annotation of a public name that no mark excludes declares a field. -/
theorem mem_fieldDecls_of_annAssign {hint : Expr} {value : Option Expr}
    (hs : Stmt.annAssign (.name name) hint value ∈ c.body) (hprivate : beginsWith name "_" = false)
    (hconfig : name ∉ configurationNames) (hclassVar : isGeneric "ClassVar" hint = false) :
    ∃ d ∈ c.fieldDecls, d.name = name := by
  have hopen : ¬ (beginsWith name "_" || configurationNames.contains name ||
      isGeneric "ClassVar" hint) = true := by
    simp [hprivate, hconfig, hclassVar]
  exact ⟨_, List.mem_filterMap.2 ⟨_, hs, if_neg hopen⟩, rfl⟩

/-- A declared field is annotated. -/
theorem annotates_of_mem_fieldDecls {d : FieldDecl} (hd : d ∈ c.fieldDecls) : c.Annotates d.name := by
  obtain ⟨s, hs, hdecl⟩ := List.mem_filterMap.1 hd
  unfold fieldDecl? at hdecl
  split at hdecl
  · next id hint value =>
    split at hdecl
    · cases hdecl
    · next hopen =>
      obtain rfl := Option.some.inj hdecl
      have hopen := Bool.not_eq_true _ ▸ hopen
      simp only [Bool.or_eq_false_iff, List.contains_eq_mem, decide_eq_false_iff_not] at hopen
      exact ⟨hint, value, hs, hopen.1.1, hopen.1.2, hopen.2⟩
  · cases hdecl

/-- A class declares a field exactly if it annotates one. -/
theorem isSome_declaration?_iff : (c.declaration? name).isSome ↔ c.Annotates name := by
  unfold ClassDecl.declaration?
  simp only [List.find?_isSome, List.mem_reverse, beq_iff_eq]
  constructor
  · rintro ⟨d, hd, rfl⟩
    exact annotates_of_mem_fieldDecls hd
  · rintro ⟨hint, value, hs, hprivate, hconfig, hclassVar⟩
    exact mem_fieldDecls_of_annAssign hs hprivate hconfig hclassVar

/-- A declaration behind which no other one has its name. -/
theorem declaration?_of_last {d : FieldDecl} {before after : List FieldDecl}
    (hd : c.fieldDecls = before ++ d :: after) (hlast : ∀ other ∈ after, other.name ≠ d.name) :
    c.declaration? d.name = some d := by
  have hafter : after.reverse.find? (·.name == d.name) = none := by
    rw [List.find?_eq_none]
    intro other hother
    simpa using hlast other (List.mem_reverse.1 hother)
  unfold ClassDecl.declaration?
  rw [hd, List.reverse_append, List.reverse_cons, List.append_assoc, List.find?_append, hafter]
  simp

/-- The first class of an order has the first say. -/
theorem declarationIn_cons (c : ClassDecl) (order : List ClassDecl) (name : String) :
    declarationIn (c :: order) name = (c.declaration? name).or (declarationIn order name) := by
  unfold declarationIn
  rw [List.findSome?_cons]
  cases c.declaration? name <;> rfl

/-- The classes of a first order have their say before those of a second. -/
theorem declarationIn_append (order more : List ClassDecl) (name : String) :
    declarationIn (order ++ more) name = (declarationIn order name).or (declarationIn more name) :=
  List.findSome?_append

/-- Some class of an order declares a field exactly if one annotates it. -/
theorem isSome_declarationIn_iff {order : List ClassDecl} :
    (declarationIn order name).isSome ↔ ∃ owner ∈ order, owner.Annotates name := by
  unfold declarationIn
  simp only [List.findSome?_isSome_iff, isSome_declaration?_iff]

end Declarations

/-! ## The order in which declarations count -/

/-- The class of the index that a base names, unless it is an enumeration. -/
def ClassIndex.baseClass? (index : ClassIndex) (base : Expr) : Option ClassDecl :=
  (index.get? base.simpleName).filter (!·.isEnum)

/-- The classes of the index that the class names as its bases, enumerations apart. -/
def ClassIndex.baseClasses (index : ClassIndex) (c : ClassDecl) : List ClassDecl :=
  c.bases.filterMap index.baseClass?

/-- The class itself, or one that it inherits from. -/
def ClassIndex.Ancestry (index : ClassIndex) : ClassDecl → ClassDecl → Prop :=
  ReflTransGen fun c b => b ∈ index.baseClasses c

section BaseClasses

variable {index : ClassIndex} {c b owner : ClassDecl}

/-- Base classes are the known bases that are no enumerations. -/
theorem mem_baseClasses_iff : b ∈ index.baseClasses c ↔
    ∃ base ∈ c.bases, index.get? base.simpleName = some b ∧ b.isEnum = false := by
  simp [ClassIndex.baseClasses, ClassIndex.baseClass?, Option.filter_eq_some_iff]

/-- A base class is known by its name. -/
theorem get?_of_mem_baseClasses (hb : b ∈ index.baseClasses c) : index.get? b.name = some b := by
  obtain ⟨base, _, hget, _⟩ := mem_baseClasses_iff.1 hb
  rw [ClassIndex.name_of_get? hget, hget]

/-- Ancestors are what a class inherits from. -/
theorem ancestry_iff_inherits : index.Ancestry c owner ↔ Inherits index c owner := by
  have hstep : (fun c b => b ∈ index.baseClasses c) = Avoids (BaseStep index) [] := by
    funext c b
    refine propext ⟨fun hb => ?_, ?_⟩
    · obtain ⟨base, hbase, hget, henum⟩ := mem_baseClasses_iff.1 hb
      exact ⟨_, .base hbase hget henum, fun _ _ => List.not_mem_nil⟩
    · rintro ⟨_, ⟨hbase, hget, henum⟩, _⟩
      exact mem_baseClasses_iff.2 ⟨_, hbase, hget, henum⟩
  unfold ClassIndex.Ancestry Inherits
  rw [hstep]

end BaseClasses

/-- The classes that the walk through a class and its bases meets, the one whose declarations count first
in front: the class, then its bases from the last to the first. `lineage` holds the classes between it
and the one that is expanded, itself included. -/
def overrideOrder (index : ClassIndex) (lineage : List String) (c : ClassDecl) : List ClassDecl :=
  c :: (index.baseClasses c).reverse.attach.flatMap fun ⟨b, hb⟩ =>
    if hl : lineage.contains b.name then []
    else
      have := ClassIndex.room_cons_lt
        (ClassIndex.mem_of_get? (get?_of_mem_baseClasses (List.mem_reverse.1 hb)))
        (Bool.eq_false_iff.2 hl)
      overrideOrder index (b.name :: lineage) b
termination_by index.room lineage

/-- What one base contributes to the order. -/
def orderBelow (index : ClassIndex) (lineage : List String) (b : ClassDecl) : List ClassDecl :=
  if b.name ∈ lineage then [] else overrideOrder index (b.name :: lineage) b

/-- A class overrides its bases, and these each other from the last to the first. -/
theorem overrideOrder_eq (index : ClassIndex) (lineage : List String) (c : ClassDecl) :
    overrideOrder index lineage c =
      c :: (index.baseClasses c).reverse.flatMap (orderBelow index lineage) := by
  rw [overrideOrder, List.flatMap_subtype (g := orderBelow index lineage), List.unattach_attach]
  intro b hb
  unfold orderBelow
  simp

section Order

variable {index : ClassIndex} {active lineage : List String} {c b owner : ClassDecl}

/-- A lineage with one more base leaves less room. -/
theorem room_of_mem_baseClasses (hb : b ∈ index.baseClasses c) (hl : b.name ∉ lineage) :
    index.room (b.name :: lineage) < index.room lineage :=
  ClassIndex.room_cons_lt (ClassIndex.mem_of_get? (get?_of_mem_baseClasses hb)) (by simpa using hl)

/-- The order holds what the class inherits outside the lineage. -/
theorem mem_overrideOrder_iff : owner ∈ overrideOrder index lineage c ↔
    ReflTransGen (Avoids (BaseStep index) lineage) c owner := by
  -- along the line of inheritance ever fewer classes are left
  induction hn : index.room lineage using Nat.strongRecOn generalizing lineage c with
  | _ n ih =>
    have hbelow (b : ClassDecl) (hb : b ∈ index.baseClasses c) (hl : b.name ∉ lineage) :
        owner ∈ overrideOrder index (b.name :: lineage) b ↔
          ReflTransGen (Avoids (BaseStep index) (b.name :: lineage)) b owner :=
      ih _ (hn ▸ room_of_mem_baseClasses hb hl) rfl
    rw [overrideOrder_eq, inherits_avoiding_iff, List.mem_cons, or_comm]
    simp only [List.mem_flatMap, List.mem_reverse, orderBelow]
    refine or_congr_left ⟨?_, ?_⟩
    · rintro ⟨b, hb, hmem⟩
      obtain ⟨base, hbase, hget, henum⟩ := mem_baseClasses_iff.1 hb
      split at hmem
      · cases hmem
      · next hl => exact ⟨base, hbase, b, hget, ⟨hl, henum⟩, (hbelow b hb hl).1 hmem⟩
    · rintro ⟨base, hbase, b, hget, ⟨hl, henum⟩, hpath⟩
      have hb : b ∈ index.baseClasses c := mem_baseClasses_iff.2 ⟨base, hbase, hget, henum⟩
      refine ⟨b, hb, ?_⟩
      rw [if_neg hl]
      exact (hbelow b hb hl).2 hpath

/-- The order of a class that is expanded holds its ancestry, and nothing else. -/
theorem mem_overrideOrder_self_iff (hc : index.get? c.name = some c) :
    owner ∈ overrideOrder index [c.name] c ↔ index.Ancestry c owner := by
  rw [mem_overrideOrder_iff, ancestry_iff_inherits]
  exact ⟨avoids_of_cons, inherits_outside_itself hc⟩

end Order

/-! ## What the fields hold -/

section Fields

variable {index : ClassIndex} {active lineage : List String} {c : ClassDecl}
variable {order more : List ClassDecl} {fields own out : List (String × TypeShape)}

/-- Nothing is declared by no classes. -/
theorem declaredBy_nil : DeclaredBy index active [] [] := fun _ => .none

/-- What is assigned later counts first. -/
theorem DeclaredBy.override (h : DeclaredBy index active order fields)
    (hown : DeclaredBy index active more own) (hnodup : (fieldNames own).Nodup) :
    DeclaredBy index active (more ++ order)
      (own.foldl (fun fields f => setField f.1 f.2 fields) fields) := by
  intro name
  rw [declarationIn_append, field?_foldl_setField hnodup]
  exact rel_or (hown name) (h name)

/-- The part of one base, if what it contributes holds what its own order says. -/
theorem DeclaredBy.inherit {base : Expr} (h : DeclaredBy index active order fields)
    (hbase : ∀ b, index.baseClass? base = some b → b.name ∉ lineage → ∀ own,
      classFields index active (b.name :: lineage) b = .ok own →
        DeclaredBy index active (overrideOrder index (b.name :: lineage) b) own)
    (hrun : inheritFields index active lineage fields base = .ok out) :
    DeclaredBy index active
      ((index.baseClass? base).elim [] (orderBelow index lineage) ++ order) out := by
  unfold inheritFields at hrun
  unfold ClassIndex.baseClass? at hbase ⊢
  split at hrun
  · next hget =>
    obtain rfl := Except.ok.inj hrun
    rw [hget]
    exact h
  next b hget =>
  rw [hget] at hbase ⊢
  split at hrun
  · next hcut =>
    obtain rfl := Except.ok.inj hrun
    rcases hcut with hl | henum
    · cases henum : b.isEnum <;> simpa [Option.filter, henum, orderBelow, hl] using h
    · simpa [Option.filter, henum] using h
  next hcut =>
  obtain ⟨hl, henum⟩ := not_or.1 hcut
  have henum : b.isEnum = false := Bool.eq_false_iff.2 henum
  have hfilter : (some b).filter (fun b => !b.isEnum) = some b := by simp [Option.filter, henum]
  rw [hfilter] at hbase ⊢
  obtain ⟨own, hown, he⟩ := exists_of_bind_eq_ok hrun
  obtain rfl := Except.ok.inj he
  have hcontributed := hbase b rfl hl own hown
  show DeclaredBy index active (orderBelow index lineage b ++ order) _
  unfold orderBelow
  rw [if_neg hl]
  exact h.override hcontributed (nodup_fieldNames_classFields hown)

/-- The part of all bases: of two bases the later one counts first. -/
theorem DeclaredBy.inheritAll {bases : List Expr} (h : DeclaredBy index active order fields)
    (hbase : ∀ base ∈ bases, ∀ b, index.baseClass? base = some b → b.name ∉ lineage → ∀ own,
      classFields index active (b.name :: lineage) b = .ok own →
        DeclaredBy index active (overrideOrder index (b.name :: lineage) b) own)
    (hrun : bases.foldlM (inheritFields index active lineage) fields = .ok out) :
    DeclaredBy index active
      ((bases.filterMap index.baseClass?).reverse.flatMap (orderBelow index lineage) ++ order)
      out := by
  induction bases generalizing order fields with
  | nil => exact Except.ok.inj hrun ▸ h
  | cons base bases ih =>
    rw [List.foldlM_cons] at hrun
    obtain ⟨fields', hfields', hrun⟩ := exists_of_bind_eq_ok hrun
    have hrest := ih (h.inherit (hbase base List.mem_cons_self) hfields')
      (fun other hother => hbase other (List.mem_cons_of_mem base hother)) hrun
    rw [← List.append_assoc] at hrest
    have horder : (List.filterMap index.baseClass? (base :: bases)).reverse.flatMap
        (orderBelow index lineage) =
        (bases.filterMap index.baseClass?).reverse.flatMap (orderBelow index lineage) ++
          (index.baseClass? base).elim [] (orderBelow index lineage) := by
      cases hb : index.baseClass? base with
      | none => simp [hb]
      | some b => simp [hb]
    rw [horder]
    exact hrest

/-- The own declarations count before all that is inherited, the last one of a name first. -/
theorem DeclaredBy.declareAll (h : DeclaredBy index active order fields)
    (hrun : c.fieldDecls.foldlM (declareField index active) fields = .ok out) :
    DeclaredBy index active (c :: order) out := by
  intro name
  rw [declarationIn_cons]
  unfold ClassDecl.declaration?
  generalize c.fieldDecls = decls at hrun
  -- over the declarations before, which count after those still to come
  have hstart := h name
  generalize declarationIn order name = earlier at hstart
  clear h
  induction decls generalizing fields earlier with
  | nil => exact Except.ok.inj hrun ▸ hstart
  | cons d decls ih =>
    rw [List.foldlM_cons] at hrun
    obtain ⟨fields', hstep, hrun⟩ := exists_of_bind_eq_ok hrun
    obtain ⟨t, ht, he⟩ := exists_of_bind_eq_ok hstep
    obtain rfl := Except.ok.inj he
    have hnext : Option.Rel (FieldDecl.Gives index active) (([d].find? (·.name == name)).or earlier)
        (field? name (setField d.name t fields)) := by
      by_cases hname : d.name = name
      · subst hname
        rw [field?_setField_self]
        simpa [FieldDecl.Gives] using ht
      · rw [field?_setField_of_ne (Ne.symm hname)]
        simpa [hname] using hstart
    rw [List.reverse_cons, List.find?_append, Option.or_assoc]
    exact ih hrun _ hnext

/-- Each field of a class holds what the first class of the order that declares it says, and there are
fields of all names that are declared. -/
theorem classFields_declared (h : classFields index active lineage c = .ok fields) :
    DeclaredBy index active (overrideOrder index lineage c) fields := by
  induction hn : index.room lineage using Nat.strongRecOn generalizing lineage c fields with
  | _ n ih =>
    rw [classFields_eq] at h
    obtain ⟨inherited, hinherited, hown⟩ := exists_of_bind_eq_ok h
    rw [overrideOrder_eq]
    refine DeclaredBy.declareAll ?_ hown
    have hall := declaredBy_nil.inheritAll (fun base hbase b hb hl own hrun => ?_) hinherited
    · rwa [List.append_nil] at hall
    · have hmem : b ∈ index.baseClasses c := List.mem_filterMap.2 ⟨base, hbase, hb⟩
      exact ih _ (hn ▸ room_of_mem_baseClasses hmem hl) hrun rfl

end Fields

/-! ## A class that is expanded -/

/-- The fields are those that the class and its ancestry declare, each of them once, and what the class
itself declares holds its own last declaration. -/
structure AncestryFields (index : ClassIndex) (c : ClassDecl) (fields : List (String × TypeShape)) :
    Prop where
  nodup : (fieldNames fields).Nodup
  mem_iff : ∀ name, name ∈ fieldNames fields ↔ ∃ owner, index.Ancestry c owner ∧ owner.Annotates name
  own : ∀ (before after : List FieldDecl) (d : FieldDecl), c.fieldDecls = before ++ d :: after →
    (∀ other ∈ after, other.name ≠ d.name) →
      ∃ t, field? d.name fields = some t ∧ d.Gives index [c.name] t ∧ t.isOptional = d.isOptional

section Expanded

variable {index : ClassIndex} {c : ClassDecl} {e : Expr} {name : String} {isOptional : Bool}
variable {fields : List (String × TypeShape)} {root : TypeShape}

/-- A class that is reflected by itself is the object of its fields. -/
theorem exists_fields_of_reflectHint (hf : TypeForm.ofExpr e = .named name)
    (hc : index.get? name = some c) (henum : c.isEnum = false)
    (h : reflectHint index isOptional (some e) = .ok root) :
    ∃ fields, root = .object c.name isOptional fields ∧
      classFields index [c.name] [c.name] c = .ok fields := by
  have h : reflect index [] isOptional e = .ok root := h
  rw [reflect_class hf hc henum List.not_mem_nil] at h
  obtain ⟨fields, hfields, h⟩ := exists_of_bind_eq_ok h
  exact ⟨fields, (Except.ok.inj h).symm, hfields⟩

/-- The fields of a class are those of its ancestry. -/
theorem ancestryFields_of_classFields (hc : index.get? c.name = some c)
    (h : classFields index [c.name] [c.name] c = .ok fields) : AncestryFields index c fields := by
  have hdeclared := classFields_declared h
  refine ⟨nodup_fieldNames_classFields h, fun name => ?_, fun before after d hd hlast => ?_⟩
  · -- a field is there exactly if some class of the order declares it
    rw [← isSome_field?_iff, ← isSome_eq_of_rel (hdeclared name), isSome_declarationIn_iff]
    simp only [mem_overrideOrder_self_iff hc]
  · have hfirst : declarationIn (overrideOrder index [c.name] c) d.name = some d := by
      rw [overrideOrder_eq, declarationIn_cons, declaration?_of_last hd hlast]
      rfl
    obtain ⟨t, ht, hgives⟩ := exists_of_rel_some (hfirst ▸ hdeclared d.name)
    exact ⟨t, ht, hgives, isOptional_of_reflect hgives⟩

/-- A class that is reflected by itself has the fields of its ancestry. -/
theorem reflectHint_ancestryFields (hf : TypeForm.ofExpr e = .named name)
    (hc : index.get? name = some c) (henum : c.isEnum = false)
    (h : reflectHint index isOptional (some e) = .ok root) :
    ∃ fields, root = .object c.name isOptional fields ∧ AncestryFields index c fields := by
  obtain ⟨fields, hroot, hfields⟩ := exists_fields_of_reflectHint hf hc henum h
  have hself : index.get? c.name = some c := by rw [ClassIndex.name_of_get? hc, hc]
  exact ⟨fields, hroot, ancestryFields_of_classFields hself hfields⟩

end Expanded

/-- Two classes that inherit from each other, one of which declares a field twice that it inherits. -/
theorem reflectHint_ancestryFields_of_cycle :
    let key (type : String) : Stmt := .annAssign (.name "key") (.name type) none
    let first : ClassDecl := ⟨"First", [.name "Second"], [], [key "str", key "int"]⟩
    let second : ClassDecl := ⟨"Second", [.name "First"], [],
      [key "bytes", .annAssign (.name "size") (.name "int") none]⟩
    let index : ClassIndex := ⟨[first, second]⟩
    let fields := [("key", TypeShape.leaf "int" false), ("size", .leaf "int" false)]
    reflectHint index false (some (.name "First")) = .ok (.object "First" false fields) ∧
      AncestryFields index first fields := by
  intro key first second index fields
  have hleaf (type : String) (hunknown : index.get? type = none) :
      reflect index ["First"] false (.name type) = .ok (.leaf type false) :=
    reflect_unknown rfl hunknown
  have hsecond : classFields index ["First"] ["Second", "First"] second =
      .ok [("key", .leaf "bytes" false), ("size", .leaf "int" false)] := by
    refine classFields_of_ok (foldlM_cons_of_ok
      (inheritFields_cut (b := first) rfl (Or.inl (by decide)) []) []) ?_
    have hdecls : second.fieldDecls = [⟨"key", .name "bytes", false⟩, ⟨"size", .name "int", false⟩] :=
      rfl
    rw [hdecls, foldlM_cons_of_ok (declareField_of_ok (hleaf "bytes" rfl) [])]
    exact foldlM_cons_of_ok (declareField_of_ok (hleaf "int" rfl) _) []
  have hfields : classFields index ["First"] ["First"] first = .ok fields := by
    refine classFields_of_ok (foldlM_cons_of_ok
      (inheritFields_base (b := second) rfl (by decide) rfl hsecond []) []) ?_
    have hdecls : first.fieldDecls = [⟨"key", .name "str", false⟩, ⟨"key", .name "int", false⟩] := rfl
    rw [hdecls, foldlM_cons_of_ok (declareField_of_ok (hleaf "str" rfl) _)]
    exact foldlM_cons_of_ok (declareField_of_ok (hleaf "int" rfl) _) []
  have hroot : reflectHint index false (some (.name "First")) = .ok (.object "First" false fields) := by
    show reflect index [] false (.name "First") = _
    rw [reflect_class (c := first) rfl rfl rfl (by decide), hfields]
    rfl
  obtain ⟨found, hfound, hancestry⟩ := reflectHint_ancestryFields (c := first) rfl rfl rfl hroot
  obtain rfl : fields = found := Option.some.inj (congrArg TypeShape.properties hfound)
  exact ⟨hroot, hancestry⟩

end RouteAtlas.Reflect
