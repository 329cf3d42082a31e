import RouteAtlas.Proofs.Reflect.Ancestry
import RouteAtlas.Proofs.Reflect.LikeFields

/-!
# The annotation of one attribute

A place for an annotation in a class body, with everything around it: the statements before and after it,
and the other classes of the project. Two annotations that declare fields that read alike leave every type
alike (`FieldSite.reflect_alike`). Where no other statement of the class declares the attribute, the
reflected class holds what the annotation in this place says (`FieldSite.exists_declared`).
-/

namespace RouteAtlas.Reflect

open RouteAtlas.Api RouteAtlas.Document RouteAtlas.Syntax RouteAtlas.Text

/-- The marks on an annotation that decide whether it declares a field, and which. -/
def fieldMarks : List String := ["ClassVar", "Required", "NotRequired"]

/-- An annotation is wrapped by one name at most. -/
theorem isGeneric_unique {name other : String} {e : Expr} (h : isGeneric name e = true)
    (hother : isGeneric other e = true) : name = other := by
  unfold isGeneric at h hother
  split at h
  · exact (beq_iff_eq.1 h).symm.trans (beq_iff_eq.1 hother)
  · cases h

/-- The place of the annotation of an attribute in one of the classes of a project. -/
structure FieldSite where
  classesBefore : List ClassDecl
  classesAfter : List ClassDecl
  owner : String
  bases : List Expr
  keywords : List (Option String × Expr)
  bodyBefore : List Stmt
  bodyAfter : List Stmt
  fieldName : String
  value : Option Expr
  /-- The class is the one that its name denotes. -/
  owner_fresh : ∀ c ∈ classesBefore, c.name ≠ owner

namespace FieldSite

/-- The class without the attribute. -/
def classWithout (site : FieldSite) : ClassDecl :=
  ⟨site.owner, site.bases, site.keywords, site.bodyBefore ++ site.bodyAfter⟩

/-- The class with this annotation. -/
def classWith (site : FieldSite) (hint : Expr) : ClassDecl where
  name := site.owner
  bases := site.bases
  keywords := site.keywords
  body := site.bodyBefore ++ .annAssign (.name site.fieldName) hint site.value :: site.bodyAfter

/-- The classes of the project with this annotation. -/
def indexWith (site : FieldSite) (hint : Expr) : ClassIndex :=
  ⟨site.classesBefore ++ site.classWith hint :: site.classesAfter⟩

/-- The field that this annotation declares. -/
def field? (site : FieldSite) (hint : Expr) : Option FieldDecl :=
  fieldDecl? site.classWithout.isTotal (.annAssign (.name site.fieldName) hint site.value)

/-- The field may be left out, unless a mark on its annotation says otherwise. -/
def mayBeLeftOut (site : FieldSite) : Bool := hasDefault site.value || !site.classWithout.isTotal

variable {site : FieldSite} {hint hint' : Expr} {d : FieldDecl} {isOptional : Bool} {root : TypeShape}

/-- The index knows the class with the field. -/
theorem get?_indexWith (site : FieldSite) (hint : Expr) :
    (site.indexWith hint).get? site.owner = some (site.classWith hint) := by
  have hbefore : site.classesBefore.find? (·.name == site.owner) = none :=
    List.find?_eq_none.2 fun c hc => by simpa using site.owner_fresh c hc
  unfold ClassIndex.get? indexWith
  rw [List.find?_append, hbefore, Option.none_or, List.find?_cons_of_pos]
  exact beq_self_eq_true _

/-- The annotation has no part in what names there are. -/
theorem get?_eq_none_iff (hint hint' : Expr) {name : String} :
    (site.indexWith hint).get? name = none ↔ (site.indexWith hint').get? name = none := by
  unfold ClassIndex.get? indexWith
  simp only [List.find?_eq_none, List.mem_append, List.mem_cons, or_imp, forall_and, forall_eq]
  rfl

/-- The fields of the class are those before, the field itself, and those after. -/
theorem fieldDecls_classWith (site : FieldSite) (hint : Expr) :
    (site.classWith hint).fieldDecls =
      site.bodyBefore.filterMap (fieldDecl? site.classWithout.isTotal) ++
        ((site.field? hint).toList ++
          site.bodyAfter.filterMap (fieldDecl? site.classWithout.isTotal)) := by
  have hbody : (site.classWith hint).fieldDecls = (site.bodyBefore ++
      .annAssign (.name site.fieldName) hint site.value :: site.bodyAfter).filterMap
        (fieldDecl? site.classWithout.isTotal) := rfl
  rw [hbody, List.filterMap_append, List.filterMap_cons, field?]
  cases fieldDecl? site.classWithout.isTotal
    (.annAssign (.name site.fieldName) hint site.value) <;> rfl

/-- The annotation declares no field if the name or a mark excludes it. -/
theorem field?_eq_none_iff : site.field? hint = none ↔ beginsWith site.fieldName "_" = true ∨
    site.fieldName ∈ configurationNames ∨ isGeneric "ClassVar" hint = true := by
  have hhidden : (beginsWith site.fieldName "_" || configurationNames.contains site.fieldName ||
      isGeneric "ClassVar" hint) = true ↔ beginsWith site.fieldName "_" = true ∨
        site.fieldName ∈ configurationNames ∨ isGeneric "ClassVar" hint = true := by
    simp [or_assoc]
  rw [← hhidden]
  refine ⟨fun h => ?_, fun h => if_pos h⟩
  by_contra hopen
  have hsome : site.field? hint = some _ := if_neg hopen
  cases hsome.symm.trans h

/-- The field that is declared, unless the annotation declares none. -/
theorem field?_eq_some (h : site.field? hint ≠ none) : site.field? hint = some ⟨site.fieldName, hint,
    !isGeneric "Required" hint && (site.mayBeLeftOut || isGeneric "NotRequired" hint)⟩ :=
  if_neg fun hhidden => h (if_pos hhidden)

/-- Annotations with the same marks declare a field both or neither. -/
theorem field?_eq_none_congr (hmarks : ∀ mark ∈ fieldMarks, isGeneric mark hint' = isGeneric mark hint) :
    site.field? hint' = none ↔ site.field? hint = none := by
  rw [field?_eq_none_iff, field?_eq_none_iff, hmarks "ClassVar" (by decide)]

/-- A declared field has the name of its site. -/
theorem name_of_field? (h : site.field? hint = some d) : d.name = site.fieldName := by
  rw [field?_eq_some (h ▸ Option.some_ne_none d)] at h
  exact congrArg FieldDecl.name (Option.some.inj h).symm

section Alike

variable {R : TypeShape → TypeShape → Prop} {outer : List String}

/-- Classes read alike if the fields at the site do. -/
theorem classReadsAlike (hR : IsLikeness R)
    (h : Option.Rel (FieldReadsAlike R outer (site.indexWith hint')) (site.field? hint)
      (site.field? hint')) :
    ClassReadsAlike R outer (site.indexWith hint') (site.classWith hint) (site.classWith hint') := by
  have hrefl (decls : List FieldDecl) :
      List.Forall₂ (FieldReadsAlike R outer (site.indexWith hint')) decls decls :=
    List.forall₂_same.2 fun _ _ => ⟨rfl, rfl, fun _ _ => matches_self hR.refl _⟩
  have hfield : List.Forall₂ (FieldReadsAlike R outer (site.indexWith hint'))
      (site.field? hint).toList (site.field? hint').toList := by
    revert h
    generalize site.field? hint = d?
    generalize site.field? hint' = d'?
    rintro (h | _)
    · exact .cons h .nil
    · exact .nil
  refine ⟨rfl, rfl, ?_, ?_⟩
  · -- an annotated attribute is no member of an enumeration
    simp only [ClassDecl.enumValues?, classWith, List.filterMap_append, List.filterMap_cons,
      ClassDecl.enumMember?]
  · rw [fieldDecls_classWith, fieldDecls_classWith]
    exact List.rel_append (hrefl _) (List.rel_append hfield (hrefl _))

/-- Indexes read alike if the fields at the site do. -/
theorem readsAlike (hR : IsLikeness R)
    (h : Option.Rel (FieldReadsAlike R outer (site.indexWith hint')) (site.field? hint)
      (site.field? hint')) :
    ReadsAlike R outer (site.indexWith hint) (site.indexWith hint') := by
  have hclasses (classes : List ClassDecl) :
      List.Forall₂ (ClassReadsAlike R outer (site.indexWith hint')) classes classes :=
    List.forall₂_same.2 fun c _ => classReadsAlike_refl hR c
  exact List.rel_append (hclasses site.classesBefore)
    (.cons (classReadsAlike hR h) (hclasses site.classesAfter))

/-- Annotations with the same marks of a field declare fields that read alike if they reflect alike. -/
theorem rel_field? (hmarks : ∀ mark ∈ fieldMarks, isGeneric mark hint' = isGeneric mark hint)
    (h : site.field? hint ≠ none → ∀ active, outer ⊆ active → ∀ isOptional,
      Matches R (reflect (site.indexWith hint') active isOptional hint)
        (reflect (site.indexWith hint') active isOptional hint')) :
    Option.Rel (FieldReadsAlike R outer (site.indexWith hint')) (site.field? hint)
      (site.field? hint') := by
  have hiff : site.field? hint' = none ↔ site.field? hint = none := field?_eq_none_congr hmarks
  by_cases hnone : site.field? hint = none
  · rw [hnone, hiff.2 hnone]
    exact .none
  · rw [field?_eq_some hnone, field?_eq_some (mt hiff.1 hnone), hmarks "Required" (by decide),
      hmarks "NotRequired" (by decide)]
    exact .some ⟨rfl, rfl, fun active houter => h hnone active houter _⟩

/-- Two annotations that declare fields that read alike leave every type alike. -/
theorem reflect_alike (hR : IsLikeness R)
    (h : Option.Rel (FieldReadsAlike R [] (site.indexWith hint')) (site.field? hint)
      (site.field? hint')) (active : List String) (isOptional : Bool) (e : Expr) :
    Matches R (reflect (site.indexWith hint) active isOptional e)
      (reflect (site.indexWith hint') active isOptional e) :=
  (readsAlike hR h).reflect hR (List.nil_subset active) isOptional e

/-- For the class itself it is enough that the fields read alike while the class is being expanded. -/
theorem reflect_owner_alike (hR : IsLikeness R) (henum : site.classWithout.isEnum = false)
    (h : Option.Rel (FieldReadsAlike R [site.owner] (site.indexWith hint')) (site.field? hint)
      (site.field? hint')) (isOptional : Bool) :
    Matches R (reflect (site.indexWith hint) [] isOptional (.name site.owner))
      (reflect (site.indexWith hint') [] isOptional (.name site.owner)) := by
  have hfields := (readsAlike hR h).classFields hR (List.Subset.refl [site.owner]) [site.owner]
    (classReadsAlike hR h)
  rw [reflect_class rfl (site.get?_indexWith hint) henum List.not_mem_nil,
    reflect_class rfl (site.get?_indexWith hint') henum List.not_mem_nil]
  exact hfields.map (hR.object site.owner isOptional)

end Alike

/-- The class is reflected to an object of the fields of its ancestry. -/
theorem exists_fields (henum : site.classWithout.isEnum = false)
    (h : reflect (site.indexWith hint) [] isOptional (.name site.owner) = .ok root) :
    ∃ fields, root = .object site.owner isOptional fields ∧
      AncestryFields (site.indexWith hint) (site.classWith hint) fields :=
  reflectHint_ancestryFields rfl (site.get?_indexWith hint) henum h

/-- What the annotation says is what the reflected class holds, if no other statement of the class declares
the attribute. -/
theorem exists_declared (henum : site.classWithout.isEnum = false)
    (honly : ¬ site.classWithout.Annotates site.fieldName) (hd : site.field? hint = some d)
    (h : reflect (site.indexWith hint) [] isOptional (.name site.owner) = .ok root) :
    ∃ fields t, root = .object site.owner isOptional fields ∧
      Document.field? site.fieldName fields = some t ∧
        d.Gives (site.indexWith hint) [site.owner] t ∧ t.isOptional = d.isOptional := by
  obtain ⟨fields, hroot, hfields⟩ := exists_fields henum h
  have hdecls := site.fieldDecls_classWith hint
  rw [hd] at hdecls
  obtain ⟨t, ht, hgives, hflag⟩ := hfields.own _ _ d hdecls fun other hother hname => by
    refine honly (name_of_field? hd ▸ hname ▸ annotates_of_mem_fieldDecls ?_)
    rw [ClassDecl.fieldDecls, classWithout, List.filterMap_append]
    exact List.mem_append_right _ hother
  exact ⟨fields, t, hroot, name_of_field? hd ▸ ht, hgives, hflag⟩

end FieldSite

end RouteAtlas.Reflect
