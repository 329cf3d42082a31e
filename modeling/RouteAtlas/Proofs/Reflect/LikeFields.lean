import RouteAtlas.Proofs.Fallible
import RouteAtlas.Proofs.Reflect.Equations

/-!
# Classes whose fields read alike

Reflection sees a class by its name, its bases, its values if it is an enumeration, and what the
annotations of its fields reflect to. Where the classes of two indices agree in that, up to a likeness of
shapes, every annotation reflects alike by both (`ReadsAlike.reflect`). The likeness may be equality, or
equality of the shapes without their printed texts.
-/

namespace RouteAtlas.Reflect

open RouteAtlas.Api RouteAtlas.Document RouteAtlas.Syntax

/-! ## Likenesses -/

/-- The same names in the same order, with shapes that are alike. -/
def LikeFields (R : TypeShape → TypeShape → Prop) :
    List (String × TypeShape) → List (String × TypeShape) → Prop :=
  List.Forall₂ fun f f' => f'.1 = f.1 ∧ R f.2 f'.2

/-- Arrays are alike if their items are, and objects if their properties are. -/
structure IsLikeness (R : TypeShape → TypeShape → Prop) : Prop where
  refl : ∀ t, R t t
  trans : ∀ t u v, R t u → R u v → R t v
  array : ∀ (text : String) (isOptional : Bool) (t t' : TypeShape), R t t' →
    R (.array text isOptional t) (.array text isOptional t')
  object : ∀ (text : String) (isOptional : Bool) (fields fields' : List (String × TypeShape)),
    LikeFields R fields fields' → R (.object text isOptional fields) (.object text isOptional fields')

/-- Fields that are equal one by one are equal. -/
theorem eq_of_likeFields_eq {fields fields' : List (String × TypeShape)}
    (h : LikeFields Eq fields fields') : fields = fields' := by
  induction h with
  | nil => rfl
  | cons hf _ ih => rw [ih, Prod.ext hf.1.symm hf.2]

/-- Equality is a likeness. -/
theorem isLikeness_eq : IsLikeness Eq where
  refl _ := rfl
  trans _ _ _ := Eq.trans
  array _ _ _ _ h := congrArg _ h
  object _ _ _ _ h := congrArg _ (eq_of_likeFields_eq h)

section Fields

variable {R : TypeShape → TypeShape → Prop} {fields fields' own own' : List (String × TypeShape)}

/-- Setting like types keeps fields alike. -/
theorem LikeFields.setField (h : LikeFields R fields fields') (name : String) {t t' : TypeShape}
    (ht : R t t') : LikeFields R (setField name t fields) (setField name t' fields') := by
  induction h with
  | nil => exact .cons ⟨rfl, ht⟩ .nil
  | @cons f f' fields fields' hf hrest ih =>
    obtain ⟨k, u⟩ := f
    obtain ⟨k', u'⟩ := f'
    obtain ⟨rfl, hu⟩ := hf
    unfold Document.setField
    split
    · exact .cons ⟨rfl, ht⟩ hrest
    · exact .cons ⟨rfl, hu⟩ ih

/-- Setting like fields keeps fields alike. -/
theorem LikeFields.foldl_setField (hown : LikeFields R own own') (h : LikeFields R fields fields') :
    LikeFields R (own.foldl (fun fields f => Document.setField f.1 f.2 fields) fields)
      (own'.foldl (fun fields f => Document.setField f.1 f.2 fields) fields') := by
  induction hown generalizing fields fields' with
  | nil => exact h
  | @cons f f' own own' hf _ ih =>
    rw [List.foldl_cons, List.foldl_cons]
    exact ih (hf.1 ▸ h.setField f.1 hf.2)

end Fields

/-! ## Classes -/

/-- The fields have one name and flag, and by the second index their annotations reflect alike, while at
least the classes `outer` are being expanded. -/
structure FieldReadsAlike (R : TypeShape → TypeShape → Prop) (outer : List String) (index' : ClassIndex)
    (d d' : FieldDecl) : Prop where
  name : d'.name = d.name
  isOptional : d'.isOptional = d.isOptional
  hint : ∀ active, outer ⊆ active → Matches R (reflect index' active d.isOptional d.hint)
    (reflect index' active d.isOptional d'.hint)

/-- The classes agree in what reflection sees of them, with fields that read alike by the second index. -/
structure ClassReadsAlike (R : TypeShape → TypeShape → Prop) (outer : List String) (index' : ClassIndex)
    (c c' : ClassDecl) : Prop where
  name : c'.name = c.name
  bases : c'.bases = c.bases
  enumValues : c'.enumValues? = c.enumValues?
  fields : List.Forall₂ (FieldReadsAlike R outer index') c.fieldDecls c'.fieldDecls

/-- The classes of the two indices agree one by one. -/
def ReadsAlike (R : TypeShape → TypeShape → Prop) (outer : List String) (index index' : ClassIndex) :
    Prop :=
  List.Forall₂ (ClassReadsAlike R outer index') index.classes index'.classes

section Classes

variable {R : TypeShape → TypeShape → Prop} {outer : List String} {index index' : ClassIndex}
variable {c c' : ClassDecl}

/-- A class reads like itself. -/
theorem classReadsAlike_refl (hR : IsLikeness R) (c : ClassDecl) : ClassReadsAlike R outer index' c c :=
  ⟨rfl, rfl, rfl, List.forall₂_same.2 fun _ _ => ⟨rfl, rfl, fun _ _ => matches_self hR.refl _⟩⟩

/-- Classes that read alike are enumerations both or neither. -/
theorem ClassReadsAlike.isEnum (h : ClassReadsAlike R outer index' c c') : c'.isEnum = c.isEnum := by
  unfold ClassDecl.isEnum
  rw [h.bases]

/-- Indexes that read alike know the same names, for classes that read alike. -/
theorem ReadsAlike.get? (h : ReadsAlike R outer index index') (name : String) :
    Option.Rel (ClassReadsAlike R outer index') (index.get? name) (index'.get? name) := by
  unfold ReadsAlike at h
  unfold ClassIndex.get?
  generalize index.classes = classes at h
  revert h
  generalize index'.classes = classes'
  intro h
  induction h with
  | nil => exact .none
  | @cons c c' classes classes' hc _ ih =>
    rw [List.find?_cons, List.find?_cons, hc.name]
    cases c.name == name with
    | true => exact .some hc
    | false => exact ih

/-- A name that one index does not know the other does not know either. -/
theorem ReadsAlike.get?_none (h : ReadsAlike R outer index index') {name : String}
    (hget : index.get? name = none) : index'.get? name = none := by
  have hrel := h.get? name
  rw [hget] at hrel
  generalize index'.get? name = found at hrel
  cases hrel
  rfl

/-- A class that one index knows the other knows alike. -/
theorem ReadsAlike.exists_get? (h : ReadsAlike R outer index index') {name : String}
    (hget : index.get? name = some c) :
    ∃ c', index'.get? name = some c' ∧ ClassReadsAlike R outer index' c c' := by
  have hrel := h.get? name
  rw [hget] at hrel
  generalize index'.get? name = found at hrel
  cases hrel with
  | some hc => exact ⟨_, rfl, hc⟩

/-- What a base contributes matches if its fields do. -/
theorem ReadsAlike.matches_inheritFields (h : ReadsAlike R outer index index') {active lineage : List String}
    {base : Expr} (hbase : ∀ b b', index.get? base.simpleName = some b → b.name ∉ lineage →
      ClassReadsAlike R outer index' b b' →
        Matches (LikeFields R) (classFields index active (b.name :: lineage) b)
          (classFields index' active (b.name :: lineage) b'))
    {fields fields' : List (String × TypeShape)} (hfields : LikeFields R fields fields') :
    Matches (LikeFields R) (inheritFields index active lineage fields base)
      (inheritFields index' active lineage fields' base) := by
  unfold inheritFields
  cases hb : index.get? base.simpleName with
  | none =>
    rw [h.get?_none hb]
    exact .ok hfields
  | some b =>
    obtain ⟨b', hb', hlike⟩ := h.exists_get? hb
    rw [hb']
    dsimp only
    rw [hlike.name, hlike.isEnum]
    split
    · exact .ok hfields
    · next hopen =>
      have hown := hbase b b' hb (fun hl => hopen (.inl hl)) hlike
      exact hown.map fun own own' howns => howns.foldl_setField hfields

end Classes

/-! ## Reflection -/

/-- An annotation reflects alike by both indices, and so do the fields of classes that agree. -/
theorem ReadsAlike.reflect_and_classFields {R : TypeShape → TypeShape → Prop} {outer : List String}
    {index index' : ClassIndex} (hR : IsLikeness R) (h : ReadsAlike R outer index index') :
    (∀ (active : List String) (isOptional : Bool) (e : Expr), outer ⊆ active →
      Matches R (reflect index active isOptional e) (reflect index' active isOptional e)) ∧
    ∀ (active lineage : List String) (c : ClassDecl), outer ⊆ active →
      ∀ c', ClassReadsAlike R outer index' c c' →
        Matches (LikeFields R) (classFields index active lineage c)
          (classFields index' active lineage c') := by
  -- the induction is that of the functions by the first index, one case for each branch that they take
  refine reflect.mutual_induct index _ _ ?nullCharacter ?malformed ?forward ?illegible ?null ?unionEmpty
    ?unionOne ?unionSeveral ?wrapped ?choice ?array ?unknown ?enumUnprintable ?enumEmpty ?enumValues
    ?activeClass ?openClass ?leaf ?fields
  case nullCharacter =>
    intro active isOptional e text hf hr _
    rw [reflect_forward_null hf hr, reflect_forward_null hf hr]
    exact .error _
  case malformed =>
    intro active isOptional e text hf hr _
    rw [reflect_forward_malformed hf hr, reflect_forward_malformed hf hr]
    exact .ok (hR.refl _)
  case forward =>
    intro active isOptional e text hf inner hr _ ih houter
    rw [reflect_forward hf hr, reflect_forward hf hr]
    exact ih houter
  case illegible =>
    intro active isOptional e hf _
    rw [reflect_illegible hf, reflect_illegible hf]
    exact .error _
  case null =>
    intro active isOptional e hf _
    rw [reflect_null hf, reflect_null hf]
    exact .ok (hR.refl _)
  case unionEmpty =>
    intro active isOptional e members hf hm _
    rw [reflect_union_empty hf hm, reflect_union_empty hf hm]
    exact .ok (hR.refl _)
  case unionOne =>
    intro active isOptional e members hf m hm _ _ ih houter
    rw [reflect_union_one hf hm, reflect_union_one hf hm]
    exact ih houter
  case unionSeveral =>
    intro active isOptional e members hf h₀ h₁ _
    rw [reflect_union_several hf h₀ h₁, reflect_union_several hf h₀ h₁]
    exact matches_self hR.refl _
  case wrapped =>
    intro active isOptional e inner hf _ ih houter
    rw [reflect_wrapped hf, reflect_wrapped hf]
    exact ih houter
  case choice =>
    intro active isOptional e values hf _
    rw [reflect_choice hf, reflect_choice hf]
    exact matches_self hR.refl _
  case array =>
    intro active isOptional e item hf _ ih houter
    rw [reflect_array hf, reflect_array hf]
    refine (matches_self (fun _ => rfl) (printed e)).bind fun text text' htext => ?_
    exact htext ▸ (ih houter).map (hR.array text isOptional)
  case unknown =>
    intro active isOptional e name hf hc _
    rw [reflect_unknown hf hc, reflect_unknown hf (h.get?_none hc)]
    exact matches_self hR.refl _
  case enumUnprintable =>
    intro active isOptional e name hf c hc henum hv _
    obtain ⟨c', hc', hlike⟩ := h.exists_get? hc
    rw [reflect_enum hf hc henum, reflect_enum hf hc' (hlike.isEnum.trans henum), hlike.enumValues, hv]
    exact .error _
  case enumEmpty =>
    intro active isOptional e name hf c hc henum hv _
    obtain ⟨c', hc', hlike⟩ := h.exists_get? hc
    rw [reflect_enum hf hc henum, reflect_enum hf hc' (hlike.isEnum.trans henum), hlike.enumValues, hv,
      hlike.name]
    exact .ok (hR.refl _)
  case enumValues =>
    intro active isOptional e name hf c hc henum values hne hv _
    obtain ⟨c', hc', hlike⟩ := h.exists_get? hc
    rw [reflect_enum hf hc henum, reflect_enum hf hc' (hlike.isEnum.trans henum), hlike.enumValues, hv,
      hlike.name]
    exact matches_self hR.refl _
  case activeClass =>
    intro active isOptional e name hf c hc henum ha _
    obtain ⟨c', hc', hlike⟩ := h.exists_get? hc
    have ha : c.name ∈ active := by simpa using ha
    have henum : c.isEnum = false := by simpa using henum
    rw [reflect_active hf hc henum ha,
      reflect_active hf hc' (hlike.isEnum.trans henum) (hlike.name ▸ ha), hlike.name]
    exact .ok (hR.refl _)
  case openClass =>
    intro active isOptional e name hf c hc henum ha _ ih houter
    obtain ⟨c', hc', hlike⟩ := h.exists_get? hc
    have ha : c.name ∉ active := by simpa using ha
    have henum : c.isEnum = false := by simpa using henum
    rw [reflect_class hf hc henum ha,
      reflect_class hf hc' (hlike.isEnum.trans henum) (hlike.name ▸ ha), hlike.name]
    have hfields := ih (List.subset_cons_of_subset _ houter) c' hlike
    exact hfields.map (hR.object c.name isOptional)
  case leaf =>
    intro active isOptional e hf _
    rw [reflect_leaf hf, reflect_leaf hf]
    exact matches_self hR.refl _
  case fields =>
    intro active lineage c ihbase ihown houter c' hlike
    rw [classFields_eq, classFields_eq, hlike.bases]
    have hinherited : Matches (LikeFields R)
        (c.bases.foldlM (inheritFields index active lineage) [])
        (c.bases.foldlM (inheritFields index' active lineage) []) := by
      refine matches_foldlM (List.forall₂_same.2 fun base _ fields fields' hfields => ?_) .nil
      refine h.matches_inheritFields (fun b b' hb hl hlike => ?_) hfields
      exact ihbase base b hb (by simpa using hl) houter b' hlike
    refine hinherited.bind fun fields fields' hfields => matches_foldlM ?_ hfields
    refine hlike.fields.imp fun d d' hd fields fields' hfields => ?_
    have hhint := (ihown d houter).trans hR.trans (hd.hint active houter)
    unfold declareField
    rw [hd.name, hd.isOptional]
    exact hhint.map fun t t' ht => hfields.setField d.name ht

/-- Every annotation reflects alike by two indices whose classes read alike. -/
theorem ReadsAlike.reflect {R : TypeShape → TypeShape → Prop} {outer : List String}
    {index index' : ClassIndex} (hR : IsLikeness R) (h : ReadsAlike R outer index index')
    {active : List String} (houter : outer ⊆ active) (isOptional : Bool) (e : Expr) :
    Matches R (reflect index active isOptional e) (reflect index' active isOptional e) :=
  (h.reflect_and_classFields hR).1 active isOptional e houter

/-- So does a class that has a place in both. -/
theorem ReadsAlike.classFields {R : TypeShape → TypeShape → Prop} {outer : List String}
    {index index' : ClassIndex} (hR : IsLikeness R) (h : ReadsAlike R outer index index')
    {active : List String} (houter : outer ⊆ active) (lineage : List String) {c c' : ClassDecl}
    (hc : ClassReadsAlike R outer index' c c') :
    Matches (LikeFields R) (classFields index active lineage c) (classFields index' active lineage c') :=
  (h.reflect_and_classFields hR).2 active lineage c houter c' hc

end RouteAtlas.Reflect
