import RouteAtlas.Proofs.Reflect.FieldSite
import RouteAtlas.Proofs.Scan.HintParts

/-!
# Annotations in quotes

An annotation in quotes is read when it is reflected, and not before. A parameter is bound as if there were
no quotes exactly if its annotation decides by nothing but the type it reflects to
(`bindParameter_quoted_iff`). A class is reflected as if there were no quotes if no mark on the annotation
changes the field (`reflect_quotedField`), and only then if nothing else declares the field
(`reflect_quotedField_ne`).
-/

namespace RouteAtlas.Scan

open RouteAtlas.Api RouteAtlas.Document RouteAtlas.Reflect RouteAtlas.Syntax RouteAtlas.Text

/-- An annotation in quotes. -/
abbrev quotedHint (text : String) (marked : Bool) : Expr := .constant (.str text marked)

/-- In quotes an annotation reflects as it does without. -/
theorem reflect_quotedHint {text : String} {e : Expr} (hread : readExpr text = .ok e) (marked : Bool)
    (index : ClassIndex) (active : List String) (isOptional : Bool) :
    reflect index active isOptional (quotedHint text marked) = reflect index active isOptional e :=
  reflect_forward rfl hread

/-! ## Parameters -/

/-- The parameter is bound as if these parts of its annotation were only a type, which has the shape `t`:
the framework does not supply the type, and the marker says what would be said without it. -/
structure BindsByShape (pathNames : List String) (name : String) (default : Option Expr) (hint : Expr)
    (inHint : Option Marker) (t : TypeShape) : Prop where
  not_supplied : inHint = none → default.bind Marker.ofExpr? = none → name ∉ pathNames →
    hint.simpleName ∉ suppliedNames
  flag : ∀ m ∈ inHint, isOptionalBinding inHint (default.bind Marker.ofExpr?) default =
    isOptionalBinding none (default.bind Marker.ofExpr?) default
  source : ∀ m ∈ inHint, sourceOf pathNames name none (some m) t =
    sourceOf pathNames name none (default.bind Marker.ofExpr?) t
  embed : ∀ m ∈ inHint, sourceOf pathNames name none (some m) t = .body →
    asksToEmbed m = (default.bind Marker.ofExpr?).any asksToEmbed

section Parameters

variable {index : ClassIndex} {aliases : Aliases} {pathNames : List String} {name text : String}
variable {default : Option Expr} {e hint : Expr} {inHint marker : Option Marker} {t u : TypeShape}
variable {isOptional flag marked : Bool}

/-- Quotes hide the name of a type. -/
theorem bindParameter_quoted_eq (hread : readExpr text = .ok e) (marked : Bool) (index : ClassIndex)
    (aliases : Aliases) (pathNames : List String) (name : String) (default : Option Expr) :
    bindParameter index aliases pathNames ⟨name, some (quotedHint text marked)⟩ default =
      flaggedTo pathNames name none (default.bind Marker.ofExpr?)
          (isOptionalBinding none (default.bind Marker.ofExpr?) default) <$>
        (reflect index [] false e).mapError .reflection := by
  have hplain : IsPlainHint aliases (quotedHint text marked) := ⟨rfl, rfl⟩
  have hsource (t : TypeShape) : sourceOf pathNames name (some (quotedHint text marked))
      (default.bind Marker.ofExpr?) t = sourceOf pathNames name none (default.bind Marker.ofExpr?) t :=
    sourceOf_some_eq_iff.2 fun _ _ (hmem : "" ∈ suppliedNames) => absurd hmem (by decide)
  have hbound : boundTo pathNames name (some (quotedHint text marked)) (default.bind Marker.ofExpr?) =
      boundTo pathNames name none (default.bind Marker.ofExpr?) :=
    funext fun t => boundTo_eq_iff.2 ⟨hsource t, fun _ => rfl⟩
  rw [bindParameter_of_markedHint hplain.markedHint, bindMarked_eq_map, reflect_quotedHint hread,
    Option.none_or]
  unfold flaggedTo
  rw [hbound]

/-- A parameter is bound by its shape if neither its flag nor its place needs the annotation. -/
theorem bindsByShape_iff : BindsByShape pathNames name default hint inHint t ↔
    isOptionalBinding none (default.bind Marker.ofExpr?) default =
        isOptionalBinding inHint (default.bind Marker.ofExpr?) default ∧
      boundTo pathNames name none (default.bind Marker.ofExpr?) t =
        boundTo pathNames name (some hint) (inHint.or (default.bind Marker.ofExpr?)) t := by
  rw [eq_comm (a := boundTo _ _ _ _ _), boundTo_eq_iff]
  cases inHint with
  | none =>
    rw [Option.none_or, sourceOf_some_eq_iff]
    refine ⟨fun h => ⟨rfl, h.not_supplied rfl, fun _ => rfl⟩, fun h => ⟨fun _ => h.2.1, ?_, ?_, ?_⟩⟩
    all_goals exact nofun
  | some m =>
    refine ⟨fun h => ⟨(h.flag m rfl).symm, h.source m rfl, h.embed m rfl⟩, fun h => ⟨nofun, ?_, ?_, ?_⟩⟩
    · exact fun _ _ => h.1.symm
    · exact fun _ hm => Option.mem_some.1 hm ▸ h.2.1
    · exact fun _ hm => Option.mem_some.1 hm ▸ h.2.2

/-- Two runs whose results are seen in two ways give the same if they fail with the same fault, or give
results that the views identify. -/
theorem map_mapError_eq_iff {ε δ α β : Type} {f g : α → β} {wrap : ε → δ}
    (hwrap : Function.Injective wrap) {x y : Except ε α} {P : α → Prop}
    (hview : ∀ a b, x = .ok a → y = .ok b → (f a = g b ↔ a = b ∧ P a)) :
    f <$> x.mapError wrap = g <$> y.mapError wrap ↔ y = x ∧ ∀ a, x = .ok a → P a := by
  cases x with
  | error fault =>
    cases y with
    | error fault' =>
      refine ⟨fun h => ⟨?_, nofun⟩, fun h => ?_⟩
      · rw [hwrap (Except.error.inj h)]
      · rw [Except.error.inj h.1]
        rfl
    | ok b => exact iff_of_false nofun (fun h => nomatch h.1)
  | ok a =>
    cases y with
    | error fault => exact iff_of_false nofun (fun h => nomatch h.1)
    | ok b =>
      have hok : f <$> (Except.ok a).mapError wrap = g <$> (Except.ok b).mapError wrap ↔ f a = g b :=
        ⟨Except.ok.inj, congrArg Except.ok⟩
      rw [hok, hview a b rfl rfl]
      constructor
      · rintro ⟨rfl, h⟩
        exact ⟨rfl, fun c hc => Except.ok.inj hc ▸ h⟩
      · rintro ⟨h, hall⟩
        exact ⟨(Except.ok.inj h).symm, hall a rfl⟩

/-- In quotes an annotation binds as it does without, exactly if it has a type that reflects as the whole
annotation does and nothing but the shape of that type decides. -/
theorem bindParameter_quoted_iff (hread : readExpr text = .ok e) :
    bindParameter index aliases pathNames ⟨name, some (quotedHint text marked)⟩ default =
        bindParameter index aliases pathNames ⟨name, some e⟩ default ↔
      ∃ hint inHint, MarkedHint.ofExpr (resolveAlias aliases (some e)) = .ok ⟨some hint, inHint⟩ ∧
        reflect index [] false hint = reflect index [] false e ∧
          ∀ t, reflect index [] false e = .ok t →
            BindsByShape pathNames name default hint inHint t := by
  rw [bindParameter_quoted_eq hread]
  rcases markedHint_eq_error_or_ok aliases e with hempty | ⟨hint, inHint, hparts⟩
  · rw [bindParameter_eq, hempty]
    refine iff_of_false (fun h => ?_) (by rintro ⟨hint, inHint, hparts, _⟩; cases hparts)
    cases ht : reflect index [] false e <;> rw [ht] at h <;> cases h
  · rw [bindParameter_of_markedHint hparts, bindMarked_eq_map, hparts]
    have hview (t u : TypeShape) (ht : reflect index [] false e = .ok t)
        (hu : reflect index [] false hint = .ok u) :
        flaggedTo pathNames name none (default.bind Marker.ofExpr?)
              (isOptionalBinding none (default.bind Marker.ofExpr?) default) t =
            flaggedTo pathNames name (some hint) (inHint.or (default.bind Marker.ofExpr?))
              (isOptionalBinding inHint (default.bind Marker.ofExpr?) default) u ↔
          t = u ∧ BindsByShape pathNames name default hint inHint t := by
      rw [flaggedTo_inj (isOptional_of_reflect ht) (isOptional_of_reflect hu), bindsByShape_iff,
        and_left_comm]
    rw [map_mapError_eq_iff (fun _ _ => HandlerFault.reflection.inj) hview]
    constructor
    · exact fun h => ⟨hint, inHint, rfl, h⟩
    · rintro ⟨hint', inHint', hparts', h⟩
      cases hparts'
      exact h

end Parameters

/-! ## Fields -/

/-- No mark on this annotation changes the field: the name is not one of a field anyway, or the annotation is
no mark of a class variable, and it requires what is required and leaves out what may be left out. -/
def DeclaresUnmarked (site : FieldSite) (hint : Expr) : Prop :=
  beginsWith site.fieldName "_" = true ∨ site.fieldName ∈ configurationNames ∨
    isGeneric "ClassVar" hint = false ∧
      (isGeneric "Required" hint = true → site.mayBeLeftOut = false) ∧
        (isGeneric "NotRequired" hint = true → site.mayBeLeftOut = true)

/-- The class and those it inherits from declare the field nowhere else. -/
structure IsOnlyDeclaration (site : FieldSite) (hint : Expr) : Prop where
  own : ¬ site.classWithout.Annotates site.fieldName
  inherited : ∀ c, (site.indexWith hint).Ancestry (site.classWith hint) c → c ≠ site.classWith hint →
    ¬ c.Annotates site.fieldName

section Fields

variable {site : FieldSite} {text : String} {e hint : Expr} {marked isOptional : Bool} {t : TypeShape}

/-- A field is flagged by its site if no mark in its annotation says otherwise. -/
theorem flag_eq_iff : (!isGeneric "Required" hint && (site.mayBeLeftOut || isGeneric "NotRequired" hint)) =
      site.mayBeLeftOut ↔
    (isGeneric "Required" hint = true → site.mayBeLeftOut = false) ∧
      (isGeneric "NotRequired" hint = true → site.mayBeLeftOut = true) := by
  have honly : isGeneric "Required" hint = true → isGeneric "NotRequired" hint = false := fun h =>
    Bool.eq_false_iff.2 fun h' => absurd (isGeneric_unique h h') (by decide)
  cases hrequired : isGeneric "Required" hint with
  | true => cases site.mayBeLeftOut <;> simp [honly hrequired]
  | false => cases site.mayBeLeftOut <;> simp

/-- A field whose annotation has no mark that counts is declared alike in quotes. -/
theorem field?_quoted_alike (hread : readExpr text = .ok e) (hmarks : DeclaresUnmarked site e) :
    Option.Rel (FieldReadsAlike Eq [] (site.indexWith (quotedHint text marked))) (site.field? e)
      (site.field? (quotedHint text marked)) := by
  by_cases hname : beginsWith site.fieldName "_" = true ∨ site.fieldName ∈ configurationNames
  · rw [FieldSite.field?_eq_none_iff.2 (or_assoc.1 (.inl hname)), FieldSite.field?_eq_none_iff.2 (or_assoc.1 (.inl hname))]
    exact .none
  · obtain ⟨hclassVar, hflags⟩ : isGeneric "ClassVar" e = false ∧ _ :=
      (or_assoc.2 hmarks).resolve_left hname
    have hfield (hint : Expr) (h : isGeneric "ClassVar" hint = false) : site.field? hint ≠ none := by
      rw [Ne, FieldSite.field?_eq_none_iff, ← or_assoc, h]
      simpa using hname
    rw [FieldSite.field?_eq_some (hfield e hclassVar), FieldSite.field?_eq_some (hfield (quotedHint text marked) rfl),
      flag_eq_iff.2 hflags]
    refine .some ⟨rfl, ?_, fun _ _ => matches_eq_iff.2 (reflect_quotedHint hread marked _ _ _).symm⟩
    exact Bool.or_false _

/-- Then every type of the project reflects alike. -/
theorem reflect_quotedField (hread : readExpr text = .ok e) (hmarks : DeclaresUnmarked site e)
    (active : List String) (isOptional : Bool) (other : Expr) :
    reflect (site.indexWith (quotedHint text marked)) active isOptional other =
      reflect (site.indexWith e) active isOptional other :=
  (matches_eq_iff.1 (site.reflect_alike isLikeness_eq (field?_quoted_alike hread hmarks)
    active isOptional other)).symm

/-- The annotation of a class variable declares no field. -/
theorem annotates_classWithout (hclassVar : isGeneric "ClassVar" hint = true) {name : String}
    (h : (site.classWith hint).Annotates name) : site.classWithout.Annotates name := by
  obtain ⟨hint', value, hmem, hprivate, hconfig, hopen⟩ := h
  rcases List.mem_append.1 hmem with hbefore | hmem
  · exact ⟨hint', value, List.mem_append_left _ hbefore, hprivate, hconfig, hopen⟩
  · rcases List.mem_cons.1 hmem with hself | hafter
    · cases hself
      cases hclassVar.symm.trans hopen
    · exact ⟨hint', value, List.mem_append_right _ hafter, hprivate, hconfig, hopen⟩

/-- Otherwise the class that declares the field does not, if nothing else declares it. -/
theorem reflect_quotedField_ne (hmarks : ¬ DeclaresUnmarked site e)
    (henum : site.classWithout.isEnum = false) (honly : IsOnlyDeclaration site e)
    (ht : reflect (site.indexWith e) [] isOptional (.name site.owner) = .ok t) :
    reflect (site.indexWith (quotedHint text marked)) [] isOptional (.name site.owner) ≠ .ok t := by
  intro hquoted
  obtain ⟨hprivate, hconfig, hmarks⟩ : beginsWith site.fieldName "_" ≠ true ∧
      site.fieldName ∉ configurationNames ∧ ¬ _ := by
    simpa only [DeclaresUnmarked, not_or] using hmarks
  have hfield (hint : Expr) (h : isGeneric "ClassVar" hint = false) : site.field? hint ≠ none := by
    simp [FieldSite.field?_eq_none_iff, hprivate, hconfig, h]
  obtain ⟨fields', u', hroot', hu', _, hflag'⟩ := site.exists_declared henum honly.own
    (FieldSite.field?_eq_some (hfield (quotedHint text marked) rfl)) hquoted
  cases hclassVar : isGeneric "ClassVar" e with
  | true =>
    -- without quotes there is no such field
    obtain ⟨fields, hroot, hfields⟩ := site.exists_fields henum ht
    obtain rfl : fields = fields' :=
      Option.some.inj (congrArg TypeShape.properties (hroot.symm.trans hroot'))
    have hmem : site.fieldName ∈ fieldNames fields := isSome_field?_iff.1 (hu' ▸ rfl)
    obtain ⟨c, hc, hannotates⟩ := (hfields.mem_iff _).1 hmem
    by_cases hown : c = site.classWith e
    · exact honly.own (annotates_classWithout hclassVar (hown ▸ hannotates))
    · exact honly.inherited c hc hown hannotates
  | false =>
    -- the flags of the field differ
    obtain ⟨fields, u, hroot, hu, _, hflag⟩ := site.exists_declared henum honly.own
      (FieldSite.field?_eq_some (hfield e hclassVar)) ht
    obtain rfl : fields = fields' :=
      Option.some.inj (congrArg TypeShape.properties (hroot.symm.trans hroot'))
    obtain rfl : u = u' := Option.some.inj (hu.symm.trans hu')
    refine hmarks ⟨hclassVar, flag_eq_iff.1 (hflag.symm.trans (hflag'.trans ?_))⟩
    exact Bool.or_false _

end Fields

/-! ## Both -/

/-- In quotes an annotation binds a parameter as it does without, exactly if it has a type that reflects as
the whole annotation does and nothing but the shape of that type decides. In a class it leaves every type
as it is if no mark on it changes the field; and if the field is declared nowhere else, its class is
reflected alike only then. -/
theorem quotedHint_unchanged_iff {text : String} {e : Expr} (hread : readExpr text = .ok e)
    (marked : Bool) :
    (∀ (index : ClassIndex) (aliases : Aliases) (pathNames : List String) (name : String)
        (default : Option Expr),
      bindParameter index aliases pathNames ⟨name, some (quotedHint text marked)⟩ default =
          bindParameter index aliases pathNames ⟨name, some e⟩ default ↔
        ∃ hint inHint, MarkedHint.ofExpr (resolveAlias aliases (some e)) = .ok ⟨some hint, inHint⟩ ∧
          reflect index [] false hint = reflect index [] false e ∧
            ∀ t, reflect index [] false e = .ok t →
              BindsByShape pathNames name default hint inHint t) ∧
    ∀ site : FieldSite,
      (DeclaresUnmarked site e → ∀ (active : List String) (isOptional : Bool) (other : Expr),
        reflect (site.indexWith (quotedHint text marked)) active isOptional other =
          reflect (site.indexWith e) active isOptional other) ∧
      (site.classWithout.isEnum = false → IsOnlyDeclaration site e →
        ∀ (isOptional : Bool) (t : TypeShape),
          reflect (site.indexWith e) [] isOptional (.name site.owner) = .ok t →
            (reflect (site.indexWith (quotedHint text marked)) [] isOptional (.name site.owner) = .ok t ↔
              DeclaresUnmarked site e)) := by
  refine ⟨fun index aliases pathNames name default => bindParameter_quoted_iff hread, fun site => ?_⟩
  have halike (hmarks : DeclaresUnmarked site e) (active : List String) (isOptional : Bool)
      (other : Expr) : reflect (site.indexWith (quotedHint text marked)) active isOptional other =
        reflect (site.indexWith e) active isOptional other :=
    reflect_quotedField hread hmarks active isOptional other
  refine ⟨halike, fun henum honly isOptional t ht => ⟨fun hquoted => ?_, fun hmarks => ?_⟩⟩
  · by_contra hmarks
    exact reflect_quotedField_ne hmarks henum honly ht hquoted
  · exact (halike hmarks [] isOptional _).trans ht

/-- A number as the type of a parameter and of the only field of a class. -/
theorem quotedHint_unchanged_iff_of_int :
    let size : Expr := .name "int"
    let site : FieldSite := ⟨[], [], "Box", [], [], [], [], "size", none, nofun⟩
    let box : TypeShape := .object "Box" false [("size", .leaf "int" false)]
    readExpr "int" = .ok size ∧
      bindParameter ⟨[]⟩ [] ["id"] ⟨"size", some (quotedHint "int" false)⟩ none =
        bindParameter ⟨[]⟩ [] ["id"] ⟨"size", some size⟩ none ∧
      site.classWithout.isEnum = false ∧ IsOnlyDeclaration site size ∧
      reflect (site.indexWith size) [] false (.name "Box") = .ok box ∧
      reflect (site.indexWith (quotedHint "int" false)) [] false (.name "Box") = .ok box := by
  intro size site box
  have hread : readExpr "int" = .ok size :=
    readExpr_of_isPlainName ⟨by decide, by decide, by decide⟩
  have honly : IsOnlyDeclaration site size := by
    refine ⟨fun ⟨_, _, hmem, _⟩ => List.not_mem_nil hmem, fun c hc hne => ?_⟩
    rcases Relation.ReflTransGen.cases_head hc with rfl | ⟨b, hb, _⟩
    · exact absurd rfl hne
    · cases hb
  have hsize : reflect (site.indexWith size) ["Box"] false size = .ok (.leaf "int" false) :=
    reflect_unknown rfl rfl
  have hfields : classFields (site.indexWith size) ["Box"] ["Box"] (site.classWith size) =
      .ok [("size", .leaf "int" false)] := by
    have hdecls : (site.classWith size).fieldDecls = [⟨"size", size, false⟩] := by
      subst site size
      rfl
    refine classFields_of_ok rfl ?_
    rw [hdecls]
    exact foldlM_cons_of_ok (declareField_of_ok hsize []) []
  have hbox : reflect (site.indexWith size) [] false (.name "Box") = .ok box := by
    rw [reflect_class (c := site.classWith size) rfl rfl rfl (by decide)]
    exact congrArg (· >>= _) hfields
  obtain ⟨hparameter, hclass⟩ := quotedHint_unchanged_iff hread false
  refine ⟨hread, ?_, rfl, honly, hbox, ?_⟩
  · refine (hparameter ⟨[]⟩ [] ["id"] "size" none).2 ⟨size, none, rfl, rfl, fun t _ => ?_⟩
    exact ⟨fun _ _ _ => by decide, nofun, nofun, nofun⟩
  · exact ((hclass site).2 rfl honly false box hbox).2 (.inr (.inr (by decide)))

/-- A request that the framework supplies is a parameter of the query if its type stands in quotes. -/
theorem not_forall_quotedHint_unchanged :
    ¬ ∀ (index : ClassIndex) (aliases : Aliases) (pathNames : List String) (name text : String)
        (default : Option Expr) (e : Expr) (marked : Bool), readExpr text = .ok e →
      bindParameter index aliases pathNames ⟨name, some (quotedHint text marked)⟩ default =
        bindParameter index aliases pathNames ⟨name, some e⟩ default := by
  intro h
  have hread : readExpr "Request" = .ok (.name "Request") :=
    readExpr_of_isPlainName ⟨by decide, by decide, by decide⟩
  have hleaf : reflect ⟨[]⟩ [] false (.name "Request") = .ok (.leaf "Request" false) :=
    reflect_unknown rfl rfl
  obtain ⟨hint, inHint, hparts, _, hshape⟩ :=
    (bindParameter_quoted_iff hread).1 (h ⟨[]⟩ [] [] "request" "Request" none _ false hread)
  cases hparts
  exact (hshape _ hleaf).not_supplied rfl rfl List.not_mem_nil (by decide)

end RouteAtlas.Scan
