import RouteAtlas.Proofs.Reflect.FieldSite
import RouteAtlas.Proofs.Reflect.UnfoldedName
import RouteAtlas.Proofs.Scan.HintParts

/-!
# Aliases in place of their definitions

An alias is looked up where it is the whole annotation of a parameter or of what a handler returns, and
nowhere else: inside a generic or on a field of a class it is a name that reflection knows nothing of. So
the definition in its place changes nothing but printed texts exactly if the alias is the whole annotation,
or is not reached, or is defined as a leaf (`bindParameter_unfolds_iff`, `reflectReturned_unfolds_iff`,
`reflect_unfoldedOwner_iff`).
-/

namespace RouteAtlas.Scan

open RouteAtlas.Api RouteAtlas.Document RouteAtlas.Reflect RouteAtlas.Syntax RouteAtlas.Text

/-- A name of a marked annotation that is neither a class nor the absence of a value. -/
structure IsAlias (index : ClassIndex) (aliases : Aliases) (name : String) (definition : Expr) :
    Prop where
  bound : field? name aliases = some definition
  marked : isGeneric annotatedName definition = true
  printable : definition.isPrintable = true
  not_class : index.get? name = none
  not_null : isNullType (.name name) = false

/-- The parameter with nothing said about printed forms in its type. -/
def withoutTypeTexts (q : Parameter) : Parameter := { q with type := withoutTexts q.type }

section Parameters

variable {index : ClassIndex} {aliases : Aliases} {pathNames : List String} {name p : String}
variable {definition e e' hint hint' : Expr} {default : Option Expr} {marker : Option Marker}
variable {t t' : TypeShape} {isOptional : Bool} {q : Parameter}

/-- What an alias stands for is a definition of its name. -/
theorem IsAlias.isDefinition (h : IsAlias index aliases name definition) :
    IsDefinition name definition := by
  refine ⟨?_, h.printable, h.not_null⟩
  have hmarked := h.marked
  unfold isGeneric at hmarked
  split at hmarked
  · exact ⟨_, _, rfl⟩
  · cases hmarked

/-- A definition is no name that could be resolved further. -/
theorem IsAlias.resolveAlias_definition (h : IsAlias index aliases name definition) :
    resolveAlias aliases (some definition) = some definition := by
  obtain ⟨value, args, rfl⟩ := h.isDefinition.generic
  rfl

/-- The name of an alias is resolved to its definition. -/
theorem IsAlias.resolveAlias_name (h : IsAlias index aliases name definition) :
    resolveAlias aliases (some (.name name)) = some definition := by
  rw [resolveAlias, h.bound]
  rfl

/-- A type keeps its kind without its texts. -/
theorem kind_withoutTexts (t : TypeShape) : (withoutTexts t).kind = t.kind := by
  obtain ⟨text, isArray, isOptional, items, properties, unionTypes⟩ := t
  cases items <;> cases properties <;> cases unionTypes <;> rfl

/-- A type stays structured without its texts. -/
theorem isStructured_withoutTexts (t : TypeShape) : isStructured (withoutTexts t) = isStructured t := by
  have hitems : (withoutTexts t).items.any (·.kind == .object) = t.items.any (·.kind == .object) := by
    obtain ⟨text, isArray, isOptional, items, properties, unionTypes⟩ := t
    cases items with
    | none => rfl
    | some u => exact congrArg (· == TypeKind.object) (kind_withoutTexts u)
  rw [isStructured, isStructured, kind_withoutTexts, hitems]

/-- Printed forms have no part in where a value comes from. -/
theorem sourceOf_withoutTexts (pathNames : List String) (p : String) (hint : Option Expr)
    (marker : Option Marker) (t : TypeShape) :
    sourceOf pathNames p hint marker (withoutTexts t) = sourceOf pathNames p hint marker t := by
  unfold sourceOf
  rw [kind_withoutTexts, isStructured_withoutTexts]

/-- A parameter is bound without a look at texts. -/
theorem withoutTypeTexts_boundTo (pathNames : List String) (p : String) (hint : Option Expr)
    (marker : Option Marker) (t : TypeShape) :
    withoutTypeTexts (boundTo pathNames p hint marker t) =
      boundTo pathNames p hint marker (withoutTexts t) := by
  unfold withoutTypeTexts boundTo
  rw [sourceOf_withoutTexts]

/-- A parameter is flagged without a look at texts. -/
theorem withoutTypeTexts_flaggedTo (pathNames : List String) (p : String) (hint : Option Expr)
    (marker : Option Marker) (isOptional : Bool) (t : TypeShape) :
    withoutTypeTexts (flaggedTo pathNames p hint marker isOptional t) =
      flaggedTo pathNames p hint marker isOptional (withoutTexts t) := by
  have hflag (q : Parameter) : withoutTypeTexts (withTypeOptional isOptional q) =
      withTypeOptional isOptional (withoutTypeTexts q) := by
    obtain ⟨name, t, source, embed⟩ := q
    cases t
    rfl
  rw [flaggedTo, flaggedTo, hflag, withoutTypeTexts_boundTo]

/-- Two types of one flag bind alike, but for texts, if they are alike and their names give no different
sources. -/
theorem flaggedTo_sameButTexts_iff (ht : t.isOptional = false) (ht' : t'.isOptional = false) :
    withoutTypeTexts (flaggedTo pathNames p (some hint) marker isOptional t) =
        withoutTypeTexts (flaggedTo pathNames p (some hint') marker isOptional t') ↔
      SameButTexts t t' ∧
        sourceOf pathNames p (some hint) marker t = sourceOf pathNames p (some hint') marker t := by
  have hflag (u : TypeShape) (hu : u.isOptional = false) : (withoutTexts u).isOptional = false := by
    cases u
    exact hu
  rw [withoutTypeTexts_flaggedTo, withoutTypeTexts_flaggedTo, flaggedTo_inj (hflag t ht) (hflag t' ht'),
    boundTo_eq_iff, sourceOf_withoutTexts, sourceOf_withoutTexts]
  exact ⟨fun h => ⟨h.2.1, h.2.2.1⟩, fun h => ⟨rfl, h.1, h.2, fun _ => rfl⟩⟩

/-- Apart from the name itself, the replacement leaves the name of a type alone. -/
theorem simpleName_unfolds (h : Unfolds name definition e e') :
    e = .name name ∧ e' = definition ∨ e'.simpleName = e.simpleName := by
  cases h with
  | here => exact .inl ⟨rfl, rfl⟩
  | argument => exact .inr rfl
  | arguments => exact .inr rfl
  | left => exact .inr rfl
  | right => exact .inr rfl

/-- Unfolding a name changes no marker. -/
theorem markerOf_unfolds (hdef : IsDefinition name definition) (h : Unfolds name definition e e') :
    Marker.ofExpr? e' = Marker.ofExpr? e := by
  cases h with
  | here =>
    obtain ⟨value, args, rfl⟩ := hdef.generic
    rfl
  | argument => rfl
  | arguments => rfl
  | left => rfl
  | right => rfl

/-- The parts of an annotation in which an occurrence is replaced: the marker stays, and so does the name of
the type, unless the type is the occurrence. -/
theorem exists_markedHint_unfolds (hdef : IsDefinition name definition)
    (h : Unfolds name definition e e') (hne : e ≠ .name name) :
    ∃ hint hint' marker, MarkedHint.ofExpr (some e) = .ok ⟨some hint, marker⟩ ∧
      MarkedHint.ofExpr (some e') = .ok ⟨some hint', marker⟩ ∧
        (hint = .name name ∧ hint' = definition ∨ hint'.simpleName = hint.simpleName) := by
  cases h with
  | here => exact absurd rfl hne
  | @argument value arg arg' h =>
    by_cases hvalue : value.simpleName = annotatedName
    · obtain ⟨hargs, hargs'⟩ := h.subscriptArgs_eq hdef
      exact ⟨arg, arg', _, markedHint_of_args hvalue hargs, markedHint_of_args hvalue hargs',
        simpleName_unfolds h⟩
    · exact ⟨_, _, none, if_neg hvalue, if_neg hvalue, .inr rfl⟩
  | @arguments value before after arg arg' h =>
    by_cases hvalue : value.simpleName = annotatedName
    · cases before with
      | nil =>
        exact ⟨arg, arg', _, markedHint_of_args hvalue rfl, markedHint_of_args hvalue rfl,
          simpleName_unfolds h⟩
      | cons type before =>
        have hmarkers : (before ++ arg' :: after).filterMap Marker.ofExpr? =
            (before ++ arg :: after).filterMap Marker.ofExpr? := by
          simp only [List.filterMap_append, List.filterMap_cons, markerOf_unfolds hdef h]
        refine ⟨type, type, ((before ++ arg :: after).filterMap Marker.ofExpr?).getLast?,
          markedHint_of_args hvalue rfl, ?_, .inr rfl⟩
        rw [← hmarkers]
        exact markedHint_of_args hvalue rfl
    · exact ⟨_, _, none, if_neg hvalue, if_neg hvalue, .inr rfl⟩
  | left => exact ⟨_, _, none, rfl, rfl, .inr rfl⟩
  | right => exact ⟨_, _, none, rfl, rfl, .inr rfl⟩

/-- Only a name is looked up among the aliases. -/
theorem resolveAlias_unfolds (aliases : Aliases) (h : Unfolds name definition e e')
    (hne : e ≠ .name name) :
    resolveAlias aliases (some e) = some e ∧ resolveAlias aliases (some e') = some e' := by
  cases h with
  | here => exact absurd rfl hne
  | argument => exact ⟨rfl, rfl⟩
  | arguments => exact ⟨rfl, rfl⟩
  | left => exact ⟨rfl, rfl⟩
  | right => exact ⟨rfl, rfl⟩

/-- A name unfolds to its definition. -/
theorem eq_definition_of_unfolds_name (h : Unfolds name definition (.name name) e') :
    e' = definition := by
  cases h
  rfl

/-- If the type of the parameter is the replaced name, and nothing but its name gives the source, the name
is not one of a type that the framework supplies. -/
def KeepsSource (name : String) (definition e e' : Expr) (pathNames : List String) (p : String)
    (default : Option Expr) : Prop :=
  MarkedHint.ofExpr (some e) = .ok ⟨some (.name name), none⟩ →
    MarkedHint.ofExpr (some e') = .ok ⟨some definition, none⟩ → default.bind Marker.ofExpr? = none →
      p ∉ pathNames → name ∉ suppliedNames

/-- A type of one name gives the source that a type of the other name gives, for these parts. -/
theorem sourceOf_unfolds_iff (pathNames : List String) (p : String) (default : Option Expr)
    (t : TypeShape) (halias : IsAlias index aliases name definition)
    (he : MarkedHint.ofExpr (some e) = .ok ⟨some hint, marker⟩)
    (he' : MarkedHint.ofExpr (some e') = .ok ⟨some hint', marker⟩)
    (hname : hint = .name name ∧ hint' = definition ∨ hint'.simpleName = hint.simpleName) :
    sourceOf pathNames p (some hint) (marker.or (default.bind Marker.ofExpr?)) t =
        sourceOf pathNames p (some hint') (marker.or (default.bind Marker.ofExpr?)) t ↔
      KeepsSource name definition e e' pathNames p default := by
  have hdefinition : definition.simpleName ∉ suppliedNames := by
    obtain ⟨value, args, rfl⟩ := halias.isDefinition.generic
    have hvalue : value.simpleName = annotatedName := beq_iff_eq.1 halias.marked
    rw [Expr.simpleName, hvalue]
    decide
  rcases hname with ⟨rfl, rfl⟩ | hname
  · -- the definition gives the source as if there were no name
    have hnone : sourceOf pathNames p (some hint') (marker.or (default.bind Marker.ofExpr?)) t =
        sourceOf pathNames p none (marker.or (default.bind Marker.ofExpr?)) t :=
      sourceOf_some_eq_iff.2 fun _ _ => hdefinition
    rw [hnone, sourceOf_some_eq_iff, Option.or_eq_none_iff]
    constructor
    · intro h hparts _ hdefault
      cases he.symm.trans hparts
      exact h ⟨rfl, hdefault⟩
    · rintro h ⟨rfl, hdefault⟩
      exact h he he' hdefault
  · refine iff_of_true ?_ ?_
    · unfold sourceOf
      simp only [Option.any_some, hname]
    · intro hparts hparts' _ _
      cases he.symm.trans hparts
      cases he'.symm.trans hparts'
      exact fun hsupplied => hdefinition (hname ▸ hsupplied)

/-- A parameter whose annotation has the definition in place of the alias is the same but for printed
texts, exactly if the alias is the whole annotation, or reflection does not come to it or finds a leaf in
the definition, and its name does not give the source. -/
theorem bindParameter_unfolds_iff (halias : IsAlias index aliases name definition)
    (h : Unfolds name definition e e')
    (hq : bindParameter index aliases pathNames ⟨p, some e⟩ default = .ok q) :
    (∃ q', bindParameter index aliases pathNames ⟨p, some e'⟩ default = .ok q' ∧
        withoutTypeTexts q' = withoutTypeTexts q) ↔
      e = .name name ∨ (ReadsAt name definition e e' → IsLeafIn index [] definition) ∧
        KeepsSource name definition e e' pathNames p default := by
  by_cases hne : e = .name name
  · subst hne
    obtain rfl := eq_definition_of_unfolds_name h
    refine iff_of_true ⟨q, ?_, rfl⟩ (.inl rfl)
    rw [bindParameter_eq, halias.resolveAlias_name] at hq
    rw [bindParameter_eq, halias.resolveAlias_definition]
    exact hq
  obtain ⟨hplain, hplain'⟩ := resolveAlias_unfolds aliases h hne
  obtain ⟨hint, hint', marker, he, he', hname⟩ := exists_markedHint_unfolds halias.isDefinition h hne
  rw [bindParameter_of_markedHint (hplain ▸ he), bindMarked_eq_map, reflect_of_markedHint he] at hq
  rw [bindParameter_of_markedHint (hplain' ▸ he'), bindMarked_eq_map, reflect_of_markedHint he',
    or_iff_right hne]
  have hsource (t : TypeShape) := sourceOf_unfolds_iff pathNames p default t halias he he' hname
  cases ht : reflect index [] false e with
  | error fault =>
    rw [ht] at hq
    cases hq
  | ok t =>
    rw [ht] at hq
    obtain rfl := Except.ok.inj hq
    constructor
    · rintro ⟨q', hq', hsame⟩
      cases ht' : reflect index [] false e' with
      | error fault =>
        rw [ht'] at hq'
        cases hq'
      | ok t' =>
        rw [ht'] at hq'
        obtain rfl := Except.ok.inj hq'
        obtain ⟨hshape, hsources⟩ := (flaggedTo_sameButTexts_iff (isOptional_of_reflect ht)
          (isOptional_of_reflect ht')).1 hsame.symm
        exact ⟨fun hreads => isLeafIn_of_readsAt halias.not_class hreads ht ht' hshape,
          (hsource t).1 hsources⟩
    · rintro ⟨hleaf, hkeeps⟩
      have hmatch := reflect_unfolds halias.isDefinition halias.not_class h hleaf false
      rw [ht] at hmatch
      generalize ht' : reflect index [] false e' = outcome at hmatch
      cases hmatch with
      | @ok _ t' hshape =>
        refine ⟨_, rfl, ((flaggedTo_sameButTexts_iff (isOptional_of_reflect ht)
          (isOptional_of_reflect ht')).2 ⟨hshape, (hsource t).2 hkeeps⟩).symm⟩

/-- What a handler returns is the same but for printed texts, exactly if the alias is the whole annotation,
or reflection does not come to it or finds a leaf in the definition. -/
theorem reflectReturned_unfolds_iff (halias : IsAlias index aliases name definition)
    (h : Unfolds name definition e e')
    (ht : reflectHint index isOptional (resolveAlias aliases (some e)) = .ok t) :
    (∃ t', reflectHint index isOptional (resolveAlias aliases (some e')) = .ok t' ∧ SameButTexts t t') ↔
      e = .name name ∨ (ReadsAt name definition e e' → IsLeafIn index [] definition) := by
  by_cases hne : e = .name name
  · subst hne
    obtain rfl := eq_definition_of_unfolds_name h
    rw [halias.resolveAlias_name] at ht
    rw [halias.resolveAlias_definition]
    exact iff_of_true ⟨t, ht, rfl⟩ (.inl rfl)
  obtain ⟨hplain, hplain'⟩ := resolveAlias_unfolds aliases h hne
  rw [hplain] at ht
  rw [hplain', or_iff_right hne]
  have ht : reflect index [] isOptional e = .ok t := ht
  constructor
  · rintro ⟨t', ht', hsame⟩ hreads
    exact isLeafIn_of_readsAt halias.not_class hreads ht ht' hsame
  · intro hleaf
    have hmatch := reflect_unfolds halias.isDefinition halias.not_class h hleaf isOptional
    rw [ht] at hmatch
    generalize ht' : reflect index [] isOptional e' = outcome at hmatch
    cases hmatch with
    | @ok _ t' hsame => exact ⟨t', ht', hsame⟩

end Parameters

/-! ## Fields -/

section Fields

variable {site : FieldSite} {name : String} {definition e e' : Expr} {isOptional : Bool}
variable {root : TypeShape}

/-- The replacement leaves the marks of a field alone. -/
theorem fieldMarks_unfolds (hmarked : isGeneric annotatedName definition = true)
    (h : Unfolds name definition e e') :
    ∀ mark ∈ fieldMarks, isGeneric mark e' = isGeneric mark e := by
  intro mark hmark
  cases h with
  | here =>
    refine Bool.eq_false_iff.2 fun hgeneric => ?_
    rw [isGeneric_unique hgeneric hmarked] at hmark
    exact absurd hmark (by decide)
  | argument => rfl
  | arguments => rfl
  | left => rfl
  | right => rfl

/-- Unfolding a name in its annotation keeps a field alike. -/
theorem rel_field?_unfolds (hdef : IsDefinition name definition)
    (hmarked : isGeneric annotatedName definition = true)
    (hname : (site.indexWith e').get? name = none) (h : Unfolds name definition e e')
    {outer : List String} (hleaf : site.field? e = none ∨
      (ReadsAt name definition e e' → IsLeafIn (site.indexWith e') outer definition)) :
    Option.Rel (FieldReadsAlike SameButTexts outer (site.indexWith e')) (site.field? e)
      (site.field? e') := by
  refine FieldSite.rel_field? (fieldMarks_unfolds hmarked h) fun hfield active houter isOptional => ?_
  have hleaf := hleaf.resolve_left hfield
  exact reflect_unfolds hdef hname h (fun hreads => (hleaf hreads).of_subset houter) isOptional

/-- If the annotation declares no field, or reflection does not come to the alias, or finds a leaf in its
definition, every type is the same but for printed texts. -/
theorem reflect_unfoldedField (hdef : IsDefinition name definition)
    (hmarked : isGeneric annotatedName definition = true)
    (hname : (site.indexWith e).get? name = none) (h : Unfolds name definition e e')
    (hleaf : site.field? e = none ∨
      (ReadsAt name definition e e' → IsLeafIn (site.indexWith e') [] definition))
    (active : List String) (isOptional : Bool) (other : Expr) :
    Matches SameButTexts (reflect (site.indexWith e) active isOptional other)
      (reflect (site.indexWith e') active isOptional other) :=
  FieldSite.reflect_alike isLikeness_sameButTexts
    (rel_field?_unfolds hdef hmarked ((FieldSite.get?_eq_none_iff e e').1 hname) h hleaf)
    active isOptional other

/-- The class that declares the field is the same but for printed texts exactly if the annotation declares
no field, or reflection does not come to the alias, or finds a leaf in its definition while the class is
being expanded. -/
theorem reflect_unfoldedOwner_iff (hdef : IsDefinition name definition)
    (hmarked : isGeneric annotatedName definition = true)
    (hname : (site.indexWith e).get? name = none) (h : Unfolds name definition e e')
    (henum : site.classWithout.isEnum = false) (honly : ¬ site.classWithout.Annotates site.fieldName)
    (hroot : reflect (site.indexWith e) [] isOptional (.name site.owner) = .ok root) :
    (∃ root', reflect (site.indexWith e') [] isOptional (.name site.owner) = .ok root' ∧
        SameButTexts root root') ↔
      site.field? e = none ∨
        (ReadsAt name definition e e' → IsLeafIn (site.indexWith e') [site.owner] definition) := by
  have hmarks := fieldMarks_unfolds hmarked h
  constructor
  · rintro ⟨root', hroot', hsame⟩
    refine or_iff_not_imp_left.2 fun hfield hreads => ?_
    have hfield' : site.field? e' ≠ none := mt (FieldSite.field?_eq_none_congr hmarks).1 hfield
    obtain ⟨fields, t, rfl, hfound, ht, _⟩ := FieldSite.exists_declared henum honly
      (FieldSite.field?_eq_some hfield) hroot
    obtain ⟨fields', t', rfl, hfound', ht', _⟩ := FieldSite.exists_declared henum honly
      (FieldSite.field?_eq_some hfield') hroot'
    have hfields : fieldsWithoutTexts fields = fieldsWithoutTexts fields' :=
      Option.some.inj (congrArg TypeShape.properties hsame)
    have hshape : SameButTexts t t' := by
      have hfound'' := field?_fieldsWithoutTexts site.fieldName fields'
      rw [← hfields, field?_fieldsWithoutTexts, hfound, hfound'] at hfound''
      exact Option.some.inj hfound''
    unfold FieldDecl.Gives at ht ht'
    dsimp only at ht ht'
    rw [hmarks "Required" (by decide), hmarks "NotRequired" (by decide)] at ht'
    exact isLeafIn_of_readsAt hname hreads ht ht' hshape
  · intro hleaf
    have hname' := (FieldSite.get?_eq_none_iff e e').1 hname
    have hmatch := FieldSite.reflect_owner_alike isLikeness_sameButTexts henum
      (rel_field?_unfolds hdef hmarked hname' h hleaf) isOptional
    rw [hroot] at hmatch
    generalize reflect (site.indexWith e') [] isOptional (.name site.owner) = outcome at hmatch
    cases hmatch with
    | @ok _ root' hsame => exact ⟨root', rfl, hsame⟩

end Fields

/-! ## Controllers -/

/-- The endpoint with nothing said about printed forms in its types. -/
def endpointWithoutTexts (x : Endpoint) : Endpoint :=
  { x with parameters := x.parameters.map withoutTypeTexts, returnType := withoutTexts x.returnType }

/-- The controller with nothing said about printed forms in its types. -/
def controllerWithoutTexts (c : Controller) : Controller :=
  { c with endpoints := c.endpoints.map endpointWithoutTexts }

section Controllers

variable {index index' : ClassIndex}

/-- Lists that look the same one by one look the same. -/
theorem map_eq_of_forall₂ {α β : Type} {view : α → β} {xs ys : List α}
    (h : List.Forall₂ (fun x y => view x = view y) xs ys) : xs.map view = ys.map view := by
  induction h with
  | nil => rfl
  | cons hxy _ ih => rw [List.map_cons, List.map_cons, hxy, ih]

/-- Hints are reflected alike where annotations are. -/
theorem matches_reflectHint (h : ∀ (isOptional : Bool) (e : Expr),
      Matches SameButTexts (reflect index [] isOptional e) (reflect index' [] isOptional e))
    (isOptional : Bool) (hint : Option Expr) :
    Matches SameButTexts (reflectHint index isOptional hint) (reflectHint index' isOptional hint) := by
  cases hint with
  | none => exact .ok rfl
  | some e => exact h isOptional e

/-- Parameters are bound alike where annotations are reflected alike. -/
theorem matches_bindParameter (h : ∀ (isOptional : Bool) (e : Expr),
      Matches SameButTexts (reflect index [] isOptional e) (reflect index' [] isOptional e))
    (aliases : Aliases) (pathNames : List String) (p : Param Expr) (default : Option Expr) :
    Matches (fun q q' => withoutTypeTexts q = withoutTypeTexts q')
      (bindParameter index aliases pathNames p default)
      (bindParameter index' aliases pathNames p default) := by
  rw [bindParameter_eq, bindParameter_eq]
  refine (matches_self (fun _ => rfl) _).bind fun marked marked' hmarked => ?_
  obtain rfl : marked = marked' := hmarked
  unfold bindMarked
  rw [map_eq_pure_bind, map_eq_pure_bind]
  refine (matches_reflectHint h _ _).mapError.map fun t t' ht => ?_
  rw [withoutTypeTexts_boundTo, withoutTypeTexts_boundTo, show withoutTexts t = withoutTexts t' from ht]

/-- Endpoints are alike where annotations are reflected alike. -/
theorem matches_endpointOf (h : ∀ (isOptional : Bool) (e : Expr),
      Matches SameButTexts (reflect index [] isOptional e) (reflect index' [] isOptional e))
    (aliases : Aliases) (f : FunctionDecl) (d : RouteDecorator) :
    Matches (fun x x' => endpointWithoutTexts x = endpointWithoutTexts x')
      (endpointOf index aliases f d) (endpointOf index' aliases f d) := by
  unfold endpointOf
  refine (matches_mapM (List.forall₂_same.2 fun p _ =>
    matches_bindParameter h aliases _ p.1 p.2)).bind fun parameters parameters' hparameters => ?_
  refine (matches_reflectHint h _ _).mapError.map fun t t' ht => ?_
  simp only [endpointWithoutTexts, map_eq_of_forall₂ hparameters]
  rw [show withoutTexts t = withoutTexts t' from ht]

/-- Where all annotations reflect alike, the controllers are the same but for printed texts. -/
theorem matches_controllerOf (h : ∀ (isOptional : Bool) (e : Expr),
      Matches SameButTexts (reflect index [] isOptional e) (reflect index' [] isOptional e))
    (aliases : Aliases) (mounts : List (RouterKey × Mount)) (r : RouterDecl) :
    Matches (fun c c' => controllerWithoutTexts c = controllerWithoutTexts c')
      (controllerOf index aliases mounts r) (controllerOf index' aliases mounts r) := by
  unfold controllerOf
  refine (matches_mapM (List.forall₂_same.2 fun (handler : FunctionDecl × RouteDecorator) _ =>
    matches_endpointOf h aliases handler.1 handler.2)).map fun endpoints endpoints' hendpoints => ?_
  simp only [controllerWithoutTexts, map_eq_of_forall₂ hendpoints]

end Controllers

/-! ## All places -/

/-- With the definition in place of the alias, a parameter and what a handler returns are the same but for
printed texts exactly if the alias is the whole annotation, or reflection does not come to it or finds a
leaf in the definition; of a parameter the name of the alias may also give the source. On a field, where the
alias is never looked up, every controller is the same unless reflection comes to the alias and finds more
than a leaf, and then the class that declares the field differs. -/
theorem unfoldedAlias_sameButTexts_iff {name : String} {definition e e' : Expr}
    (h : Unfolds name definition e e') :
    (∀ (index : ClassIndex) (aliases : Aliases), IsAlias index aliases name definition →
      (∀ (pathNames : List String) (p : String) (default : Option Expr) (q : Parameter),
        bindParameter index aliases pathNames ⟨p, some e⟩ default = .ok q →
          ((∃ q', bindParameter index aliases pathNames ⟨p, some e'⟩ default = .ok q' ∧
              withoutTypeTexts q' = withoutTypeTexts q) ↔
            e = .name name ∨ (ReadsAt name definition e e' → IsLeafIn index [] definition) ∧
              KeepsSource name definition e e' pathNames p default)) ∧
      ∀ (isOptional : Bool) (t : TypeShape),
        reflectHint index isOptional (resolveAlias aliases (some e)) = .ok t →
          ((∃ t', reflectHint index isOptional (resolveAlias aliases (some e')) = .ok t' ∧
              SameButTexts t t') ↔
            e = .name name ∨ (ReadsAt name definition e e' → IsLeafIn index [] definition))) ∧
    ∀ (site : FieldSite) (aliases : Aliases), IsAlias (site.indexWith e) aliases name definition →
      (site.field? e = none ∨
          (ReadsAt name definition e e' → IsLeafIn (site.indexWith e') [] definition) →
        ∀ (mounts : List (RouterKey × Mount)) (r : RouterDecl),
          controllerWithoutTexts <$> controllerOf (site.indexWith e) aliases mounts r =
            controllerWithoutTexts <$> controllerOf (site.indexWith e') aliases mounts r) ∧
      (site.classWithout.isEnum = false → ¬ site.classWithout.Annotates site.fieldName →
        ∀ (isOptional : Bool) (root : TypeShape),
          reflect (site.indexWith e) [] isOptional (.name site.owner) = .ok root →
            ((∃ root', reflect (site.indexWith e') [] isOptional (.name site.owner) = .ok root' ∧
                SameButTexts root root') ↔
              site.field? e = none ∨
                (ReadsAt name definition e e' →
                  IsLeafIn (site.indexWith e') [site.owner] definition))) := by
  refine ⟨fun index aliases halias => ⟨?_, ?_⟩, fun site aliases halias => ⟨?_, ?_⟩⟩
  · intro pathNames p default q hq
    exact bindParameter_unfolds_iff halias h hq
  · intro isOptional t ht
    exact reflectReturned_unfolds_iff halias h ht
  · intro hleaf mounts r
    refine matches_map_eq_iff.1 (matches_controllerOf (fun isOptional other => ?_) aliases mounts r)
    exact reflect_unfoldedField halias.isDefinition halias.marked halias.not_class h hleaf [] isOptional
      other
  · intro henum honly isOptional root hroot
    exact reflect_unfoldedOwner_iff halias.isDefinition halias.marked halias.not_class h henum honly
      hroot

/-- An alias of the integers in a list, which is a parameter, what a handler returns, and the type of a
field. -/
theorem unfoldedAlias_sameButTexts_iff_of_list :
    let definition : Expr := .subscript (.name "Annotated")
      (.tuple [.name "int", .constant (.str "key" false)])
    let ids : Expr := .subscript (.name "list") (.name "Id")
    let ids' : Expr := .subscript (.name "list") definition
    let aliases : Aliases := [("Id", definition)]
    let site : FieldSite := ⟨[], [], "Box", [], [], [], [], "ids", none, nofun⟩
    let shape : TypeShape := .array "list[Id]" false (.leaf "Id" false)
    let box : TypeShape := .object "Box" false [("ids", shape)]
    Unfolds "Id" definition ids ids' ∧ IsAlias (site.indexWith ids) aliases "Id" definition ∧
      bindParameter (site.indexWith ids) aliases [] ⟨"ids", some ids⟩ none =
        .ok ⟨"ids", shape, .query, false⟩ ∧
      (∃ q', bindParameter (site.indexWith ids) aliases [] ⟨"ids", some ids'⟩ none = .ok q' ∧
        withoutTypeTexts q' = withoutTypeTexts ⟨"ids", shape, .query, false⟩) ∧
      reflectHint (site.indexWith ids) false (resolveAlias aliases (some ids)) = .ok shape ∧
      (∃ t', reflectHint (site.indexWith ids) false (resolveAlias aliases (some ids')) = .ok t' ∧
        SameButTexts shape t') ∧
      reflect (site.indexWith ids) [] false (.name "Box") = .ok box ∧
      ∃ box', reflect (site.indexWith ids') [] false (.name "Box") = .ok box' ∧
        SameButTexts box box' := by
  intro definition ids ids' aliases site shape box
  have hunfolds : Unfolds "Id" definition ids ids' := .argument (.name "list") .here
  have halias : IsAlias (site.indexWith ids) aliases "Id" definition :=
    ⟨rfl, rfl, rfl, rfl, rfl⟩
  have hleaf (index : ClassIndex) (active : List String) (hint : index.get? "int" = none) :
      IsLeafIn index active definition := by
    refine ⟨"int", ?_⟩
    rw [reflect_wrapped rfl]
    exact reflect_name_of_get?_none hint false
  have hids (active : List String) : reflect (site.indexWith ids) active false ids = .ok shape := by
    rw [reflect_array rfl, reflect_name_of_get?_none rfl]
    rfl
  have hbound : bindParameter (site.indexWith ids) aliases [] ⟨"ids", some ids⟩ none =
      .ok ⟨"ids", shape, .query, false⟩ := by
    have hplain : IsPlainHint aliases ids := ⟨rfl, rfl⟩
    rw [bindParameter_of_markedHint hplain.markedHint, bindMarked_eq_map, hids]
    rfl
  have hbox : reflect (site.indexWith ids) [] false (.name "Box") = .ok box := by
    have hdecls : (site.classWith ids).fieldDecls = [⟨"ids", ids, false⟩] := by
      subst site ids
      rfl
    have hfields : classFields (site.indexWith ids) ["Box"] ["Box"] (site.classWith ids) =
        .ok [("ids", shape)] := by
      refine classFields_of_ok rfl ?_
      rw [hdecls]
      exact foldlM_cons_of_ok (declareField_of_ok (hids ["Box"]) []) []
    rw [reflect_class (c := site.classWith ids) rfl rfl rfl (by decide)]
    exact congrArg (· >>= _) hfields
  have honly : ¬ site.classWithout.Annotates site.fieldName :=
    fun ⟨_, _, hmem, _⟩ => List.not_mem_nil hmem
  obtain ⟨hhandler, hfield⟩ := unfoldedAlias_sameButTexts_iff hunfolds
  obtain ⟨hparameter, hreturned⟩ := hhandler (site.indexWith ids) aliases halias
  refine ⟨hunfolds, halias, hbound, ?_, hids [], ?_, hbox, ?_⟩
  · refine (hparameter [] "ids" none _ hbound).2 (.inr ⟨fun _ => hleaf _ [] rfl, ?_⟩)
    exact fun _ _ _ _ => by decide
  · exact (hreturned false shape (hids [])).2 (.inr fun _ => hleaf _ [] rfl)
  · exact ((hfield site aliases halias).2 rfl honly false box hbox).2 (.inr fun _ => hleaf _ _ rfl)

/-- A list of an alias of a class is a list of names that come from the query, and with the definition in
its place it is a list of objects from the body. -/
theorem not_forall_unfoldedAlias_sameButTexts :
    ¬ ∀ (index : ClassIndex) (aliases : Aliases) (name : String) (definition e e' : Expr)
        (pathNames : List String) (p : String) (default : Option Expr) (q : Parameter),
      IsAlias index aliases name definition → Unfolds name definition e e' →
        bindParameter index aliases pathNames ⟨p, some e⟩ default = .ok q →
          ∃ q', bindParameter index aliases pathNames ⟨p, some e'⟩ default = .ok q' ∧
            withoutTypeTexts q' = withoutTypeTexts q := by
  intro h
  let user : ClassDecl := ⟨"User", [], [], []⟩
  let definition : Expr := .subscript (.name "Annotated")
    (.tuple [.name "User", .constant (.str "owner" false)])
  let owners : Expr := .subscript (.name "list") (.name "Owner")
  have halias : IsAlias ⟨[user]⟩ [("Owner", definition)] "Owner" definition := ⟨rfl, rfl, rfl, rfl, rfl⟩
  have hunfolds : Unfolds "Owner" definition owners (.subscript (.name "list") definition) :=
    .argument (.name "list") .here
  have howners : reflect ⟨[user]⟩ [] false owners =
      .ok (.array "list[Owner]" false (.leaf "Owner" false)) := by
    rw [reflect_array rfl, reflect_name_of_get?_none rfl]
    rfl
  have hbound : bindParameter ⟨[user]⟩ [("Owner", definition)] [] ⟨"owners", some owners⟩ none =
      .ok ⟨"owners", .array "list[Owner]" false (.leaf "Owner" false), .query, false⟩ := by
    have hplain : IsPlainHint [("Owner", definition)] owners := ⟨rfl, rfl⟩
    rw [bindParameter_of_markedHint hplain.markedHint, bindMarked_eq_map, howners]
    rfl
  have hsame := (bindParameter_unfolds_iff halias hunfolds hbound).1
    (h _ _ _ _ _ _ _ _ _ _ halias hunfolds hbound)
  obtain hname | ⟨hleaf, _⟩ := hsame
  · have hname : Expr.subscript _ _ = .name "Owner" := hname
    cases hname
  · obtain ⟨text, htext⟩ := hleaf (.item rfl rfl .here)
    have huser : reflect ⟨[user]⟩ [] false definition = .ok (.object "User" false []) := by
      have hfields : classFields ⟨[user]⟩ ["User"] ["User"] user = .ok [] := classFields_of_ok rfl rfl
      rw [reflect_wrapped rfl, reflect_class (c := user) rfl rfl rfl (by decide)]
      exact congrArg (· >>= _) hfields
    cases huser.symm.trans htext

end RouteAtlas.Scan
