import RouteAtlas.Proofs.Reflect.Equations
import RouteAtlas.Proofs.Scan.ScanRun

/-!
# Parameters by the parts of their annotations

A parameter is bound in two steps: its annotation is taken apart into the type and the marker
(`bindParameter_eq`), and then these two and the default decide (`bindMarked`). The flag of the type has
no part in where the value comes from.
-/

namespace RouteAtlas.Scan

open RouteAtlas.Api RouteAtlas.Reflect RouteAtlas.Syntax

/-! ## Two steps -/

/-- The parameter with this type, from the type in its annotation and its marker. -/
def boundTo (pathNames : List String) (name : String) (hint : Option Expr) (marker : Option Marker)
    (t : TypeShape) : Parameter :=
  let source := sourceOf pathNames name hint marker t
  { name, type := t, source, embed := source == .body && marker.any asksToEmbed }

/-- The binding of a parameter whose annotation has been taken apart. -/
def bindMarked (index : ClassIndex) (pathNames : List String) (name : String) (marked : MarkedHint)
    (default : Option Expr) : Except HandlerFault Parameter :=
  let inDefault := default.bind Marker.ofExpr?
  boundTo pathNames name marked.type (marked.marker.or inDefault) <$>
    (reflectHint index (isOptionalBinding marked.marker inDefault default) marked.type).mapError
      .reflection

section Parts

variable {index : ClassIndex} {aliases : Aliases} {pathNames : List String} {name : String}
variable {hint default : Option Expr} {marked : MarkedHint}

/-- A parameter is bound by its annotation and the marker in it. -/
theorem bindParameter_eq (index : ClassIndex) (aliases : Aliases) (pathNames : List String)
    (name : String) (hint default : Option Expr) :
    bindParameter index aliases pathNames ⟨name, hint⟩ default =
      MarkedHint.ofExpr (resolveAlias aliases hint) >>= fun marked =>
        bindMarked index pathNames name marked default := by
  unfold bindParameter bindMarked
  refine congrArg (_ >>= ·) (funext fun marked => ?_)
  dsimp only
  rw [map_eq_pure_bind]
  rfl

/-- A parameter with a known annotation and marker is bound by them. -/
theorem bindParameter_of_markedHint
    (h : MarkedHint.ofExpr (resolveAlias aliases hint) = .ok marked) :
    bindParameter index aliases pathNames ⟨name, hint⟩ default =
      bindMarked index pathNames name marked default := by
  rw [bindParameter_eq, h]
  rfl

/-- An annotation that is taken as it stands: it is no alias, and it has no metadata. -/
structure IsPlainHint (aliases : Aliases) (e : Expr) : Prop where
  not_alias : resolveAlias aliases (some e) = some e
  not_annotated : isGeneric annotatedName e = false

/-- A plain annotation has no marker. -/
theorem IsPlainHint.markedHint {e : Expr} (h : IsPlainHint aliases e) :
    MarkedHint.ofExpr (resolveAlias aliases (some e)) = .ok ⟨some e, none⟩ := by
  rw [h.not_alias]
  unfold MarkedHint.ofExpr
  split
  · next value index he =>
    have hname := h.not_annotated
    rw [Option.some.inj he, isGeneric, beq_eq_false_iff_ne] at hname
    rw [if_neg hname]
  · rfl

/-- Of the markers in the metadata the last one counts. -/
theorem markedHint_of_args {value args type : Expr} {metadata : List Expr}
    (hvalue : value.simpleName = annotatedName) (hargs : Expr.subscriptArgs args = type :: metadata) :
    MarkedHint.ofExpr (some (.subscript value args)) =
      .ok ⟨some type, (metadata.filterMap Marker.ofExpr?).getLast?⟩ := by
  unfold MarkedHint.ofExpr
  dsimp only
  rw [if_pos hvalue, hargs]

/-- The last marker behind an annotated type counts. -/
theorem markedHint_of_annotated {value type : Expr} {metadata : List Expr}
    (hvalue : value.simpleName = annotatedName) :
    MarkedHint.ofExpr (resolveAlias aliases (some (.subscript value (.tuple (type :: metadata))))) =
      .ok ⟨some type, (metadata.filterMap Marker.ofExpr?).getLast?⟩ :=
  markedHint_of_args hvalue rfl

/-- The type in an annotation reflects as the whole annotation does. -/
theorem reflect_of_markedHint {e type : Expr} {marker : Option Marker}
    (h : MarkedHint.ofExpr (some e) = .ok ⟨some type, marker⟩) (active : List String)
    (isOptional : Bool) : reflect index active isOptional type = reflect index active isOptional e := by
  unfold MarkedHint.ofExpr at h
  split at h
  · next value args he =>
    obtain rfl := Option.some.inj he
    split at h
    · next hvalue =>
      split at h
      · cases h
      · next first metadata hargs =>
        cases h
        have hwrapped : TypeForm.ofExpr (.subscript value args) = .wrapped type := by
          rw [TypeForm.ofExpr, hvalue, hargs]
          rfl
        exact (reflect_wrapped hwrapped).symm
    · cases h
      rfl
  · cases h
    rfl

end Parts

/-! ## The flag of the type -/

/-- The parameter with this flag at its type. -/
def withTypeOptional (isOptional : Bool) (q : Parameter) : Parameter :=
  { q with type := withOptional isOptional q.type }

/-- A flag changes nothing exactly if it is the flag already. -/
theorem withTypeOptional_eq_self_iff {isOptional : Bool} {q : Parameter} :
    withTypeOptional isOptional q = q ↔ q.type.isOptional = isOptional := by
  constructor
  · intro h
    exact (congrArg (·.type.isOptional) h).symm
  · rintro rfl
    obtain ⟨name, ⟨text, isArray, isOptional, items, properties, unionTypes⟩, source, embed⟩ := q
    rfl

/-- The flag goes to the type of the parameter and nowhere else. -/
theorem boundTo_reflect (index : ClassIndex) (pathNames : List String) (name : String)
    (marker : Option Marker) (isOptional flag : Bool) (e : Expr) :
    boundTo pathNames name (some e) marker <$>
        (reflectHint index isOptional (some e)).mapError HandlerFault.reflection =
      withTypeOptional isOptional <$> boundTo pathNames name (some e) marker <$>
        (reflectHint index flag (some e)).mapError HandlerFault.reflection := by
  unfold reflectHint
  dsimp only
  rw [reflect_eq_withOptional index [] isOptional flag]
  cases reflect index [] flag e <;> rfl

/-! ## The shape of the type -/

/-- The parameter with this type and flag, from the type in its annotation and its marker. -/
def flaggedTo (pathNames : List String) (name : String) (hint : Option Expr) (marker : Option Marker)
    (isOptional : Bool) (t : TypeShape) : Parameter :=
  withTypeOptional isOptional (boundTo pathNames name hint marker t)

section Shape

variable {index : ClassIndex} {pathNames : List String} {name : String} {hint : Expr}
variable {marker : Option Marker} {t u : TypeShape} {isOptional flag : Bool}

/-- Without its flag a parameter is bound by its type. -/
theorem withTypeOptional_flaggedTo (ht : t.isOptional = false) (pathNames : List String)
    (name : String) (hint : Option Expr) (marker : Option Marker) (isOptional : Bool) :
    withTypeOptional false (flaggedTo pathNames name hint marker isOptional t) =
      boundTo pathNames name hint marker t := by
  have hself : withTypeOptional false (boundTo pathNames name hint marker t) =
      boundTo pathNames name hint marker t := withTypeOptional_eq_self_iff.2 ht
  exact hself

/-- Flagged parameters are the same if their flags, types and bindings are. -/
theorem flaggedTo_inj (ht : t.isOptional = false) (hu : u.isOptional = false) {hint hint' : Option Expr}
    {marker marker' : Option Marker} :
    flaggedTo pathNames name hint marker isOptional t = flaggedTo pathNames name hint' marker' flag u ↔
      isOptional = flag ∧ t = u ∧
        boundTo pathNames name hint marker t = boundTo pathNames name hint' marker' t := by
  constructor
  · intro h
    have hflag : isOptional = flag := congrArg (·.type.isOptional) h
    have hbound := congrArg (withTypeOptional false) h
    rw [withTypeOptional_flaggedTo ht, withTypeOptional_flaggedTo hu] at hbound
    obtain rfl : t = u := congrArg (·.type) hbound
    exact ⟨hflag, rfl, hbound⟩
  · rintro ⟨rfl, rfl, h⟩
    exact congrArg (withTypeOptional isOptional) h

/-- Parameters of one type are bound alike if they come from the same place and are embedded alike.
-/
theorem boundTo_eq_iff {hint hint' : Option Expr} {marker marker' : Option Marker} :
    boundTo pathNames name hint marker t = boundTo pathNames name hint' marker' t ↔
      sourceOf pathNames name hint marker t = sourceOf pathNames name hint' marker' t ∧
        (sourceOf pathNames name hint marker t = .body →
          marker.any asksToEmbed = marker'.any asksToEmbed) := by
  simp only [boundTo, Parameter.mk.injEq, true_and]
  refine and_congr_right fun hsource => ?_
  rw [← hsource]
  cases sourceOf pathNames name hint marker t with
  | body => exact ⟨fun h _ => h, fun h => h rfl⟩
  | query | path | none => exact ⟨fun _ => nofun, fun _ => rfl⟩

/-- The flag apart, the binding goes by the shape of the type. -/
theorem bindMarked_eq_map (index : ClassIndex) (pathNames : List String) (name : String)
    (hint : Expr) (inHint : Option Marker) (default : Option Expr) :
    bindMarked index pathNames name ⟨some hint, inHint⟩ default =
      flaggedTo pathNames name (some hint) (inHint.or (default.bind Marker.ofExpr?))
          (isOptionalBinding inHint (default.bind Marker.ofExpr?) default) <$>
        (reflect index [] false hint).mapError .reflection := by
  rw [bindMarked, boundTo_reflect index pathNames name _ _ false, ← comp_map]
  rfl

/-- A type counts by its name only where nothing else gives the source. -/
theorem sourceOf_some_eq_iff :
    sourceOf pathNames name (some hint) marker t = sourceOf pathNames name none marker t ↔
      (marker = none → name ∉ pathNames → hint.simpleName ∉ suppliedNames) := by
  unfold sourceOf
  cases marker with
  | some m => simp
  | none =>
    by_cases hpath : name ∈ pathNames
    · simp [hpath]
    · by_cases hsupplied : hint.simpleName ∈ suppliedNames
      · cases isStructured t <;> simp [hpath, hsupplied]
      · simp [hpath, hsupplied]

/-- An annotation has a type, unless it is a marked annotation without arguments. -/
theorem markedHint_eq_error_or_ok (aliases : Aliases) (e : Expr) :
    MarkedHint.ofExpr (resolveAlias aliases (some e)) = .error .emptyHint ∨
      ∃ hint inHint, MarkedHint.ofExpr (resolveAlias aliases (some e)) = .ok ⟨some hint, inHint⟩ := by
  have hsome : ∃ e', resolveAlias aliases (some e) = some e' := by
    unfold resolveAlias
    split
    · exact ⟨_, rfl⟩
    · exact ⟨e, rfl⟩
  obtain ⟨e', he'⟩ := hsome
  rw [he']
  unfold MarkedHint.ofExpr
  split
  · split
    · split
      · exact .inl rfl
      · exact .inr ⟨_, _, rfl⟩
    · exact .inr ⟨e', none, rfl⟩
  · exact .inr ⟨e', none, rfl⟩

end Shape

end RouteAtlas.Scan
