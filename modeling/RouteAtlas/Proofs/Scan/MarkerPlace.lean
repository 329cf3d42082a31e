import RouteAtlas.Proofs.Scan.HintParts

/-!
# The place of a marker

The marker of a parameter stands in the annotation, behind the type, or in the place of the default, which
it then takes as its first argument. Both places bind the parameter alike (`bindParameter_markerPlaces`),
but for one default: an ellipsis that a marker takes leaves the parameter required, and the same ellipsis
behind an annotation with a marker makes it optional.
-/

namespace RouteAtlas.Scan

open RouteAtlas.Api RouteAtlas.Reflect RouteAtlas.Syntax

/-- The markers that can take the default of a parameter. -/
def defaultTakers : List String := ["Body", "Form", "File", "Query", "Path", "Header", "Cookie"]

/-- A callee and keyword arguments of a marker that names no default. -/
structure IsOpenMarker (func : Expr) (keywords : List (Option String × Expr)) : Prop where
  name : func.simpleName ∈ defaultTakers
  no_default : ∀ k ∈ keywords, k.1 ≠ some "default" ∧ k.1 ≠ some "default_factory"

section Places

variable {index : ClassIndex} {aliases : Aliases} {pathNames : List String} {name : String}
variable {func value type : Expr} {args : List Expr} {keywords : List (Option String × Expr)}
variable {default : Option Expr}

/-- An open marker names a place, whatever its arguments. -/
theorem IsOpenMarker.exists_source (h : IsOpenMarker func keywords) :
    ∃ source, ∀ args, Marker.ofExpr? (.call func args keywords) =
      some ⟨func.simpleName, source, args, keywords⟩ := by
  have hsome : ∀ s ∈ defaultTakers, (Document.field? s markerSources).isSome = true := by decide
  obtain ⟨source, hsource⟩ := Option.isSome_iff_exists.1 (hsome _ h.name)
  exact ⟨source, fun args => by simp only [Marker.ofExpr?, hsource, Option.map_some]⟩

/-- The keyword arguments give no default, so the first argument decides. -/
theorem IsOpenMarker.callHasDefault_eq (h : IsOpenMarker func keywords) (args : List Expr) :
    callHasDefault args keywords = args.head?.any (!·.isEllipsis) := by
  rw [callHasDefault, List.any_eq_false.2, Bool.false_or]
  intro k hk
  obtain ⟨hdefault, hfactory⟩ := h.no_default k hk
  simp [hdefault, hfactory]

/-- None of these markers is a dependency, so their arguments have no part in the source. -/
theorem IsOpenMarker.boundTo_eq (h : IsOpenMarker func keywords) (source : ParameterSource)
    (args : List Expr) (hint : Option Expr) :
    boundTo pathNames name hint (some ⟨func.simpleName, source, args, keywords⟩) =
      fun t => ⟨name, t, source, source == .body && (keyword? "embed" keywords).any (·.isTrue)⟩ := by
  have hname : (func.simpleName == "Depends") = false := by
    rw [beq_eq_false_iff_ne]
    intro hdepends
    exact absurd (hdepends ▸ h.name) (by decide)
  funext t
  unfold boundTo sourceOf Marker.isClassDependency
  simp [hname, asksToEmbed]

/-- In the annotation the marker leaves the parameter required only if there is no default at all. -/
theorem bindParameter_markerInHint (h : IsOpenMarker func keywords)
    (hvalue : value.simpleName = annotatedName) {source : ParameterSource}
    (hsource : Marker.ofExpr? (.call func [] keywords) =
      some ⟨func.simpleName, source, [], keywords⟩) :
    bindParameter index aliases pathNames
        ⟨name, some (.subscript value (.tuple [type, .call func [] keywords]))⟩ default =
      boundTo pathNames name (some type) (some ⟨func.simpleName, source, [], keywords⟩) <$>
        (reflectHint index default.isSome (some type)).mapError .reflection := by
  have hmarker : ([Expr.call func [] keywords].filterMap Marker.ofExpr?).getLast? =
      some ⟨func.simpleName, source, [], keywords⟩ := by
    rw [List.filterMap_cons_some hsource]
    rfl
  have hoptional (inDefault : Option Marker) :
      isOptionalBinding (some ⟨func.simpleName, source, [], keywords⟩) inDefault default =
        default.isSome := by
    rw [isOptionalBinding, h.callHasDefault_eq]
    rfl
  rw [bindParameter_of_markedHint (markedHint_of_annotated hvalue), hmarker, bindMarked, hoptional]
  rfl

/-- In the place of the default the marker leaves the parameter required also if it takes an ellipsis. -/
theorem bindParameter_markerInDefault (h : IsOpenMarker func keywords)
    (htype : IsPlainHint aliases type) {source : ParameterSource}
    (hsource : Marker.ofExpr? (.call func args keywords) =
      some ⟨func.simpleName, source, args, keywords⟩) :
    bindParameter index aliases pathNames ⟨name, some type⟩ (some (.call func args keywords)) =
      boundTo pathNames name (some type) (some ⟨func.simpleName, source, args, keywords⟩) <$>
        (reflectHint index (args.head?.any (!·.isEllipsis)) (some type)).mapError .reflection := by
  rw [bindParameter_of_markedHint htype.markedHint, bindMarked, Option.bind_some, hsource]
  dsimp only
  rw [isOptionalBinding, h.callHasDefault_eq]
  rfl

/-- The parameter with its marker in the annotation is the one with its marker in the place of the
default, but for the flag of its type: with a default it is optional, whatever the default. The two are
equal unless the default is an ellipsis. -/
theorem bindParameter_markerPlaces (h : IsOpenMarker func keywords)
    (hvalue : value.simpleName = annotatedName) (htype : IsPlainHint aliases type) :
    let inHint := bindParameter index aliases pathNames
      ⟨name, some (.subscript value (.tuple [type, .call func [] keywords]))⟩ default
    let inDefault := bindParameter index aliases pathNames ⟨name, some type⟩
      (some (.call func default.toList keywords))
    inHint = withTypeOptional default.isSome <$> inDefault ∧
      (∀ q, inDefault = .ok q → q.type.isOptional = default.any (!·.isEllipsis)) ∧
      (inHint = inDefault ↔ default.any (·.isEllipsis) = false ∨ ∃ fault, inDefault = .error fault) := by
  intro inHint inDefault
  obtain ⟨source, hsource⟩ := h.exists_source
  have hin : inHint = _ := bindParameter_markerInHint h hvalue (hsource [])
  have hdef : inDefault = _ := bindParameter_markerInDefault h htype (hsource default.toList)
  have hhead : default.toList.head? = default := by cases default <;> rfl
  rw [hhead] at hdef
  have hsame : inHint = withTypeOptional default.isSome <$> inDefault := by
    rw [hin, hdef, h.boundTo_eq, h.boundTo_eq, ← h.boundTo_eq source []]
    exact boundTo_reflect index pathNames name _ default.isSome _ type
  have hflag : ∀ q, inDefault = .ok q → q.type.isOptional = default.any (!·.isEllipsis) := by
    intro q hq
    rw [hdef] at hq
    cases ht : reflect index [] (default.any (!·.isEllipsis)) type with
    | error fault =>
      rw [reflectHint, ht] at hq
      cases hq
    | ok t =>
      rw [reflectHint, ht] at hq
      obtain rfl := Except.ok.inj hq
      exact isOptional_of_reflect ht
  refine ⟨hsame, hflag, ?_⟩
  cases hq : inDefault with
  | error fault =>
    rw [hsame, hq]
    exact iff_of_true rfl (.inr ⟨fault, rfl⟩)
  | ok q =>
    have hsuccess : ¬ ∃ fault, (Except.ok q : Except HandlerFault Parameter) = .error fault :=
      fun ⟨_, he⟩ => nomatch he
    have hflags : default.any (!·.isEllipsis) = default.isSome ↔
        default.any (·.isEllipsis) = false := by
      cases default <;> simp
    rw [hsame, hq, or_iff_left hsuccess, ← hflags, ← hflag q hq, ← withTypeOptional_eq_self_iff]
    exact ⟨Except.ok.inj, congrArg Except.ok⟩

/-- A list that a query parameter takes by another name, with a default. -/
theorem bindParameter_markerPlaces_of_aliasedQuery :
    let type : Expr := .subscript (.name "list") (.name "int")
    let keywords : List (Option String × Expr) := [(some "alias", .constant (.str "tag" false))]
    let query : Expr := .attribute (.name "fastapi") "Query"
    IsOpenMarker query keywords ∧ IsPlainHint [] type ∧
      bindParameter ⟨[]⟩ [] ["id"] ⟨"tags", some (.subscript (.name "Annotated")
          (.tuple [type, .call query [] keywords]))⟩ (some (.list [])) =
        bindParameter ⟨[]⟩ [] ["id"] ⟨"tags", some type⟩
          (some (.call query [.list []] keywords)) := by
  intro type keywords query
  have hopen : IsOpenMarker query keywords :=
    ⟨by decide, List.forall_mem_singleton.2 (by decide)⟩
  have hplain : IsPlainHint [] type := ⟨rfl, by decide⟩
  refine ⟨hopen, hplain, ?_⟩
  exact ((bindParameter_markerPlaces hopen rfl hplain).2.2).2 (.inl rfl)

/-- With an ellipsis for its default the parameter is optional if the marker stands in the annotation, and
required if the marker takes the ellipsis. -/
theorem not_forall_markerPlaces_eq :
    ¬ ∀ (index : ClassIndex) (aliases : Aliases) (pathNames : List String) (name : String)
        (func value type : Expr) (keywords : List (Option String × Expr)) (default : Option Expr),
      IsOpenMarker func keywords → value.simpleName = annotatedName → IsPlainHint aliases type →
        default.bind Marker.ofExpr? = none →
        bindParameter index aliases pathNames
            ⟨name, some (.subscript value (.tuple [type, .call func [] keywords]))⟩ default =
          bindParameter index aliases pathNames ⟨name, some type⟩
            (some (.call func default.toList keywords)) := by
  intro h
  have hopen : IsOpenMarker (.name "Query") [] := ⟨by decide, nofun⟩
  have hplain : IsPlainHint [] (.name "int") := ⟨rfl, rfl⟩
  have heq := h ⟨[]⟩ [] [] "limit" (.name "Query") (.name "Annotated") (.name "int") []
    (some (.constant .ellipsis)) hopen rfl hplain rfl
  have hint (isOptional : Bool) : reflectHint ⟨[]⟩ isOptional (some (.name "int")) =
      .ok (.leaf "int" isOptional) := reflect_unknown rfl rfl
  rw [bindParameter_markerInHint hopen rfl rfl, bindParameter_markerInDefault hopen hplain rfl, hint,
    hint] at heq
  have hflags := congrArg (·.type.isOptional) (Except.ok.inj heq)
  cases hflags

end Places

end RouteAtlas.Scan
