import RouteAtlas.Proofs.Fallible
import RouteAtlas.Proofs.OpenApi.DescribedRoute

/-!
# What a document describes, piece by piece

The components of a document arise from the types and the parameters of its routes, which are described
one after another. `pieces` lists them in that order, and `registered` is the registry that they leave
(`componentsAfter_empty`). The registry that a parameter meets is that of the pieces before it
(`describedAt_iff`).
-/

namespace RouteAtlas.OpenApi

open RouteAtlas.Api RouteAtlas.Document RouteAtlas.Routing RouteAtlas.Schema

/-- A type or a parameter that a document describes. -/
inductive Piece where
  | type (t : TypeShape)
  | parameter (p : Parameter)

/-- The registry after a piece. -/
def Piece.register (r : Registry TypeSchema) : Piece → Registry TypeSchema
  | .type t => (schemaOf r t).2
  | .parameter p => ((describeParameter p).run r).2

/-- The registry that some pieces leave. -/
def registered (pieces : List Piece) : Registry TypeSchema := pieces.foldl Piece.register .empty

/-- What is described of an endpoint: the types of its body parameters, its parameters and its answer. -/
def endpointPieces (e : Endpoint) : List Piece :=
  e.bodyParameters.map (.type ·.type) ++ e.parameters.map .parameter ++
    if defaultStatus e.verb e.statusCode = 204 ∨ e.returnType.text = "None" then []
    else [.type e.returnType]

/-- What is described of routes. -/
def pieces (routes : List Route) : List Piece := routes.flatMap fun route => endpointPieces route.endpoint

/-! ## The pieces of an endpoint -/

/-- Properties are registered one after the other. -/
theorem propertySchemas_snd (r : Registry TypeSchema) (properties : List (String × TypeShape)) :
    (propertySchemas r properties).2 = properties.foldl (fun r f => (schemaOf r f.2).2) r := by
  induction properties generalizing r with
  | nil => rw [propertySchemas_nil]; rfl
  | cons f properties ih =>
    obtain ⟨name, t⟩ := f
    rw [propertySchemas_cons, List.foldl_cons]
    exact ih _

/-- A body enters what the types of its parameters need, embedded or not. -/
theorem run_describeBody_snd (e : Endpoint) (r : Registry TypeSchema) :
    ((describeBody e).run r).2 = (e.bodyParameters.map (.type ·.type)).foldl Piece.register r := by
  unfold describeBody Endpoint.requestBody
  cases hbody : e.bodyParameters with
  | nil => rfl
  | cons p rest =>
    dsimp only
    by_cases hembeds : e.embedsBody = true
    · rw [if_pos hembeds]
      dsimp only
      rw [if_pos hembeds]
      show (propertySchemas r ((p :: rest).map fun p => (p.name, p.type))).2 = _
      rw [propertySchemas_snd, List.foldl_map, List.foldl_map]
      rfl
    · -- a body that is not embedded is that of a single parameter
      have hrest : rest = [] := by
        unfold Endpoint.embedsBody at hembeds
        rw [hbody] at hembeds
        cases rest with
        | nil => rfl
        | cons q rest => simp at hembeds
      subst hrest
      rw [if_neg hembeds]
      dsimp only
      rw [if_neg hembeds]
      rfl

/-- A response registers what it returns, if it returns something. -/
theorem run_describeResponse_snd (e : Endpoint) (r : Registry TypeSchema) :
    ((describeResponse e).run r).2 =
      if defaultStatus e.verb e.statusCode = 204 ∨ e.returnType.text = "None" then r
      else (schemaOf r e.returnType).2 := by
  unfold describeResponse
  dsimp only
  split
  · rfl
  · rfl

/-- An operation registers the pieces of its endpoint. -/
theorem run_describeOperation_snd (baseUrl : String) (route : Route) (r : Registry TypeSchema) :
    ((describeOperation baseUrl route).run r).2 =
      (endpointPieces route.endpoint).foldl Piece.register r := by
  have hrun : ((describeOperation baseUrl route).run r).2 =
      ((describeResponse route.endpoint).run ((route.endpoint.parameters.mapM describeParameter).run
        ((describeBody route.endpoint).run r).2).2).2 := rfl
  rw [hrun, run_describeResponse_snd, run_mapM_snd, run_describeBody_snd, endpointPieces,
    List.foldl_append, List.foldl_append, List.foldl_map (f := Piece.parameter)]
  split
  · rfl
  · rfl

/-! ## The pieces of routes -/

/-- The pieces of routes stand one after the other. -/
theorem pieces_append (routes more : List Route) : pieces (routes ++ more) = pieces routes ++ pieces more :=
  List.flatMap_append

/-- The pieces of the first route come first. -/
theorem pieces_cons (route : Route) (routes : List Route) :
    pieces (route :: routes) = endpointPieces route.endpoint ++ pieces routes := List.flatMap_cons

/-- Routes register their pieces. -/
theorem componentsAfter_eq (baseUrl : String) (routes : List Route) (r : Registry TypeSchema) :
    componentsAfter baseUrl routes r = (pieces routes).foldl Piece.register r := by
  unfold componentsAfter pieces
  rw [List.foldl_flatMap]
  simp only [run_describeOperation_snd]

/-- Describing routes registers their pieces, whatever the table. -/
theorem run_describeRoutes_snd (baseUrl : String) (routes : List Route) (table : PathTable)
    (r : Registry TypeSchema) :
    ((routes.foldlM (describeRoute baseUrl) table).run r).2 = componentsAfter baseUrl routes r := by
  induction routes generalizing table r with
  | nil => rfl
  | cons route routes ih =>
    rw [List.foldlM_cons, StateT.run_bind, run_describeRoute]
    exact ih _ _

/-- The components of a document are those that its pieces leave. -/
theorem components_ofControllers (info : ApiInfo) (controllers : List Controller) :
    (ApiDocument.ofControllers info controllers).components =
      registered (pieces (RouteTable.ofControllers controllers)) :=
  (run_describeRoutes_snd _ _ _ _).trans (componentsAfter_eq _ _ _)

/-! ## Where a parameter is described -/

/-- Among these routes the operation is described for one of them, and a parameter of its endpoint meets
the registry `r`. -/
def DescribedAt (baseUrl : String) (routes : List Route) (o : Operation) (p : Parameter)
    (r : Registry TypeSchema) : Prop :=
  ∃ before route after earlier later, routes = before ++ route :: after ∧
    route.endpoint.parameters = earlier ++ p :: later ∧
    o = ((describeOperation baseUrl route).run (componentsAfter baseUrl before .empty)).1 ∧
    r = ((earlier.mapM describeParameter).run
      ((describeBody route.endpoint).run (componentsAfter baseUrl before .empty)).2).2

section Splits

variable {α β : Type} {y : β}

/-- An element behind the first list stands in the second. -/
theorem exists_split_of_not_mem_left {xs ys before after : List β}
    (h : xs ++ ys = before ++ y :: after) (hy : y ∉ xs) :
    ∃ rest, before = xs ++ rest ∧ ys = rest ++ y :: after := by
  rcases List.append_eq_append_iff.1 h with ⟨rest, hbefore, hys⟩ | ⟨rest, hxs, hrest⟩
  · exact ⟨rest, hbefore, hys⟩
  · cases rest with
    | nil => exact ⟨[], by rw [hxs, List.append_nil, List.append_nil], hrest.symm⟩
    | cons z rest =>
      obtain ⟨rfl, _⟩ := List.cons.inj hrest
      exact absurd (hxs ▸ List.mem_append_right before List.mem_cons_self) hy

/-- An element that is not in the second list stands in the first. -/
theorem exists_split_of_not_mem_right {xs ys before after : List β}
    (h : xs ++ ys = before ++ y :: after) (hy : y ∉ ys) : ∃ rest, xs = before ++ y :: rest := by
  rcases List.append_eq_append_iff.1 h with ⟨rest, _, hys⟩ | ⟨rest, hxs, hrest⟩
  · exact absurd (hys ▸ List.mem_append_right rest List.mem_cons_self) hy
  · cases rest with
    | nil =>
      have hys : y :: after = ys := hrest
      exact absurd (hys ▸ List.mem_cons_self) hy
    | cons z rest =>
      obtain ⟨rfl, _⟩ := List.cons.inj hrest
      exact ⟨rest, hxs⟩

/-- An item of a list of lists in a row stands in one of them. -/
theorem exists_split_of_flatMap {f : α → List β} {xs : List α} {before after : List β}
    (h : xs.flatMap f = before ++ y :: after) :
    ∃ xs₁ x xs₂ ys₁ ys₂, xs = xs₁ ++ x :: xs₂ ∧ f x = ys₁ ++ y :: ys₂ ∧
      before = xs₁.flatMap f ++ ys₁ := by
  induction xs generalizing before with
  | nil => exact absurd h (List.append_ne_nil_of_right_ne_nil _ (List.cons_ne_nil _ _)).symm
  | cons x xs ih =>
    have hlater (rest : List β) (hbefore : before = f x ++ rest)
        (hrest : xs.flatMap f = rest ++ y :: after) :
        ∃ xs₁ x' xs₂ ys₁ ys₂, x :: xs = xs₁ ++ x' :: xs₂ ∧ f x' = ys₁ ++ y :: ys₂ ∧
          before = xs₁.flatMap f ++ ys₁ := by
      obtain ⟨xs₁, x', xs₂, ys₁, ys₂, rfl, hx', rfl⟩ := ih hrest
      refine ⟨x :: xs₁, x', xs₂, ys₁, ys₂, rfl, hx', ?_⟩
      rw [hbefore, List.flatMap_cons, List.append_assoc]
    rw [List.flatMap_cons] at h
    rcases List.append_eq_append_iff.1 h with ⟨rest, hbefore, hrest⟩ | ⟨rest, hx, hrest⟩
    · exact hlater rest hbefore hrest
    · cases rest with
      | nil => exact hlater [] (by rw [hx, List.append_nil, List.append_nil]) hrest.symm
      | cons z rest =>
        obtain ⟨rfl, _⟩ := List.cons.inj hrest
        exact ⟨[], x, xs, before, rest, rfl, hx, rfl⟩

end Splits

/-- The pieces before a parameter are the types of the body and the parameters before it. -/
theorem exists_split_of_endpointPieces {e : Endpoint} {p : Parameter} {before after : List Piece}
    (h : endpointPieces e = before ++ .parameter p :: after) :
    ∃ earlier later, e.parameters = earlier ++ p :: later ∧
      before = e.bodyParameters.map (.type ·.type) ++ earlier.map .parameter := by
  unfold endpointPieces at h
  rw [List.append_assoc] at h
  obtain ⟨rest, rfl, hrest⟩ := exists_split_of_not_mem_left h (by simp)
  obtain ⟨later, hparameters⟩ := exists_split_of_not_mem_right hrest (by split <;> simp)
  obtain ⟨earlier, tail, hsplit, hearlier, htail⟩ := List.map_eq_append_iff.1 hparameters
  obtain ⟨q, more, rfl, hq, _⟩ := List.map_eq_cons_iff.1 htail
  obtain rfl := Piece.parameter.inj hq
  exact ⟨earlier, more, hsplit, by rw [hearlier]⟩

/-- A parameter meets the registry of the pieces before it. -/
theorem describedAt_iff {baseUrl : String} {routes : List Route} {p : Parameter}
    {r : Registry TypeSchema} : (∃ o, DescribedAt baseUrl routes o p r) ↔
      ∃ before after, pieces routes = before ++ .parameter p :: after ∧ r = registered before := by
  have hregistry (before : List Route) (route : Route) (earlier : List Parameter) :
      ((earlier.mapM describeParameter).run
        ((describeBody route.endpoint).run (componentsAfter baseUrl before .empty)).2).2 =
        registered (pieces before ++
          (route.endpoint.bodyParameters.map (.type ·.type) ++ earlier.map .parameter)) := by
    rw [run_mapM_snd, run_describeBody_snd, componentsAfter_eq, registered, List.foldl_append,
      List.foldl_append, List.foldl_map (f := Piece.parameter)]
    rfl
  constructor
  · rintro ⟨_, before, route, after, earlier, later, rfl, hparameters, -, rfl⟩
    obtain ⟨answer, hanswer⟩ : ∃ answer, endpointPieces route.endpoint =
        route.endpoint.bodyParameters.map (.type ·.type) ++
          route.endpoint.parameters.map .parameter ++ answer := ⟨_, rfl⟩
    refine ⟨_, later.map .parameter ++ (answer ++ pieces after), ?_, hregistry before route earlier⟩
    rw [pieces_append, pieces_cons, hanswer, hparameters, List.map_append, List.map_cons]
    simp only [List.append_assoc, List.cons_append]
  · rintro ⟨before, after, hpieces, rfl⟩
    obtain ⟨routes₁, route, routes₂, pieces₁, pieces₂, rfl, hroute, rfl⟩ :=
      exists_split_of_flatMap hpieces
    obtain ⟨earlier, later, hparameters, rfl⟩ := exists_split_of_endpointPieces hroute
    exact ⟨_, routes₁, route, routes₂, earlier, later, rfl, hparameters, rfl,
      (hregistry routes₁ route earlier).symm⟩

/-- What is said of a parameter stands among the parameters of its operation. -/
theorem DescribedAt.isInfix {baseUrl : String} {routes : List Route} {o : Operation} {p : Parameter}
    {r : Registry TypeSchema} (h : DescribedAt baseUrl routes o p r) :
    ((describeParameter p).run r).1 <:+: o.parameters := by
  obtain ⟨before, route, after, earlier, later, _, hparameters, rfl, rfl⟩ := h
  have hrun : ((describeOperation baseUrl route).run (componentsAfter baseUrl before .empty)).1.parameters =
      ((route.endpoint.parameters.mapM describeParameter).run
        ((describeBody route.endpoint).run (componentsAfter baseUrl before .empty)).2).1.flatten := rfl
  obtain ⟨ys, zs, hsplit⟩ := exists_run_mapM_eq describeParameter earlier p later
    ((describeBody route.endpoint).run (componentsAfter baseUrl before .empty)).2
  rw [hrun, hparameters, hsplit, List.flatten_append, List.flatten_cons]
  exact ⟨ys.flatten, zs.flatten, List.append_assoc _ _ _⟩

end RouteAtlas.OpenApi
