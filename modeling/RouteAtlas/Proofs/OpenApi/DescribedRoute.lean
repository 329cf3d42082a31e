import RouteAtlas.Proofs.OpenApi.ReferenceClosure

/-!
# The route that a document describes

Routes whose path and verb documents write alike share one place of the document. The operation that
stands there is that of the last of them (`ofControllers_describes_last`), while a request is answered
by the first, so the document describes the route that is served exactly if no later route takes its
place.
-/

namespace RouteAtlas.OpenApi

open RouteAtlas.Api RouteAtlas.Document RouteAtlas.Routing RouteAtlas.Schema RouteAtlas.Text

/-! ## Places of operations -/

/-- Where a document describes a route: its path and its verb as documents write them. -/
def placeOf (r : Route) : String × String := (documentPath r.path, lowercase r.endpoint.verb)

/-- The operation at a place of a table. -/
def PathTable.operation? (table : PathTable) (place : String × String) : Option Operation :=
  (field? place.1 table).bind (field? place.2)

/-- An operation is entered at its place and leaves the others as they are. -/
theorem PathTable.operation?_enter (table : PathTable) (path verb : String) (o : Operation)
    (place : String × String) :
    (table.enter path verb o).operation? place =
      if place = (path, verb) then some o else table.operation? place := by
  obtain ⟨path', verb'⟩ := place
  unfold operation? enter
  by_cases hpath : path' = path
  · subst hpath
    rw [field?_setField_self, Option.bind_some]
    by_cases hverb : verb' = verb
    · rw [hverb, if_pos rfl, field?_setField_self]
    · rw [if_neg fun h => hverb (Prod.mk.inj h).2, field?_setField_of_ne hverb]
      cases field? path' table <;> rfl
  · rw [if_neg fun h => hpath (Prod.mk.inj h).1, field?_setField_of_ne hpath]

/-! ## Describing routes one after the other -/

/-- Describes the operation of a route. -/
def describeOperation (baseUrl : String) (r : Route) : Describing Operation :=
  Operation.ofEndpoint baseUrl r.controller.name (documentPath r.path) r.endpoint

/-- The components after the operations of some routes have been described. -/
def componentsAfter (baseUrl : String) (routes : List Route) (components : Registry TypeSchema) :
    Registry TypeSchema :=
  routes.foldl (fun components r => ((describeOperation baseUrl r).run components).2) components

section Run

variable {baseUrl : String} {components : Registry TypeSchema}

/-- A route is entered at its place with its operation. -/
theorem run_describeRoute (table : PathTable) (r : Route) :
    (describeRoute baseUrl table r).run components =
      (table.enter (placeOf r).1 (placeOf r).2 ((describeOperation baseUrl r).run components).1,
        ((describeOperation baseUrl r).run components).2) := rfl

/-- Every route leaves the places of the others as they are. -/
theorem operation?_run_describeRoutes (routes : List Route) (table : PathTable)
    {place : String × String} (h : ∀ r ∈ routes, placeOf r ≠ place) :
    ((routes.foldlM (describeRoute baseUrl) table).run components).1.operation? place =
      table.operation? place := by
  induction routes generalizing table components with
  | nil => rfl
  | cons r routes ih =>
    rw [List.foldlM_cons, StateT.run_bind, run_describeRoute]
    refine (ih _ fun x hx => h x (List.mem_cons_of_mem r hx)).trans ?_
    rw [PathTable.operation?_enter, if_neg fun he => h r List.mem_cons_self he.symm]

/-- The place of a route that no later one takes holds the operation of that route, described with the
components that the routes before it have entered. -/
theorem operation?_run_of_last (before after : List Route) (last : Route) (table : PathTable)
    (h : ∀ r ∈ after, placeOf r ≠ placeOf last) :
    (((before ++ last :: after).foldlM (describeRoute baseUrl) table).run components).1.operation?
        (placeOf last) =
      some ((describeOperation baseUrl last).run (componentsAfter baseUrl before components)).1 := by
  -- the table that the routes before it leave does not matter, but their components do
  induction before generalizing table components with
  | nil =>
    rw [List.nil_append, List.foldlM_cons, StateT.run_bind, run_describeRoute]
    refine (operation?_run_describeRoutes after _ h).trans ?_
    rw [PathTable.operation?_enter, if_pos rfl]
    rfl
  | cons r before ih =>
    rw [List.cons_append, List.foldlM_cons, StateT.run_bind, run_describeRoute]
    exact ih _

end Run

/-! ## The last route at a place -/

/-- A list with an item of a kind splits at the last one. -/
theorem exists_last_split {α : Type} {p : α → Prop} [DecidablePred p] {xs : List α} {x : α}
    (hx : x ∈ xs) (hp : p x) :
    ∃ before last after, xs = before ++ last :: after ∧ p last ∧ ∀ y ∈ after, ¬ p y := by
  have hsome : (xs.reverse.find? fun y => decide (p y)).isSome :=
    List.find?_isSome.2 ⟨x, List.mem_reverse.2 hx, decide_eq_true hp⟩
  obtain ⟨last, hlast⟩ := Option.isSome_iff_exists.1 hsome
  obtain ⟨hp, after, before, hxs, hafter⟩ := List.find?_eq_some_iff_append.1 hlast
  refine ⟨before.reverse, last, after.reverse, ?_, of_decide_eq_true hp, fun y hy => ?_⟩
  · rw [← List.reverse_reverse xs, hxs]
    simp
  · simpa using hafter y (List.mem_reverse.1 hy)

/-- The split at the last item of a kind is the only one. -/
theorem last_split_unique {α : Type} {p : α → Prop} {before before' after after' : List α}
    {x x' : α} (h : before ++ x :: after = before' ++ x' :: after') (hx : p x) (hx' : p x')
    (hafter : ∀ y ∈ after, ¬ p y) (hafter' : ∀ y ∈ after', ¬ p y) : before = before' := by
  rcases List.append_eq_append_iff.1 h with ⟨more, rfl, hrest⟩ | ⟨more, rfl, hrest⟩
  · cases more with
    | nil => exact (List.append_nil before).symm
    | cons y more =>
      obtain ⟨rfl, rfl⟩ := List.cons.inj hrest
      exact absurd hx' (hafter x' (List.mem_append_right more List.mem_cons_self))
  · cases more with
    | nil => exact List.append_nil before'
    | cons y more =>
      obtain ⟨rfl, rfl⟩ := List.cons.inj hrest
      exact absurd hx (hafter' x (List.mem_append_right more List.mem_cons_self))

/-! ## Documents -/

/-- A written document holds the operations of its table at their places. -/
theorem valueAt?_operation (d : ApiDocument) (place : String × String) :
    valueAt? d.toValue ["paths", place.1, place.2] = (d.paths.operation? place).map (·.toValue) := by
  have hpaths : d.toValue.get? "paths" = some (.map (d.paths.map fun entry =>
      (entry.1, .map (entry.2.map fun method => (method.1, method.2.toValue))))) := by
    simp [ApiDocument.toValue, Value.get?, field?_cons]
  unfold valueAt? PathTable.operation?
  rw [List.foldlM_cons, hpaths]
  show (field? place.1 _ >>= fun v => _) = _
  rw [field?_map (fun methods : List (String × Operation) =>
    Value.map (methods.map fun method => (method.1, method.2.toValue)))]
  cases field? place.1 d.paths with
  | none => rfl
  | some methods =>
    show (field? place.2 _ >>= fun v => some v) = _
    rw [field?_map Operation.toValue, Option.bind_some]
    cases field? place.2 methods <;> rfl

/-- The first route of a table, after `earlier`, with the verb and the path of the given one. -/
structure IsFirstLike (r : Route) (earlier : List Route) (first : Route) : Prop where
  verb : first.endpoint.verb = r.endpoint.verb
  path : first.path = r.path
  foremost : ∀ x ∈ earlier, ¬ (x.endpoint.verb = r.endpoint.verb ∧ x.path = r.path)

/-- The first route like another has its place. -/
theorem IsFirstLike.place {r first : Route} {earlier : List Route} (h : IsFirstLike r earlier first) :
    placeOf first = placeOf r := by
  unfold placeOf
  rw [h.verb, h.path]

namespace ApiDocument

/-- At the place of a route a document describes the last route that shares it. The first route with
the same verb and path is this one exactly if no later route shares the place. -/
theorem ofControllers_describes_last (info : ApiInfo) (controllers : List Controller) {r : Route}
    (hr : r ∈ RouteTable.ofControllers controllers) :
    ∃ before last after, RouteTable.ofControllers controllers = before ++ last :: after ∧
      placeOf last = placeOf r ∧ (∀ x ∈ after, placeOf x ≠ placeOf r) ∧
      valueAt? (ofControllers info controllers).toValue ["paths", (placeOf r).1, (placeOf r).2] =
        some ((describeOperation info.baseUrl last).run
          (componentsAfter info.baseUrl before .empty)).1.toValue ∧
      ∀ earlier first later, RouteTable.ofControllers controllers = earlier ++ first :: later →
        IsFirstLike r earlier first →
          (earlier = before ↔ ∀ x ∈ later, placeOf x ≠ placeOf r) := by
  obtain ⟨before, last, after, hsplit, hlast, hafter⟩ :=
    exists_last_split (p := fun x => placeOf x = placeOf r) hr rfl
  refine ⟨before, last, after, hsplit, hlast, hafter, ?_, ?_⟩
  · have hpaths : (ofControllers info controllers).paths =
        ((RouteTable.ofControllers controllers).foldlM (describeRoute info.baseUrl) []
          |>.run .empty).1 := rfl
    rw [valueAt?_operation, hpaths, hsplit, ← hlast,
      operation?_run_of_last before after last [] fun x hx => hlast ▸ hafter x hx]
    rfl
  · intro earlier first later hfirst hlike
    rw [hsplit] at hfirst
    constructor
    · rintro rfl
      obtain ⟨rfl, rfl⟩ := List.cons.inj (List.append_cancel_left hfirst)
      exact hafter
    · intro hlater
      exact (last_split_unique (p := fun x => placeOf x = placeOf r) hfirst hlast hlike.place hafter
        hlater).symm

/-- A handler that lists items. -/
def itemListing (name route : String) : Endpoint :=
  { name, verb := "GET", route, parameters := [], returnType := .leaf "str" false }

/-- Two handlers of one verb and path, which is written once with and once without a final slash. -/
def listedTwice : Controller :=
  ⟨"api", "", [itemListing "first" "/items", itemListing "second" "/items/"], ""⟩

/-- The route of one of the two handlers. -/
def listingRoute (name route : String) : Route := ⟨listedTwice, itemListing name route, "/items"⟩

/-- The table of the controller has both routes. -/
theorem ofControllers_listedTwice : RouteTable.ofControllers [listedTwice] =
    [listingRoute "first" "/items", listingRoute "second" "/items/"] := rfl

/-- A request is answered by the first of the two handlers, the document describes the second. -/
theorem ofControllers_describes_last_of_listedTwice :
    (RouteTable.lookup (.ofControllers [listedTwice]) "GET" "/items").map (·.endpoint.name) =
        some "first" ∧
      listingRoute "first" "/items" ∈ RouteTable.ofControllers [listedTwice] ∧
      ∃ components, valueAt? (ofControllers {} [listedTwice]).toValue ["paths", "/items", "get"] =
        some ((describeOperation defaultBaseUrl (listingRoute "second" "/items/")).run
          components).1.toValue := by
  have hmem : listingRoute "first" "/items" ∈ RouteTable.ofControllers [listedTwice] :=
    ofControllers_listedTwice ▸ List.mem_cons_self
  refine ⟨by decide +kernel, hmem, ?_⟩
  obtain ⟨before, last, after, hsplit, _, hafter, hvalue, _⟩ :=
    ofControllers_describes_last {} [listedTwice] hmem
  rw [ofControllers_listedTwice] at hsplit
  cases before with
  | nil =>
    obtain ⟨_, rfl⟩ := List.cons.inj hsplit
    exact absurd (by decide +kernel) (hafter _ List.mem_cons_self)
  | cons x before =>
    obtain ⟨_, hsplit⟩ := List.cons.inj hsplit
    cases before with
    | nil =>
      obtain ⟨rfl, _⟩ := List.cons.inj hsplit
      exact ⟨_, hvalue⟩
    | cons y before => cases before <;> cases (List.cons.inj hsplit).2

/-- The document need not describe the route that is served: of two handlers of one verb and path it
describes the second one. -/
theorem not_forall_describes_first :
    ¬ ∀ (info : ApiInfo) (controllers : List Controller),
      (∀ c ∈ controllers, ∀ e ∈ c.endpoints, uppercase e.verb = e.verb) →
      ∀ r ∈ RouteTable.ofControllers controllers, ∀ earlier first later,
        RouteTable.ofControllers controllers = earlier ++ first :: later →
        IsFirstLike r earlier first →
        ∃ components, valueAt? (ofControllers info controllers).toValue
            ["paths", (placeOf r).1, (placeOf r).2] =
          some ((describeOperation info.baseUrl first).run components).1.toValue := by
  intro h
  obtain ⟨components, hvalue⟩ := h {} [listedTwice] (by decide +kernel)
    (listingRoute "first" "/items") (ofControllers_listedTwice ▸ List.mem_cons_self) [] _ _
    ofControllers_listedTwice
    ⟨rfl, rfl, fun x hx => absurd hx List.not_mem_nil⟩
  have hdescribed : (valueAt? (ofControllers {} [listedTwice]).toValue
      ["paths", "/items", "get"]).bind (Value.get? "operationId") = some (.str "second") := rfl
  have hfirst : (valueAt? (ofControllers {} [listedTwice]).toValue
      ["paths", "/items", "get"]).bind (Value.get? "operationId") = some (.str "first") :=
    congrArg (fun v => Option.bind v (Value.get? "operationId")) hvalue
  have hname : "second" = "first" :=
    Value.str.inj (Option.some.inj (hdescribed.symm.trans hfirst))
  exact absurd hname (by decide)

end ApiDocument

end RouteAtlas.OpenApi
