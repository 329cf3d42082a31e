import RouteAtlas.Collection.SampleCollection
import RouteAtlas.Proofs.Mock.Servable
import RouteAtlas.Proofs.OpenApi.DocumentPaths
import RouteAtlas.Proofs.Routing.Filling
import RouteAtlas.Proofs.Scan.ServedRoute

/-!
# Three views of the routes

The document and the sample collection of some controllers show the routes of their route table
(`document_and_collection_show_routes`). The document has an operation for every path and verb of the
table, the collection has one request for each route in order, and the table has an answer to each of
these requests. Integers of too many digits have no text: a status like that leaves the controllers
without a document, and a mock value that holds one without a collection.
-/

namespace RouteAtlas.Collection

open RouteAtlas.Api RouteAtlas.Document RouteAtlas.Mock RouteAtlas.OpenApi RouteAtlas.Routing
open RouteAtlas.Scan RouteAtlas.Text

/-! ## Filling from every source -/

section Fills

variable {α β : Type}

/-- From every source the work succeeds with such a result, unless it breaks off at an integer of too
many digits, which happens only if `E` holds. -/
def Fills (E : Prop) (work : Sampling α) (Q : α → Prop) : Prop :=
  ∀ source, (∃ a after, work.run.run source = (.ok a, after) ∧ Q a) ∨
    E ∧ ∃ after, work.run.run source = (.error .longInteger, after)

variable {E : Prop} {Q : α → Prop} {R : β → Prop}

/-- Work without a draw succeeds. -/
theorem fills_pure {a : α} (ha : Q a) : Fills E (pure a) Q := fun source => .inl ⟨a, source, rfl, ha⟩

/-- Work may break off where `E` holds. -/
theorem fills_longInteger (h : E) : Fills E (throw .longInteger : Sampling α) Q :=
  fun source => .inr ⟨h, source, rfl⟩

/-- The second part of the work may rely on what the first one gives. -/
theorem Fills.bind {work : Sampling α} {f : α → Sampling β} (hwork : Fills E work Q)
    (hf : ∀ a, Q a → Fills E (f a) R) : Fills E (work >>= f) R := by
  intro source
  rcases hwork source with ⟨a, between, ha, hQ⟩ | ⟨hE, after, hfault⟩
  · rw [run_bind, ha]
    exact hf a hQ between
  · refine .inr ⟨hE, after, ?_⟩
    rw [run_bind, hfault]

/-- Less may be said of the result, and of why the work may break off. -/
theorem Fills.mono {E' : Prop} {R : α → Prop} {work : Sampling α} (hwork : Fills E work Q)
    (hE : E → E') (h : ∀ a, Q a → R a) : Fills E' work R := fun source =>
  (hwork source).imp (fun ⟨a, after, hrun, ha⟩ => ⟨a, after, hrun, h a ha⟩)
    fun ⟨hfault, hrun⟩ => ⟨hE hfault, hrun⟩

/-- Work that succeeds from a source does not break off. -/
theorem not_longInteger_of_isOk {work : Sampling α} {source : Source}
    (h : (work.run.run source).1.isOk = true) :
    ¬ ∃ after, work.run.run source = (.error .longInteger, after) := by
  rintro ⟨after, hfault⟩
  rw [hfault] at h
  cases h

/-- Work on each element gives a result for each. -/
theorem fills_mapM {f : α → Sampling β} {S : α → β → Prop} {xs : List α}
    (h : ∀ x ∈ xs, Fills E (f x) (S x)) : Fills E (xs.mapM f) (List.Forall₂ S xs) := by
  induction xs with
  | nil => exact fills_pure .nil
  | cons x xs ih =>
    obtain ⟨hx, hxs⟩ := List.forall_mem_cons.1 h
    rw [List.mapM_cons]
    exact hx.bind fun y hy => (ih hxs).bind fun ys hys => fills_pure (.cons hy hys)

/-- What the generator gives from every source, a request is filled with. -/
theorem fills_mock {g : Gen α} (hgives : Gen.Gives g Q) :
    Fills E (Sampling.mock g) fun a => Q a ∧ Gen.MayGive g a := by
  intro source
  obtain ⟨a, after, hrun, ha⟩ := hgives.mayGive.exists_run source
  refine .inl ⟨a, after, ?_, ha⟩
  have hmock : (Sampling.mock g).run.run source =
      ((g.runFrom source).1.mapError .mock, (g.runFrom source).2) := rfl
  rw [hmock, hrun]
  rfl

/-- Each field has its entry in the query, unless a value cannot be shown. -/
theorem fills_queryEntries {fields : List (String × Value)}
    (h : ∀ f ∈ fields, f.2.hasLongInteger = true → E) :
    Fills E (queryEntries fields) fun entries => entries.map (·.key) = fieldNames fields := by
  have hlift (x : Except SampleFault (List QueryEntry)) (source : Source) :
      (liftM x : Sampling (List QueryEntry)).run.run source = (x, source) := by
    cases x <;> rfl
  suffices hentries : (∃ entries, queryEntries fields = .ok entries ∧
      entries.map (·.key) = fieldNames fields) ∨ E ∧ queryEntries fields = .error .longInteger by
    intro source
    rw [hlift]
    rcases hentries with ⟨entries, heq, hkeys⟩ | ⟨hE, hfault⟩
    · exact .inl ⟨entries, source, by rw [heq], hkeys⟩
    · exact .inr ⟨hE, source, by rw [hfault]⟩
  unfold queryEntries
  induction fields with
  | nil => exact .inl ⟨[], rfl, rfl⟩
  | cons f fields ih =>
    obtain ⟨hf, hfields⟩ := List.forall_mem_cons.1 h
    rw [List.mapM_cons]
    cases hlong : f.2.hasLongInteger with
    | true =>
      have htext : queryText f.2 = .error .longInteger := if_pos hlong
      rw [htext]
      exact .inr ⟨hf hlong, rfl⟩
    | false =>
      have htext : queryText f.2 = .ok (queryCodes f.2) := if_neg (Bool.eq_false_iff.1 hlong)
      rw [htext]
      rcases ih hfields with ⟨entries, heq, hkeys⟩ | ⟨hE, hfault⟩
      · rw [heq]
        exact .inl ⟨_, rfl, congrArg (f.1 :: ·) hkeys⟩
      · rw [hfault]
        exact .inr ⟨hE, rfl⟩

end Fills

/-! ## Requests of routes -/

/-- A shape with at most one of items, union members and properties. -/
structure HasOnePart (t : TypeShape) : Prop where
  items : t.items.isSome → t.unionTypes = none ∧ t.properties = none
  unionTypes : t.unionTypes.isSome → t.properties = none

/-- The generator has a value for what the endpoint reads from the body and the query, and what it reads
from the query is well formed. -/
structure IsFillable (e : Endpoint) : Prop where
  body : ∀ t, e.requestBody = some t → Gen.Gives (generate none t) fun _ => True
  query : ∀ p ∈ e.parameters, p.source = .query →
    HasOnePart p.type ∧ ∀ hint, Gen.Gives (generate hint p.type) fun _ => True

/-- For which name the value of a query parameter is generated: an object has names of its own. -/
def queryHint (p : Parameter) : Option String :=
  if p.type.properties.isSome then none else some p.name

/-- The generator may give the endpoint a value, for its body or for a query parameter, that holds an
integer of too many digits. -/
def MayReadLong (e : Endpoint) : Prop :=
  (∃ t v, e.requestBody = some t ∧ Gen.MayGive (generate none t) v ∧ v.hasLongInteger = true) ∨
    ∃ p ∈ e.parameters, p.source = .query ∧
      ∃ v, Gen.MayGive (generate (queryHint p) p.type) v ∧ v.hasLongInteger = true

/-- A value holds the integers of its fields. -/
theorem hasLongInteger_of_mem {v : Value} {fields : List (String × Value)} (hv : v.fields? = some fields)
    {f : String × Value} (hf : f ∈ fields) (hlong : f.2.hasLongInteger = true) :
    v.hasLongInteger = true := by
  obtain rfl : v = .map fields := by
    cases v <;> cases hv
    rfl
  unfold Value.hasLongInteger at hlong ⊢
  rw [Bool.not_eq_true'] at hlong ⊢
  rw [Value.allLeaves, ← Bool.not_eq_true, Value.allLeavesIn_eq_true_iff]
  exact fun hall => Bool.eq_false_iff.1 hlong (hall f hf)

/-- What is generated for a shape with properties has fields. -/
theorem isSome_fields?_of_generate {t : TypeShape} (hone : HasOnePart t)
    (hproperties : t.properties.isSome) {hint : Option String} {v : Value}
    (h : Gen.MayGive (generate hint t) v) : v.fields?.isSome := by
  obtain ⟨s, s', h⟩ := h
  obtain ⟨text, isArray, isOptional, items, properties, unionTypes⟩ := t
  obtain ⟨fields, rfl⟩ := Option.isSome_iff_exists.1 hproperties
  cases items with
  | some items => cases (hone.items rfl).2
  | none =>
    cases unionTypes with
    | some members => cases hone.unionTypes rfl
    | none =>
      rw [generate] at h
      obtain ⟨values, _, _, hvalue⟩ := exists_of_run_bind h
      obtain rfl : Value.map (ofFields values) = v := Except.ok.inj (Prod.mk.inj hvalue).1
      rfl

section Endpoints

variable {e : Endpoint}

/-- A body can be filled with whatever holds of all its values. -/
theorem fills_sampleBody {Q : TypeShape → Value → Prop}
    (h : ∀ t, e.requestBody = some t → Gen.Gives (generate none t) (Q t)) :
    Fills (MayReadLong e) (SampleRequest.sampleBody e) fun body =>
      ∀ t, e.requestBody = some t → (t.kind == .object || t.kind == .array) = true →
        ∃ v, body = some v ∧ Q t v := by
  unfold SampleRequest.sampleBody
  split
  · next hnone =>
    refine fills_pure fun t ht => ?_
    cases hnone.symm.trans ht
  · next t ht =>
    have hsame {t' : TypeShape} (ht' : e.requestBody = some t') : t = t' :=
      Option.some.inj (ht.symm.trans ht')
    split
    · refine (fills_mock (h t ht)).bind fun v hv => ?_
      split
      · next hlong => exact fills_longInteger (.inl ⟨t, v, ht, hv.2, hlong⟩)
      · exact fills_pure fun t' ht' _ => ⟨v, rfl, hsame ht' ▸ hv.1⟩
    · next hkind => exact fills_pure fun t' ht' hkind' => absurd (hsame ht' ▸ hkind') hkind

/-- The entries show what a parameter reads from the query: nothing, the fields of a value of its object,
or the parameter itself. -/
inductive EntriesFor (p : Parameter) (Q : Value → Prop) : List QueryEntry → Prop
  | nothing (h : p.source ≠ .query) : EntriesFor p Q []
  | fields (h : p.source = .query) (hp : p.type.properties.isSome) {v : Value}
      {fields : List (String × Value)} {entries : List QueryEntry} (hv : Q v)
      (hfields : v.fields? = some fields) (hkeys : entries.map (·.key) = fieldNames fields) :
      EntriesFor p Q entries
  | itself (h : p.source = .query) (hp : p.type.properties = none) {entries : List QueryEntry}
      (hkeys : entries.map (·.key) = [p.name]) : EntriesFor p Q entries

/-- The query can be filled for a parameter. -/
theorem fills_sampleParameter {p : Parameter} (hp : p ∈ e.parameters) {Q : Value → Prop}
    (h : p.source = .query → HasOnePart p.type ∧ Gen.Gives (generate (queryHint p) p.type) Q) :
    Fills (MayReadLong e) (SampleRequest.sampleParameter p) (EntriesFor p Q) := by
  unfold SampleRequest.sampleParameter
  by_cases hsource : p.source = .query
  · obtain ⟨hone, hgives⟩ := h hsource
    have hlong {v : Value} (hv : Gen.MayGive (generate (queryHint p) p.type) v)
        (hlong : v.hasLongInteger = true) : MayReadLong e := .inr ⟨p, hp, hsource, v, hv, hlong⟩
    unfold queryHint at hgives hlong
    rw [if_neg (by simp [hsource])]
    split
    · next hproperties =>
      -- the shape has properties and nothing else, so its values have fields to list
      rw [if_pos hproperties] at hgives hlong
      refine (fills_mock hgives).bind fun v hv => ?_
      obtain ⟨fields, hfields⟩ :=
        Option.isSome_iff_exists.1 (isSome_fields?_of_generate hone hproperties hv.2)
      rw [hfields]
      exact (fills_queryEntries fun f hf hf' => hlong hv.2 (hasLongInteger_of_mem hfields hf hf')).mono
        id fun entries hkeys => .fields hsource hproperties hv.1 hfields hkeys
    · next hproperties =>
      rw [if_neg hproperties] at hgives hlong
      refine (fills_mock hgives).bind fun v hv => (fills_queryEntries fun f hf hf' => ?_).mono id
        fun entries hkeys => .itself hsource (by simpa using hproperties) hkeys
      obtain rfl := List.mem_singleton.1 hf
      exact hlong hv.2 hf'
  · rw [if_pos (by simpa using hsource)]
    exact fills_pure (.nothing hsource)

end Endpoints

/-- A request has the verb and the segments of the route. -/
structure IsSampleOf (r : Route) (request : SampleRequest) : Prop where
  verb : request.verb = r.endpoint.verb
  segments : request.segments = segments r.path

/-- A request can be filled for a route. -/
theorem fills_ofRoute {r : Route} (h : IsFillable r.endpoint) :
    Fills (MayReadLong r.endpoint) (SampleRequest.ofRoute r) (IsSampleOf r) := by
  unfold SampleRequest.ofRoute
  refine (fills_sampleBody h.body).bind fun body _ => ?_
  have hparameter (p : Parameter) (hp : p ∈ r.endpoint.parameters) : Fills (MayReadLong r.endpoint)
      (SampleRequest.sampleParameter p) (EntriesFor p fun _ => True) :=
    fills_sampleParameter hp fun hsource =>
      ⟨(h.query p hp hsource).1, (h.query p hp hsource).2 _⟩
  exact (fills_mapM hparameter).bind fun query _ => fills_pure ⟨rfl, rfl⟩

/-! ## Items of a collection -/

/-- The list under a name. -/
def listAt (name : String) (v : Value) : List Value :=
  match v.get? name with
  | some (.list items) => items
  | _ => []

/-- The items of a written collection, folder by folder. -/
def collectionItems (collection : Value) : List Value :=
  (listAt "item" collection).flatMap (listAt "item")

/-- An item shows the verb of a route and the segments of its path. -/
structure IsItemOf (r : Route) (item : Value) : Prop where
  verb : valueAt? item ["request", "method"] = some (.str r.endpoint.verb)
  segments : valueAt? item ["request", "url", "path"] = some (.strings (segments r.path))

/-- A request with the verb and the segments of a route is written as an item that shows them. -/
theorem IsSampleOf.isItemOf {r : Route} {request : SampleRequest} (h : IsSampleOf r request)
    (host : String) : IsItemOf r (request.toValue host) := by
  constructor
  · rw [← h.verb]
    rfl
  · rw [← h.segments]
    rfl

/-- The items of a written collection are its requests. -/
theorem collectionItems_toValue (c : SampleCollection) : collectionItems c.toValue =
    c.folders.flatMap fun f => f.requests.map (·.toValue c.host) := by
  have hfolders : listAt "item" c.toValue = c.folders.map (SampleCollection.folderValue c.host) := rfl
  unfold collectionItems
  rw [hfolders, List.flatMap_map]
  rfl

/-- A collection of controllers can be filled and has an item for each route. -/
theorem fills_ofControllers {controllers : List Controller}
    (h : ∀ c ∈ controllers, ∀ e ∈ c.endpoints, IsFillable e) (info : CollectionInfo) :
    Fills (∃ c ∈ controllers, ∃ e ∈ c.endpoints, MayReadLong e)
      (SampleCollection.ofControllers info controllers) fun collection =>
        List.Forall₂ IsItemOf (RouteTable.ofControllers controllers)
          (collectionItems collection.toValue) := by
  have hfolder (c : Controller) (hc : c ∈ controllers) :
      Fills (∃ c ∈ controllers, ∃ e ∈ c.endpoints, MayReadLong e) (Folder.ofController c) fun f =>
        List.Forall₂ IsSampleOf (RouteTable.ofControllers [c]) f.requests := by
    refine (fills_mapM fun r hr => ?_).bind fun requests hrequests => fills_pure hrequests
    obtain ⟨c', hc', e, he, rfl⟩ := mem_ofControllers_iff.1 hr
    obtain rfl := List.mem_singleton.1 hc'
    exact (fills_ofRoute (h c' hc e he)).mono (fun hlong => ⟨c', hc, e, he, hlong⟩) fun _ => id
  refine (fills_mapM hfolder).bind fun folders hfolders => fills_pure ?_
  have htable : RouteTable.ofControllers controllers =
      controllers.flatMap fun c => RouteTable.ofControllers [c] := by
    simp [RouteTable.ofControllers]
  rw [collectionItems_toValue, htable]
  refine List.rel_flatMap hfolders fun c f hrequests => ?_
  rw [List.forall₂_map_right_iff]
  exact hrequests.imp fun _ _ hsample => hsample.isItemOf info.host

/-! ## Three views -/

/-- The path of a route, written by its segments, is one that it answers for. -/
theorem pathMatches_pathOf_segments (path : String) :
    pathMatches path (pathOf (segments path)) = true := by
  unfold pathMatches
  rw [segments_pathOf, flatMap_segments, segmentsMatch_iff]
  exact List.forall₂_same.2 fun s _ => by simp [segmentMatches]

/-- The table answers the request for a route with that route or one before it. -/
theorem exists_lookup_of_getElem? {table : RouteTable}
    (hverbs : ∀ r ∈ table, uppercase r.endpoint.verb = r.endpoint.verb) {i : Nat} {r : Route}
    (hr : table[i]? = some r) :
    ∃ j ≤ i, ∃ first, table[j]? = some first ∧
      table.lookup r.endpoint.verb (pathOf (segments r.path)) = some first := by
  have hanswers : Answers r r.endpoint.verb (pathOf (segments r.path)) :=
    answers_iff.2 ⟨(hverbs r (List.mem_of_getElem? hr)).symm, pathMatches_pathOf_segments r.path⟩
  obtain ⟨j, hj, first, hfirst, hfound⟩ := exists_isFirstAnswer_le hr hanswers
  exact ⟨j, hj, first, hfirst.place, hfound⟩

/-- A written document shows the routes of a table. -/
structure DescribesRoutes (table : RouteTable) (document : Value) : Prop where
  /-- The paths of the document are those of the routes, where they are first met. -/
  paths : fieldNames (documentPaths document) = (table.map fun r => documentPath r.path).eraseDups
  /-- The document has an operation where a route is described, and nowhere else. -/
  places : ∀ place, place ∈ documentPlaces document ↔ ∃ r ∈ table, placeOf r = place

/-- A written collection shows the routes of a table. -/
structure SamplesRoutes (table : RouteTable) (collection : Value) : Prop where
  /-- The collection has one item for each route, in order. -/
  items : List.Forall₂ IsItemOf table (collectionItems collection)
  /-- The request of an item is answered by its route or one before. -/
  answered : ∀ (i : Nat) (r : Route), table[i]? = some r →
    ∃ j ≤ i, ∃ first, table[j]? = some first ∧
      table.lookup r.endpoint.verb (pathOf (segments r.path)) = some first

/-- The document and the collection of controllers with verbs in upper case show the routes of their
table, if the generator has values for what their endpoints read. The document is built, unless a status
has too many digits for a text; the collection is filled from every source, unless that gives a value with
an integer of too many digits. -/
theorem document_and_collection_show_routes {controllers : List Controller}
    (hverbs : ∀ c ∈ controllers, ∀ e ∈ c.endpoints, uppercase e.verb = e.verb)
    (hfillable : ∀ c ∈ controllers, ∀ e ∈ c.endpoints, IsFillable e) (info : ApiInfo)
    (collectionInfo : CollectionInfo) (source : Source) (log : Log) :
    ((∃ document log', (ApiDocument.build info controllers).runFrom log = (.ok document, log') ∧
        DescribesRoutes (.ofControllers controllers) document.toValue) ∨
      ApiDocument.hasLongStatus controllers = true ∧
        (ApiDocument.build info controllers).runFrom log = (.error .longStatus, log)) ∧
    ((∃ collection after, (SampleCollection.ofControllers collectionInfo controllers).run.run source =
          (.ok collection, after) ∧
        SamplesRoutes (.ofControllers controllers) collection.toValue) ∨
      (∃ c ∈ controllers, ∃ e ∈ c.endpoints, MayReadLong e) ∧
        ∃ after, (SampleCollection.ofControllers collectionInfo controllers).run.run source =
          (.error .longInteger, after)) := by
  constructor
  · cases hlong : ApiDocument.hasLongStatus controllers with
    | true => exact .inr ⟨rfl, ApiDocument.runFrom_build_of_long hlong log⟩
    | false =>
      refine .inl ⟨_, _, ApiDocument.runFrom_build_of_short hlong log, ?_, fun place => ?_⟩
      · exact ApiDocument.fieldNames_documentPaths info controllers
      · exact ApiDocument.mem_documentPlaces_iff info controllers
  · refine (fills_ofControllers hfillable collectionInfo source).imp_left ?_
    rintro ⟨collection, after, hrun, hitems⟩
    refine ⟨collection, after, hrun, hitems, fun i r hr => ?_⟩
    refine exists_lookup_of_getElem? (fun r' hr' => ?_) hr
    obtain ⟨c, hc, e, he, rfl⟩ := mem_ofControllers_iff.1 hr'
    exact hverbs c hc e he

/-! ## A shop -/

/-- The shape of an item. -/
def itemShape : TypeShape := .object "Item" false [("name", .leaf "str" false)]

/-- A handler that searches items. -/
def itemSearch : Endpoint where
  name := "search"
  verb := "GET"
  route := "items/"
  parameters := [⟨"limit", .leaf "int" false, .query, false⟩]
  returnType := .array "list[Item]" false itemShape

/-- A handler that adds an item. -/
def itemAddition : Endpoint where
  name := "add"
  verb := "POST"
  route := "/items"
  parameters := [⟨"item", itemShape, .body, false⟩]
  returnType := itemShape

/-- The controller of both. -/
def shopController : Controller := ⟨"shop", "/shop/", [itemSearch, itemAddition], ""⟩

/-- A leaf without an unfit literal has a value. -/
theorem gives_leaf {text : String} (h : hasPlainLiteral text = true) (hint : Option String) :
    Gen.Gives (generate hint (.leaf text false)) fun _ => True := by
  have hservable : leafServable hint text = true := by simp [leafServable, h]
  rw [generate_leaf]
  exact (produces_mockLeaf hservable).1.mono fun _ _ => trivial

/-- The generator has a limit for the search. -/
theorem isFillable_itemSearch : IsFillable itemSearch := by
  refine ⟨fun t ht => ?_, fun p hp _ => ?_⟩
  · cases ht
  · obtain rfl := List.mem_singleton.1 hp
    exact ⟨⟨nofun, nofun⟩, gives_leaf (by decide +kernel)⟩

/-- The generator has an item to add. -/
theorem isFillable_itemAddition : IsFillable itemAddition := by
  have hbody : itemAddition.requestBody = some itemShape := rfl
  refine ⟨fun t ht => ?_, fun p hp hsource => ?_⟩
  · obtain rfl := Option.some.inj (hbody.symm.trans ht)
    show Gen.Gives (generate none (.object "Item" false _)) _
    rw [generate_object]
    refine (gives_generateFields (Q := fun _ => True) fun f hf => ?_).bind fun _ _ =>
      Gen.gives_pure trivial
    obtain rfl := List.mem_singleton.1 hf
    exact gives_leaf (by decide +kernel) _
  · obtain rfl := List.mem_singleton.1 hp
    cases hsource

/-- Both handlers stand under one path of the document, and each has its request in the collection. -/
theorem document_and_collection_show_routes_of_shop :
    (RouteTable.ofControllers [shopController]).map placeOf =
        [("/shop/items", "get"), ("/shop/items", "post")] ∧
      (∃ document log', (ApiDocument.build {} [shopController]).runFrom [] = (.ok document, log') ∧
        DescribesRoutes (.ofControllers [shopController]) document.toValue) ∧
      ∃ collection after,
        (SampleCollection.ofControllers {} [shopController]).run.run {} = (.ok collection, after) ∧
          SamplesRoutes (.ofControllers [shopController]) collection.toValue := by
  have hverbs : ∀ c ∈ [shopController], ∀ e ∈ c.endpoints, uppercase e.verb = e.verb := by
    decide +kernel
  have hfillable : ∀ c ∈ [shopController], ∀ e ∈ c.endpoints, IsFillable e := by
    intro c hc e he
    obtain rfl := List.mem_singleton.1 hc
    rcases List.mem_cons.1 he with rfl | he
    · exact isFillable_itemSearch
    · obtain rfl := List.mem_singleton.1 he
      exact isFillable_itemAddition
  have hshort : ApiDocument.hasLongStatus [shopController] = false := by decide +kernel
  have hfilled : ((SampleCollection.ofControllers {} [shopController]).run.run {}).1.isOk = true := by
    decide +kernel
  obtain ⟨hdocument, hcollection⟩ :=
    document_and_collection_show_routes hverbs hfillable {} {} {} []
  exact ⟨by decide +kernel,
    hdocument.resolve_right fun hlong => Bool.noConfusion (hlong.1.symm.trans hshort),
    hcollection.resolve_right fun hlong => not_longInteger_of_isOk hfilled hlong.2⟩

end RouteAtlas.Collection
