import RouteAtlas.Proofs.Routing.FirstMatch
import RouteAtlas.Proofs.Scan.PathBinding

/-!
# Declared routes are served

Every handler of a scanned project has its route, and a request is answered by the route of a handler
(`exists_route_of_handler`, `exists_handler_of_route`). A route serves what its handler declares as far
as the placeholders stand where a segment begins: one further in is text to be repeated, and one at the
beginning accepts the text behind it as well (`scan_routes_served`).
-/

namespace RouteAtlas.Scan

open RouteAtlas.Api RouteAtlas.Project RouteAtlas.Reflect RouteAtlas.Routing RouteAtlas.Syntax
open RouteAtlas.Text

/-! ## The route of a handler -/

/-- The route is that of a handler: it has its verb and its declared path in normal form. -/
structure IsRouteOf (files : List SourceFile) (r : RouterDecl) (handler : FunctionDecl × RouteDecorator)
    (route : Route) : Prop where
  name : route.endpoint.name = handler.1.name
  verb : route.endpoint.verb = uppercase handler.2.verb
  path : route.path =
    joinPath (normalizeRoute (routerPath files r)) (normalizeRoute handler.2.declaredPath)

variable {files : List SourceFile} {r : RouterDecl} {handler : FunctionDecl × RouteDecorator}

/-- The segments of a route are those of the declared path in normal form. -/
theorem IsRouteOf.segments_path {route : Route} (h : IsRouteOf files r handler route) :
    segments route.path = (segments (declaredRoute files r handler.2)).map normalizeRoute := by
  unfold declaredRoute
  rw [h.path, segments_joinPath, segments_joinPath, segments_normalizeRoute, segments_normalizeRoute,
    List.map_append]

/-- An endpoint has the verb of its decorator in capitals. -/
theorem endpointOf_verb {index : ClassIndex} {aliases : Aliases} {f : FunctionDecl}
    {d : RouteDecorator} {e : Endpoint} (h : endpointOf index aliases f d = .ok e) :
    e.verb = uppercase d.verb := by
  obtain ⟨_, _, h⟩ := exists_of_bind_eq_ok h
  obtain ⟨_, _, h⟩ := exists_of_bind_eq_ok h
  obtain rfl := Except.ok.inj h
  rfl

/-- The endpoints of a router's controller give the routes of its handlers, in order. -/
theorem isRouteOf_controllerIn {index : ClassIndex} {c : Controller}
    (h : controllerIn index files r = .ok c) :
    List.Forall₂ (fun handler e => IsRouteOf files r handler ⟨c, e, joinPath c.path e.route⟩)
      (handlersOf r.file.module r.name) c.endpoints := by
  obtain ⟨endpoints, hendpoints, h⟩ := exists_of_bind_eq_ok h
  obtain rfl := Except.ok.inj h
  refine (mapM_eq_ok_iff.1 hendpoints).imp fun handler e he => ?_
  have hbound := endpointOf_bound r he
  exact ⟨hbound.name, endpointOf_verb he, by rw [hbound.route]; rfl⟩

section Table

variable {log log' : Log} {controllers : List Controller}

/-- Every handler of a router has its route in the table. -/
theorem exists_route_of_handler (h : (controllersOf files).runFrom log = (.ok controllers, log'))
    (hr : r ∈ files.flatMap (·.routers)) (hhandler : handler ∈ handlersOf r.file.module r.name) :
    ∃ route ∈ RouteTable.ofControllers controllers, IsRouteOf files r handler route := by
  obtain ⟨index, c, hc, hkept⟩ := exists_controller_of_router h hr
  obtain ⟨e, he, hroute⟩ := exists_of_mem_right (isRouteOf_controllerIn hc).flip hhandler
  have hne : c.endpoints.isEmpty = false := List.isEmpty_eq_false_iff.2 (List.ne_nil_of_mem he)
  have hmem : c ∈ controllers := hkept (by simp [isController, hne])
  exact ⟨_, mem_ofControllers_iff.2 ⟨c, hmem, e, he, rfl⟩, hroute⟩

/-- Every route of the table is that of a handler. -/
theorem exists_handler_of_route (h : (controllersOf files).runFrom log = (.ok controllers, log'))
    {route : Route} (hroute : route ∈ RouteTable.ofControllers controllers) :
    ∃ r ∈ files.flatMap (·.routers), ∃ handler ∈ handlersOf r.file.module r.name,
      IsRouteOf files r handler route := by
  obtain ⟨c, hc, e, he, rfl⟩ := mem_ofControllers_iff.1 hroute
  obtain ⟨index, r, hr, hcontroller⟩ := exists_router_of_mem h hc
  obtain ⟨handler, hhandler, hroute⟩ := exists_of_mem_right (isRouteOf_controllerIn hcontroller) he
  exact ⟨r, hr, handler, hhandler, hroute⟩

end Table

/-! ## What the routes of a project serve -/

/-- The segments that have a placeholder begin with one, or with a colon. -/
def PlaceholdersLead (declared : String) : Prop :=
  ∀ s ∈ segments declared, (∃ name, HasPlaceholder s name) → IsOpen s

/-- The segments that begin with a placeholder, or with a colon, are placeholders. -/
def PlaceholdersStandAlone (declared : String) : Prop :=
  ∀ s ∈ segments declared, IsOpen s → IsHole s

instance (declared : String) : Decidable (PlaceholdersLead declared) :=
  decidable_of_iff (∀ s ∈ segments declared, (∃ name ∈ placeholderNames s, True) → IsOpen s) <| by
    simp only [PlaceholdersLead, mem_placeholderNames_iff, and_true]

instance (declared : String) : Decidable (PlaceholdersStandAlone declared) :=
  inferInstanceAs (Decidable (∀ s ∈ segments declared, _))

/-- In a scanned project a route accepts every filling of the path of its handler exactly if the
placeholders lead their segments, and nothing else exactly if they stand alone in them. A request is
answered by such a route. -/
theorem scan_routes_served {tree : FileTree} {root : Project.Path} {log log' : Log}
    {controllers : List Controller} (hdirectory : tree.isDirectory root = true)
    (hfiles : readSourceFiles tree (sourcePaths tree root skippedDirectories) = .ok files)
    (h : (scan tree root).runFrom log = (.ok controllers, log')) :
    (∀ r ∈ files.flatMap (·.routers), ∀ handler ∈ handlersOf r.file.module r.name,
      ∃ route ∈ RouteTable.ofControllers controllers, IsRouteOf files r handler route ∧
        ((∀ filled, IsFilling (declaredRoute files r handler.2) filled →
            pathMatches route.path filled = true) ↔
          PlaceholdersLead (declaredRoute files r handler.2)) ∧
        (PlaceholdersLead (declaredRoute files r handler.2) → ∀ filled,
          IsFilling (declaredRoute files r handler.2) filled → ∃ found,
            (RouteTable.ofControllers controllers).lookup handler.2.verb filled = some found)) ∧
    ∀ verb path route, (RouteTable.ofControllers controllers).lookup verb path = some route →
      ∃ r ∈ files.flatMap (·.routers), ∃ handler ∈ handlersOf r.file.module r.name,
        IsRouteOf files r handler route ∧
        ((∀ requested, pathMatches route.path requested = true → ∃ filled,
            IsFilling (declaredRoute files r handler.2) filled ∧
              segments filled = segments requested) ↔
          PlaceholdersStandAlone (declaredRoute files r handler.2)) ∧
        (PlaceholdersStandAlone (declaredRoute files r handler.2) → ∃ filled,
          IsFilling (declaredRoute files r handler.2) filled ∧ segments filled = segments path) := by
  obtain ⟨before, after, hrun⟩ := controllersOf_of_scan hdirectory hfiles h
  constructor
  · intro r hr handler hhandler
    obtain ⟨route, hmem, hroute⟩ := exists_route_of_handler hrun hr hhandler
    have haccepts := pathMatches_fillings_iff hroute.segments_path
    refine ⟨route, hmem, hroute, haccepts, fun hlead filled hfilled => ?_⟩
    exact exists_lookup_eq_some hmem hroute.verb (haccepts.2 hlead filled hfilled)
  · intro verb path route hlookup
    obtain ⟨hmem, _, hmatch⟩ := of_lookup_eq_some hlookup
    obtain ⟨r, hr, handler, hhandler, hroute⟩ := exists_handler_of_route hrun hmem
    have haccepts := fillings_of_pathMatches_iff hroute.segments_path
    exact ⟨r, hr, handler, hhandler, hroute, haccepts, fun halone => haccepts.2 halone path hmatch⟩

/-- The verbs and the paths that the handlers of these files declare. -/
def declaredRoutes (files : List SourceFile) : List (String × String) :=
  (files.flatMap (·.routers)).flatMap fun r =>
    (handlersOf r.file.module r.name).map fun handler =>
      (handler.2.verb, declaredRoute files r handler.2)

/-- The declared routes are those of the handlers of the routers. -/
theorem mem_declaredRoutes_iff {verb path : String} : (verb, path) ∈ declaredRoutes files ↔
    ∃ r ∈ files.flatMap (·.routers), ∃ handler ∈ handlersOf r.file.module r.name,
      handler.2.verb = verb ∧ declaredRoute files r handler.2 = path := by
  unfold declaredRoutes
  simp only [List.mem_flatMap (b := (verb, path)), List.mem_map, Prod.mk.injEq]

/-- A project with one route whose placeholder is a segment of its own. -/
def itemProject : FileTree where
  entries := [(["project"], .directory), (["project", "api.py"], .file
    ("router = APIRouter(prefix=\"/items\")\n" ++
      "@router.get(\"/\x7bitem_id:int\x7d\")\ndef item(item_id): ...\n").toUTF8.toList)]
  cwd := ["project"]

/-- The route of that project answers for every item, and for nothing else. -/
theorem scan_routes_served_of_itemProject :
    ∃ files controllers log,
      readSourceFiles itemProject (sourcePaths itemProject (.ofString ".") skippedDirectories) =
        .ok files ∧
      (scan itemProject (.ofString ".")).runFrom [] = (.ok controllers, log) ∧
      declaredRoutes files = [("get", "/items/\x7bitem_id:int\x7d")] ∧
      (∀ filled, IsFilling "/items/\x7bitem_id:int\x7d" filled →
        ∃ route, (RouteTable.ofControllers controllers).lookup "get" filled = some route) ∧
      ∀ verb path route, (RouteTable.ofControllers controllers).lookup verb path = some route →
        ∃ filled, IsFilling "/items/\x7bitem_id:int\x7d" filled ∧
          segments filled = segments path := by
  -- the kernel reads the sources once for both runs
  obtain ⟨hread, hscan⟩ : (readSourceFiles itemProject
        (sourcePaths itemProject (.ofString ".") skippedDirectories)).toOption.any
          (fun files => declaredRoutes files == [("get", "/items/\x7bitem_id:int\x7d")]) = true ∧
      ((scan itemProject (.ofString ".")).runFrom []).1.toOption.any (fun _ => true) = true := by
    decide +kernel
  obtain ⟨files, hfiles, hroutes⟩ := exists_eq_ok_of_any hread
  obtain ⟨controllers, log, hrun, _⟩ := Logged.exists_run_of_any hscan
  have hdeclared := beq_iff_eq.1 hroutes
  obtain ⟨hserved, honly⟩ := scan_routes_served (by decide +kernel) hfiles hrun
  refine ⟨files, controllers, log, hfiles, hrun, hdeclared, ?_, ?_⟩
  · obtain ⟨r, hr, handler, hhandler, hverb, hpath⟩ :=
      mem_declaredRoutes_iff.1 (hdeclared ▸ List.mem_singleton_self _)
    obtain ⟨route, _, _, _, hfound⟩ := hserved r hr handler hhandler
    rw [hpath, hverb] at hfound
    exact hfound (by decide +kernel)
  · intro verb path route hlookup
    obtain ⟨r, hr, handler, hhandler, _, _, hfilled⟩ := honly verb path route hlookup
    have hmem := mem_declaredRoutes_iff.2 ⟨r, hr, handler, hhandler, rfl, rfl⟩
    rw [hdeclared, List.mem_singleton] at hmem
    rw [(Prod.mk.inj hmem).2] at hfilled
    exact hfilled (by decide +kernel)

/-- A file with one route, under this path. -/
def oneRoute (path : String) : List SourceFile := [⟨⟨"", ["api.py"]⟩, ⟨[
  .assign [.name "router"] (.call (.name "APIRouter") [] []),
  .function "item" Signature.empty [] [.call (.attribute (.name "router") "get")
    [.constant (.str path false)] []] none]⟩⟩]

/-- What is filled in in front of a suffix keeps the suffix. -/
theorem not_isFilling_suffix : ¬ IsFilling "\x7bname\x7d.txt" "abc" := by
  intro h
  have hname : IsPlaceholder "name".toList "\x7bname\x7d".toList :=
    .plain ⟨nofun, List.all_eq_true.1 rfl⟩
  have hfills : Fills ("\x7bname\x7d".toList ++ ".txt".toList) "abc".toList := h
  obtain ⟨value, rest, _, he, hrest⟩ := Fills.exists_of_placeholder hname hfills
  have hsuffix : rest = ".txt".toList := hrest.eq_of_not_occurs fun name => by
    rw [← List.append_nil ".txt".toList, occurs_append_iff (by simp)]
    exact not_occurs_nil
  have hlength := congrArg List.length he
  rw [hsuffix, List.length_append] at hlength
  exact absurd hlength (by simp)

/-- A route behind a placeholder that does not lead its segment is not found, and one with text behind a
placeholder is found under other paths than its own. -/
theorem not_forall_routes_served :
    (¬ ∀ (files : List SourceFile) (log log' : Log) (controllers : List Controller),
      (controllersOf files).runFrom log = (.ok controllers, log') →
        ∀ r ∈ files.flatMap (·.routers), ∀ handler ∈ handlersOf r.file.module r.name, ∀ filled,
          IsFilling (declaredRoute files r handler.2) filled → ∃ route,
            (RouteTable.ofControllers controllers).lookup handler.2.verb filled = some route) ∧
    ¬ ∀ (files : List SourceFile) (log log' : Log) (controllers : List Controller),
      (controllersOf files).runFrom log = (.ok controllers, log') → ∀ verb path route,
        (RouteTable.ofControllers controllers).lookup verb path = some route →
          ∃ r ∈ files.flatMap (·.routers), ∃ handler ∈ handlersOf r.file.module r.name,
            IsRouteOf files r handler route ∧ ∃ filled,
              IsFilling (declaredRoute files r handler.2) filled ∧
                segments filled = segments path := by
  constructor
  · intro h
    have hlookup : ((controllersOf (oneRoute "/v\x7bversion\x7d/items")).runFrom []).1.toOption.any
        (fun controllers =>
          ((RouteTable.ofControllers controllers).lookup "get" "/v1/items").isNone) = true := by
      decide +kernel
    obtain ⟨controllers, log, hrun, hnone⟩ := Logged.exists_run_of_any hlookup
    have hfilling : IsFilling "/v\x7bversion\x7d/items" "/v1/items" := by
      have hfilled : fillWith (fun _ => ['1']) "/v\x7bversion\x7d/items".toList =
          "/v1/items".toList := by decide +kernel
      unfold IsFilling
      rw [← hfilled]
      exact fills_fillWith (fun _ _ => by decide) _
    obtain ⟨route, hfound⟩ := h _ _ _ _ hrun _ List.mem_cons_self _ List.mem_cons_self "/v1/items"
      hfilling
    rw [hfound] at hnone
    cases hnone
  · intro h
    have hlookup : ((controllersOf (oneRoute "/files/\x7bname\x7d.txt")).runFrom []).1.toOption.any
        (fun controllers =>
          ((RouteTable.ofControllers controllers).lookup "get" "/files/abc").isSome) = true := by
      decide +kernel
    obtain ⟨controllers, log, hrun, hsome⟩ := Logged.exists_run_of_any hlookup
    obtain ⟨route, hfound⟩ := Option.isSome_iff_exists.1 hsome
    obtain ⟨r, hr, handler, hhandler, _, filled, hfilled, hsegments⟩ := h _ _ _ _ hrun _ _ _ hfound
    have hdeclared : declaredRoutes (oneRoute "/files/\x7bname\x7d.txt") =
        [("get", "/files/\x7bname\x7d.txt")] := by decide +kernel
    have hmem := mem_declaredRoutes_iff.2 ⟨r, hr, handler, hhandler, rfl, rfl⟩
    rw [hdeclared, List.mem_singleton] at hmem
    rw [(Prod.mk.inj hmem).2] at hfilled
    have hparts := hfilled.forall₂_segments
    have hsplit : segments "/files/\x7bname\x7d.txt" = ["files", "\x7bname\x7d.txt"] := by
      decide +kernel
    have hsplit' : segments "/files/abc" = ["files", "abc"] := by decide +kernel
    rw [hsegments, hsplit, hsplit'] at hparts
    obtain _ | ⟨_, _ | ⟨hpart, _⟩⟩ := hparts
    exact not_isFilling_suffix hpart

end RouteAtlas.Scan
