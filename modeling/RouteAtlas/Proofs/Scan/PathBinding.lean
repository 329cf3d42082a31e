import RouteAtlas.OpenApi.Operation
import RouteAtlas.Proofs.Routing.Placeholder
import RouteAtlas.Proofs.Scan.ScanRun

/-!
# Parameters in the path

Which parameters of a handler take their values from the path. A parameter without a marker does if the
path of the decorator has a placeholder of its name; the prefixes in front of it are not asked
(`scan_path_parameters`), so the complete path of the route can hold a placeholder whose parameter is
described in the query.
-/

namespace RouteAtlas.Scan

open RouteAtlas.Api RouteAtlas.OpenApi RouteAtlas.Project RouteAtlas.Reflect RouteAtlas.Routing
open RouteAtlas.Schema RouteAtlas.Syntax

/-! ## Binding a parameter -/

/-- No marker says where the parameter takes its value from, in its annotation or as its default. -/
def IsUnmarked (aliases : Aliases) (p : Param Expr) (default : Option Expr) : Prop :=
  (∀ marked, MarkedHint.ofExpr (resolveAlias aliases p.hint) = .ok marked → marked.marker = none) ∧
    default.bind Marker.ofExpr? = none

/-- Without a marker a parameter comes from the path exactly if it is named there. -/
theorem sourceOf_unmarked_eq_path_iff (pathNames : List String) (name : String) (hint : Option Expr)
    (t : TypeShape) : sourceOf pathNames name hint none t = .path ↔ name ∈ pathNames := by
  unfold sourceOf
  by_cases h : name ∈ pathNames
  · simp [h]
  · simp only [List.contains_eq_mem, h, decide_false, Bool.false_eq_true, if_false, iff_false]
    split
    · exact nofun
    · split <;> exact nofun

section Binding

variable {index : ClassIndex} {aliases : Aliases}

/-- A bound parameter keeps its name. -/
theorem bindParameter_name {pathNames : List String} {p : Param Expr} {default : Option Expr}
    {q : Parameter} (h : bindParameter index aliases pathNames p default = .ok q) :
    q.name = p.name := by
  obtain ⟨_, _, h⟩ := exists_of_bind_eq_ok h
  obtain ⟨_, _, h⟩ := exists_of_bind_eq_ok h
  obtain rfl := Except.ok.inj h
  rfl

/-- Without a marker the names of the path decide. -/
theorem bindParameter_source_eq_path_iff {pathNames : List String} {p : Param Expr}
    {default : Option Expr} {q : Parameter}
    (h : bindParameter index aliases pathNames p default = .ok q)
    (hu : IsUnmarked aliases p default) : q.source = .path ↔ p.name ∈ pathNames := by
  obtain ⟨marked, hmarked, h⟩ := exists_of_bind_eq_ok h
  obtain ⟨t, _, h⟩ := exists_of_bind_eq_ok h
  obtain rfl := Except.ok.inj h
  dsimp only
  rw [hu.1 marked hmarked, hu.2]
  exact sourceOf_unmarked_eq_path_iff pathNames p.name marked.type t

/-! ## Describing a parameter -/

/-- The places of one described parameter: the path if it takes its value from there, else the query,
or none. -/
def DescribedBySource (q : Parameter) (infos : List ParameterInfo) : Prop :=
  if q.source = .path then ∃ s, infos = [⟨q.name, .path, true, s⟩]
  else ∀ info ∈ infos, info.place = .query

/-- A parameter is described by where it comes from. -/
theorem describedBySource_describeParameter (q : Parameter) (r : Registry TypeSchema) :
    DescribedBySource q ((describeParameter q).run r).1 := by
  unfold DescribedBySource describeParameter
  cases hq : q.source with
  | path => exact ⟨_, rfl⟩
  | body => exact fun info hinfo => absurd hinfo List.not_mem_nil
  | none => exact fun info hinfo => absurd hinfo List.not_mem_nil
  | query =>
    rw [if_neg nofun]
    dsimp only
    split
    · next properties _ =>
      intro info hinfo
      obtain ⟨f, _, before, hf⟩ := exists_of_mem_right
        (forall₂_run_mapM (fun f : String × TypeShape => describeQuery f.1 f.2) properties r) hinfo
      rw [← hf]
      rfl
    · intro info hinfo
      rw [List.mem_singleton.1 hinfo]

/-- The parameters of an operation are those of its endpoint, in order, each at its place. -/
theorem ofEndpoint_parameters (baseUrl tag path : String) (e : Endpoint) (r : Registry TypeSchema) :
    ∃ described, ((Operation.ofEndpoint baseUrl tag path e).run r).1.parameters = described.flatten ∧
      List.Forall₂ DescribedBySource e.parameters described := by
  -- the body is described first, so the parameters meet the registry that it leaves
  refine ⟨((e.parameters.mapM describeParameter).run ((describeBody e).run r).2).1, rfl, ?_⟩
  refine (forall₂_run_mapM describeParameter e.parameters _).imp fun q infos h => ?_
  obtain ⟨before, rfl⟩ := h
  exact describedBySource_describeParameter q before

end Binding

/-! ## The routes of a scan -/

/-- What the files add to the paths of a router where they include it. -/
def mountPath (files : List SourceFile) (r : RouterDecl) : String :=
  (mountOf (mountsOf files (files.flatMap (·.routers))) r).start

/-- The path in front of a router's routes as the files declare it: that of the mount and the prefix of
the router. -/
def routerPath (files : List SourceFile) (r : RouterDecl) : String :=
  joinStarts (mountPath files r) r.start

/-- The complete path of a route as it is declared. -/
def declaredRoute (files : List SourceFile) (r : RouterDecl) (d : RouteDecorator) : String :=
  joinPath (routerPath files r) d.declaredPath

/-- Joined starts have the placeholders of both. -/
theorem hasPlaceholder_joinStarts {a b name : String} :
    HasPlaceholder (joinStarts a b) name ↔ HasPlaceholder a name ∨ HasPlaceholder b name := by
  unfold joinStarts
  split
  · next h =>
    obtain ⟨ha, hb⟩ := Bool.and_eq_true_iff.1 h
    rw [String.isEmpty_iff.1 ha, String.isEmpty_iff.1 hb, or_self]
  · exact hasPlaceholder_joinPath

/-- The complete path holds the placeholders of its three parts. -/
theorem hasPlaceholder_declaredRoute {files : List SourceFile} {r : RouterDecl} {d : RouteDecorator}
    {name : String} : HasPlaceholder (declaredRoute files r d) name ↔
      (HasPlaceholder (mountPath files r) name ∨ HasPlaceholder r.start name) ∨
        HasPlaceholder d.declaredPath name := by
  unfold declaredRoute routerPath
  rw [hasPlaceholder_joinPath, hasPlaceholder_joinStarts]

/-- The endpoint is what its handler says, and each of its parameters without a marker is bound by the
path of the decorator. The complete path agrees unless only what stands in front has the placeholder. -/
structure BoundByDecorator (files : List SourceFile) (r : RouterDecl) (f : FunctionDecl)
    (d : RouteDecorator) (e : Endpoint) : Prop where
  name : e.name = f.name
  route : e.route = normalizeRoute d.declaredPath
  parameters : List.Forall₂ (fun p q => q.name = p.1.name ∧
    (IsUnmarked (aliasesOf files) p.1 p.2 →
      (q.source = .path ↔ HasPlaceholder d.declaredPath q.name) ∧
      ((q.source = .path ↔ HasPlaceholder (declaredRoute files r d) q.name) ↔
        (HasPlaceholder (mountPath files r) q.name ∨ HasPlaceholder r.start q.name →
          HasPlaceholder d.declaredPath q.name))))
    f.parameters e.parameters

/-- An endpoint is bound by its decorator. -/
theorem endpointOf_bound {index : ClassIndex} {files : List SourceFile} (r : RouterDecl)
    {f : FunctionDecl} {d : RouteDecorator} {e : Endpoint}
    (h : endpointOf index (aliasesOf files) f d = .ok e) : BoundByDecorator files r f d e := by
  obtain ⟨parameters, hparameters, h⟩ := exists_of_bind_eq_ok h
  obtain ⟨_, _, h⟩ := exists_of_bind_eq_ok h
  obtain rfl := Except.ok.inj h
  refine ⟨rfl, rfl, (mapM_eq_ok_iff.1 hparameters).imp fun p q hq => ?_⟩
  have hname : q.name = p.1.name := bindParameter_name hq
  refine ⟨hname, fun hu => ?_⟩
  have hsource : q.source = .path ↔ HasPlaceholder d.declaredPath q.name := by
    rw [bindParameter_source_eq_path_iff hq hu, mem_placeholderNames_iff, hname]
  refine ⟨hsource, ?_⟩
  rw [hsource, hasPlaceholder_declaredRoute]
  constructor
  · intro h hprefix
    exact h.2 (Or.inl hprefix)
  · intro h
    exact ⟨Or.inr, fun hd => hd.elim h id⟩

/-- The controller of a router has an endpoint for each of the router's handlers, in order. -/
theorem controllerOf_bound {index : ClassIndex} {files : List SourceFile} {r : RouterDecl}
    {c : Controller}
    (h : controllerOf index (aliasesOf files) (mountsOf files (files.flatMap (·.routers))) r = .ok c) :
    c.path = normalizeRoute (routerPath files r) ∧
      List.Forall₂ (fun handler e => BoundByDecorator files r handler.1 handler.2 e)
        (handlersOf r.file.module r.name) c.endpoints := by
  obtain ⟨endpoints, hendpoints, h⟩ := exists_of_bind_eq_ok h
  obtain rfl := Except.ok.inj h
  exact ⟨rfl, (mapM_eq_ok_iff.1 hendpoints).imp fun handler e => endpointOf_bound r⟩

/-- In a scanned project an unmarked parameter is bound to the path exactly if the path of the decorator
has its placeholder, and it is described in the path exactly if it is bound to it. -/
theorem scan_path_parameters {tree : FileTree} {root : Project.Path} {log log' : Log}
    {controllers : List Controller}
    (h : (scan tree root).runFrom log = (.ok controllers, log')) {c : Controller}
    (hc : c ∈ controllers) : ∃ files,
      readSourceFiles tree (sourcePaths tree root skippedDirectories) = .ok files ∧
      ∃ r ∈ files.flatMap (·.routers), c.path = normalizeRoute (routerPath files r) ∧
        List.Forall₂ (fun handler e => BoundByDecorator files r handler.1 handler.2 e ∧
            ∀ baseUrl tag path registry, ∃ described,
              ((Operation.ofEndpoint baseUrl tag path e).run registry).1.parameters =
                described.flatten ∧
              List.Forall₂ DescribedBySource e.parameters described)
          (handlersOf r.file.module r.name) c.endpoints := by
  obtain ⟨files, before, after, hfiles, hrun⟩ := exists_files_of_scan h hc
  obtain ⟨index, r, hr, hcontroller⟩ := exists_router_of_mem hrun hc
  obtain ⟨hpath, hbound⟩ := controllerOf_bound hcontroller
  refine ⟨files, hfiles, r, hr, hpath, hbound.imp fun handler e he => ⟨he, ?_⟩⟩
  exact fun baseUrl tag path registry => ofEndpoint_parameters baseUrl tag path e registry

/-- A project with one route: the placeholder of its parameter stands in the prefix of the router. -/
def prefixedProject : FileTree where
  entries := [(["project"], .directory), (["project", "api.py"], .file
    ("router = APIRouter(prefix=\"/users/\x7buser_id\x7d\")\n" ++
      "@router.get(\"/items\")\ndef items(user_id): ...\n").toUTF8.toList)]
  cwd := ["project"]

/-- The parameter of that project takes its value from the query. -/
theorem scan_path_parameters_of_prefixedProject :
    ∃ c log, (scan prefixedProject (.ofString ".")).runFrom [] = (.ok [c], log) ∧
      (c.endpoints.flatMap (·.parameters)).map (fun q => (q.name, q.source)) =
        [("user_id", .query)] ∧
      ∃ files, ∃ r ∈ files.flatMap (·.routers), c.path = normalizeRoute (routerPath files r) ∧
        List.Forall₂ (fun handler e => BoundByDecorator files r handler.1 handler.2 e)
          (handlersOf r.file.module r.name) c.endpoints := by
  -- controllers have no decidable equality, so the kernel runs the scan against its sources alone
  have hscan : ((scan prefixedProject (.ofString ".")).runFrom []).1.toOption.any (fun controllers =>
      controllers.map (fun c => (c.endpoints.flatMap (·.parameters)).map fun q =>
        (q.name, q.source)) == [[("user_id", ParameterSource.query)]]) = true := by decide +kernel
  obtain ⟨controllers, log, hrun, hread⟩ := Logged.exists_run_of_any hscan
  obtain ⟨c, rfl, hsources⟩ := List.map_eq_singleton_iff.1 (beq_iff_eq.1 hread)
  obtain ⟨files, _, r, hr, hpath, hbound⟩ := scan_path_parameters hrun (List.mem_singleton_self c)
  refine ⟨c, log, hrun, hsources, files, r, hr, hpath, ?_⟩
  exact hbound.imp fun handler e h => h.1

/-- The complete path of a route does not decide: a placeholder in the prefix of the router makes no
parameter one of the path. -/
theorem not_forall_source_eq_path_iff_declaredRoute :
    ¬ ∀ (files : List SourceFile) (log log' : Log) (controllers : List Controller),
      (controllersOf files).runFrom log = (.ok controllers, log') → ∀ c ∈ controllers,
        ∃ r ∈ files.flatMap (·.routers), c.path = normalizeRoute (routerPath files r) ∧
          List.Forall₂ (fun handler e => List.Forall₂ (fun p q =>
              IsUnmarked (aliasesOf files) p.1 p.2 →
                (q.source = .path ↔ HasPlaceholder (declaredRoute files r handler.2) q.name))
              handler.1.parameters e.parameters)
            (handlersOf r.file.module r.name) c.endpoints := by
  intro h
  let signature : Signature Expr := { Signature.empty with ordinary := [⟨"user_id", none⟩] }
  let file : SourceFile := ⟨⟨"", ["api.py"]⟩, ⟨[
    .assign [.name "router"] (.call (.name "APIRouter") []
      [(some "prefix", .constant (.str "/users/\x7buser_id\x7d" false))]),
    .function "items" signature [] [.call (.attribute (.name "router") "get")
      [.constant (.str "/items" false)] []] none]⟩⟩
  obtain ⟨r, hr, _, hbound⟩ := h [file] [] _ _ rfl _ List.mem_cons_self
  obtain rfl := List.mem_singleton.1 hr
  cases hbound with
  | cons hparameters _ =>
    cases hparameters with
    | cons hsource _ =>
      have hunmarked : IsUnmarked (aliasesOf [file]) ⟨"user_id", none⟩ none := by
        refine ⟨fun marked hm => ?_, rfl⟩
        rw [← Except.ok.inj hm]
      have hpath := (hsource hunmarked).2 (by decide)
      cases hpath

end RouteAtlas.Scan
