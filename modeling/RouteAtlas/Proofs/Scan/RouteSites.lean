import Mathlib.Data.List.Forall2
import RouteAtlas.Proofs.Scan.ScanRun

/-!
# The sites of routes

A route is declared at a site: a decorator of a function at the top of a file. The endpoints of a scan
belong to sites one by one, and each site has as many as its file declares routers of its variable
(`scan_route_sites`), so a route whose variable is set to a router twice is listed twice.
-/

namespace RouteAtlas.Scan

open RouteAtlas.Api RouteAtlas.Project RouteAtlas.Reflect RouteAtlas.Syntax

/-! ## Numbered lists -/

section Numbered

variable {α β γ : Type}

/-- What only one place of a list contributes is counted there. -/
theorem count_flatMap_zipIdx [DecidableEq β] {f : α × Nat → List β} {b : β} {k n : Nat} {xs : List α}
    {x : α} (hx : xs[k]? = some x) (hother : ∀ y j, j ≠ n + k → b ∉ f (y, j)) :
    ((xs.zipIdx n).flatMap f).count b = (f (x, n + k)).count b := by
  induction xs generalizing k n with
  | nil => cases hx
  | cons y xs ih =>
    rw [List.zipIdx_cons, List.flatMap_cons, List.count_append]
    cases k with
    | zero =>
      obtain rfl : y = x := Option.some.inj hx
      have hrest : b ∉ (xs.zipIdx (n + 1)).flatMap f := by
        intro hb
        obtain ⟨⟨z, j⟩, hmem, hb⟩ := List.mem_flatMap.1 hb
        have hle : n + 1 ≤ j := List.le_snd_of_mem_zipIdx hmem
        exact hother z j (by omega) hb
      rw [List.count_eq_zero.2 hrest, Nat.add_zero, Nat.add_zero]
    | succ k =>
      have hhead : b ∉ f (y, n) := hother y n (by omega)
      rw [List.count_eq_zero.2 hhead, Nat.zero_add, Nat.add_comm k 1, ← Nat.add_assoc]
      refine ih hx fun z j hj => hother z j ?_
      omega

/-- Lists that belong together place by place, put together. -/
theorem forall₂_flatMap {R : β → γ → Prop} {xs : List α} {f : α → List β} {g : α → List γ}
    (h : ∀ x ∈ xs, List.Forall₂ R (f x) (g x)) : List.Forall₂ R (xs.flatMap f) (xs.flatMap g) := by
  induction xs with
  | nil => exact .nil
  | cons x xs ih =>
    rw [List.flatMap_cons, List.flatMap_cons]
    exact List.rel_append (h x List.mem_cons_self) (ih fun y hy => h y (List.mem_cons_of_mem x hy))

/-- Lists that belong together through a third. -/
theorem forall₂_trans {R : α → β → Prop} {S : β → γ → Prop} {xs : List α} {ys : List β} {zs : List γ}
    (hxy : List.Forall₂ R xs ys) (hyz : List.Forall₂ S ys zs) :
    List.Forall₂ (fun x z => ∃ y, R x y ∧ S y z) xs zs := by
  induction hxy generalizing zs with
  | nil =>
    cases hyz
    exact .nil
  | cons hr _ ih =>
    obtain _ | ⟨hs, hyz⟩ := hyz
    exact .cons ⟨_, hr, hs⟩ (ih hyz)

/-- Numbering elements changes nothing that does not look at the numbers. -/
theorem flatMap_zipIdx_fst (xs : List α) (n : Nat) (f : α → List β) :
    (xs.zipIdx n).flatMap (fun p => f p.1) = xs.flatMap f := by
  rw [← List.flatMap_map, List.zipIdx_map_fst]

end Numbered

/-! ## Sites -/

/-- The place of a decorator in a project, by number: its file, its statement and the decorator. -/
structure RouteSite where
  file : Nat
  statement : Nat
  decorator : Nat
deriving Repr, DecidableEq, Inhabited

/-- At this site of a file a function is decorated as a route of what the variable holds. -/
structure RouteAt (file : SourceFile) (site : RouteSite) (owner : String) (f : FunctionDecl)
    (d : RouteDecorator) : Prop where
  function : ∃ s, file.module.body[site.statement]? = some s ∧ FunctionDecl.ofStmt? s = some f
  decorator : ∃ e, f.decorators[site.decorator]? = some e ∧ RouteDecorator.ofExpr? owner e = some d

/-- The sites of the routes of what a variable holds, in a file of this number. -/
def SourceFile.routeSites (file : SourceFile) (number : Nat) (owner : String) : List RouteSite :=
  file.module.body.zipIdx.flatMap fun (s, j) => (FunctionDecl.ofStmt? s).toList.flatMap fun f =>
    f.decorators.zipIdx.flatMap fun (e, k) =>
      (RouteDecorator.ofExpr? owner e).toList.map fun _ => ⟨number, j, k⟩

/-- The sites of the routes of a project, router by router. -/
def routeSites (files : List SourceFile) : List RouteSite :=
  files.zipIdx.flatMap fun (file, i) => file.routers.flatMap fun r => file.routeSites i r.name

section File

variable {file : SourceFile} {site : RouteSite} {owner : String} {f : FunctionDecl}
variable {d : RouteDecorator} {number : Nat}

/-- The sites of a file are where its routes stand. -/
theorem mem_routeSites_iff : site ∈ file.routeSites number owner ↔
    site.file = number ∧ ∃ f d, RouteAt file site owner f d := by
  unfold SourceFile.routeSites
  simp only [List.mem_flatMap, List.mem_map, Option.mem_toList, Prod.exists,
    List.mem_zipIdx_iff_getElem?]
  constructor
  · rintro ⟨s, j, hs, f, hf, e, k, he, d, hd, rfl⟩
    exact ⟨rfl, f, d, ⟨s, hs, hf⟩, ⟨e, he, hd⟩⟩
  · rintro ⟨rfl, f, d, ⟨s, hs, hf⟩, ⟨e, he, hd⟩⟩
    exact ⟨s, site.statement, hs, f, hf, e, site.decorator, he, d, hd, rfl⟩

/-- A decorator is a route of one variable. -/
theorem RouteDecorator.ofExpr?_eq_ite {e : Expr} (h : RouteDecorator.ofExpr? owner e = some d)
    (other : String) : RouteDecorator.ofExpr? other e = if other = owner then some d else none := by
  by_cases hother : other = owner
  · rw [hother, if_pos rfl, h]
  · rw [if_neg hother]
    unfold RouteDecorator.ofExpr? at h ⊢
    split at h
    · next name verb args keywords =>
      have hname : name = owner := by
        by_contra hne
        simp [hne] at h
      rw [if_neg]
      rintro ⟨rfl, _⟩
      exact hother hname
    · cases h

/-- A site is listed once among those of its variable, and not among those of others. -/
theorem count_routeSites (h : RouteAt file site owner f d) (other : String) :
    (file.routeSites site.file other).count site = if other = owner then 1 else 0 := by
  obtain ⟨s, hs, hf⟩ := h.function
  obtain ⟨e, he, hd⟩ := h.decorator
  unfold SourceFile.routeSites
  rw [count_flatMap_zipIdx hs]
  · dsimp only
    rw [hf, Option.toList_some, List.flatMap_cons, List.flatMap_nil, List.append_nil,
      count_flatMap_zipIdx he]
    · dsimp only
      rw [RouteDecorator.ofExpr?_eq_ite hd]
      split
      · simp
      · simp
    · intro e' k hk hmem
      obtain ⟨_, _, hsite⟩ := List.mem_map.1 hmem
      rw [← hsite] at hk
      simp at hk
  · intro s' j hj hmem
    simp only [List.mem_flatMap, List.mem_map] at hmem
    obtain ⟨_, _, _, _, _, _, hsite⟩ := hmem
    rw [← hsite] at hj
    simp at hj

/-- The handlers of a variable, function by function and decorator by decorator. -/
theorem handlersOf_eq (m : Module) (owner : String) : handlersOf m owner =
    m.body.zipIdx.flatMap fun p => (FunctionDecl.ofStmt? p.1).toList.flatMap fun f =>
      f.decorators.zipIdx.flatMap fun q => (RouteDecorator.ofExpr? owner q.1).toList.map (f, ·) := by
  have hdecorators (f : FunctionDecl) :
      (f.decorators.filterMap (RouteDecorator.ofExpr? owner)).map (f, ·) =
        f.decorators.zipIdx.flatMap fun q =>
          (RouteDecorator.ofExpr? owner q.1).toList.map (f, ·) := by
    rw [flatMap_zipIdx_fst f.decorators 0 fun e => (RouteDecorator.ofExpr? owner e).toList.map (f, ·),
      List.filterMap_eq_flatMap_toList, List.map_flatMap]
  unfold handlersOf
  rw [flatMap_zipIdx_fst m.body 0 fun s => (FunctionDecl.ofStmt? s).toList.flatMap _,
    List.filterMap_eq_flatMap_toList, List.flatMap_assoc]
  simp only [hdecorators]

/-- The sites of a variable's routes belong to its handlers, in order. -/
theorem forall₂_routeSites (file : SourceFile) (number : Nat) (owner : String) :
    List.Forall₂ (fun site handler => site.file = number ∧
        RouteAt file site owner handler.1 handler.2)
      (file.routeSites number owner) (handlersOf file.module owner) := by
  rw [handlersOf_eq]
  unfold SourceFile.routeSites
  refine forall₂_flatMap fun p hp => forall₂_flatMap fun f hf => forall₂_flatMap fun q hq => ?_
  have hs := List.mem_zipIdx_iff_getElem?.1 hp
  have he := List.mem_zipIdx_iff_getElem?.1 hq
  dsimp only
  cases hd : RouteDecorator.ofExpr? owner q.1 with
  | none => exact .nil
  | some d => exact .cons ⟨rfl, ⟨p.1, hs, Option.mem_toList.1 hf⟩, ⟨q.1, he, hd⟩⟩ .nil

end File

/-! ## Endpoints of a scan -/

/-- The endpoint is that of the route at the site, whose variable a router of the file has. -/
structure IsEndpointAt (index : ClassIndex) (files : List SourceFile) (site : RouteSite)
    (e : Endpoint) : Prop where
  route : ∃ file ∈ files[site.file]?, ∃ r ∈ file.routers, ∃ f d, RouteAt file site r.name f d ∧
    endpointOf index (aliasesOf files) f d = .ok e

section Scan

variable {index : ClassIndex} {files : List SourceFile} {r : RouterDecl}

/-- The endpoints of a router, none if it has no controller. -/
def endpointsOf (index : ClassIndex) (files : List SourceFile) (r : RouterDecl) : List Endpoint :=
  ((controllerIn index files r).toOption.map (·.endpoints)).getD []

/-- An application that is no controller has no endpoints. -/
theorem endpoints_keptController? (index : ClassIndex) (files : List SourceFile) (r : RouterDecl) :
    (keptController? index files r).toList.flatMap (·.endpoints) = endpointsOf index files r := by
  unfold keptController? endpointsOf
  cases controllerIn index files r with
  | error fault => rfl
  | ok c =>
    dsimp only [Except.toOption, Option.map_some, Option.getD_some]
    by_cases hkept : isController r c = true
    · rw [if_pos hkept]
      simp
    · have hempty : c.endpoints = [] := by
        rw [isController, Bool.not_eq_true, Bool.or_eq_false_iff] at hkept
        simpa using hkept.1
      rw [if_neg hkept, hempty]
      rfl

/-- The endpoints of a file's router belong to the sites of its variable's routes, in order. -/
theorem forall₂_endpointsOf {file : SourceFile} {number : Nat} (hfile : files[number]? = some file)
    (hr : r ∈ file.routers) {c : Controller} (hc : controllerIn index files r = .ok c) :
    List.Forall₂ (IsEndpointAt index files) (file.routeSites number r.name)
      (endpointsOf index files r) := by
  have hendpoints : endpointsOf index files r = c.endpoints := by
    unfold endpointsOf
    rw [hc]
    rfl
  obtain ⟨endpoints, hmapped, hc⟩ := exists_of_bind_eq_ok hc
  obtain rfl := Except.ok.inj hc
  rw [file_of_mem_routers hr] at hmapped
  rw [hendpoints]
  refine (forall₂_trans (forall₂_routeSites file number r.name) (mapM_eq_ok_iff.1 hmapped)).imp ?_
  rintro site e ⟨handler, ⟨rfl, hroute⟩, he⟩
  exact ⟨file, hfile, r, hr, handler.1, handler.2, hroute, he⟩

/-- The endpoints of a scan are those of its routers, in order. -/
theorem flatMap_endpoints (index : ClassIndex) (files : List SourceFile) :
    ((files.flatMap (·.routers)).filterMap (keptController? index files)).flatMap (·.endpoints) =
      files.zipIdx.flatMap fun p => p.1.routers.flatMap (endpointsOf index files) := by
  rw [flatMap_zipIdx_fst files 0 fun file => file.routers.flatMap (endpointsOf index files),
    List.filterMap_eq_flatMap_toList, List.flatMap_assoc, List.flatMap_assoc]
  simp only [endpoints_keptController?]

/-- A site is listed once for each router of its variable. -/
theorem count_flatMap_routeSites {file : SourceFile} {site : RouteSite} {owner : String}
    {f : FunctionDecl} {d : RouteDecorator} (h : RouteAt file site owner f d)
    (routers : List RouterDecl) :
    (routers.flatMap fun r => file.routeSites site.file r.name).count site =
      routers.countP (·.name == owner) := by
  induction routers with
  | nil => rfl
  | cons r routers ih =>
    rw [List.flatMap_cons, List.count_append, count_routeSites h, ih, List.countP_cons,
      Nat.add_comm]
    simp only [beq_iff_eq]

/-- A site of a project is listed as often as its file declares a router of its variable. -/
theorem count_routeSites_project {file : SourceFile} {site : RouteSite} {owner : String}
    {f : FunctionDecl} {d : RouteDecorator} (hfile : files[site.file]? = some file)
    (h : RouteAt file site owner f d) :
    (routeSites files).count site = file.routers.countP (·.name == owner) := by
  unfold routeSites
  rw [count_flatMap_zipIdx hfile]
  · dsimp only
    rw [Nat.zero_add, count_flatMap_routeSites h]
  · intro other j hj hmem
    obtain ⟨r, _, hsite⟩ := List.mem_flatMap.1 hmem
    have hnumber : site.file = j := (mem_routeSites_iff.1 hsite).1
    omega

end Scan

/-- The endpoints of a scan belong to the sites of routes, and there are as many for a site as its file
declares routers of its variable: exactly one if the variable is set to a router once. -/
theorem scan_route_sites {tree : FileTree} {root : Project.Path} {log log' : Log}
    {controllers : List Controller} {files : List SourceFile}
    (hdirectory : tree.isDirectory root = true)
    (hfiles : readSourceFiles tree (sourcePaths tree root skippedDirectories) = .ok files)
    (h : (scan tree root).runFrom log = (.ok controllers, log')) :
    (∃ index, List.Forall₂ (IsEndpointAt index files) (routeSites files)
      (controllers.flatMap (·.endpoints))) ∧
    ∀ (site : RouteSite) (file : SourceFile) (owner : String) (f : FunctionDecl) (d : RouteDecorator),
      files[site.file]? = some file → RouteAt file site owner f d →
        (routeSites files).count site = file.routers.countP (·.name == owner) := by
  obtain ⟨before, after, hrun⟩ := controllersOf_of_scan hdirectory hfiles h
  obtain ⟨index, rfl, hcontrollers⟩ := controllersOf_eq hrun
  refine ⟨⟨index, ?_⟩, fun site file owner f d hfile hroute => count_routeSites_project hfile hroute⟩
  rw [flatMap_endpoints]
  refine forall₂_flatMap fun p hp => forall₂_flatMap fun r hr => ?_
  have hfile : files[p.2]? = some p.1 := List.mem_zipIdx_iff_getElem?.1 hp
  have hmem : r ∈ files.flatMap (·.routers) :=
    List.mem_flatMap.2 ⟨p.1, List.mem_of_getElem? hfile, hr⟩
  obtain ⟨c, hc⟩ := hcontrollers r hmem
  exact forall₂_endpointsOf hfile hr hc

/-- A project with one function that is decorated as two routes. -/
def stackedProject : FileTree where
  entries := [(["project"], .directory), (["project", "api.py"], .file
    "r=APIRouter()\n@r.get(\"/a\")\n@r.post(\"/b\")\ndef f():...\n".toUTF8.toList)]
  cwd := ["project"]

/-- Each decorator of that function has one endpoint. -/
theorem scan_route_sites_of_stackedProject :
    ∃ files controllers log,
      readSourceFiles stackedProject (sourcePaths stackedProject (.ofString ".") skippedDirectories) =
        .ok files ∧
      (scan stackedProject (.ofString ".")).runFrom [] = (.ok controllers, log) ∧
      routeSites files = [⟨0, 1, 0⟩, ⟨0, 1, 1⟩] ∧
      (∃ index, List.Forall₂ (IsEndpointAt index files) (routeSites files)
        (controllers.flatMap (·.endpoints))) ∧
      ∀ site ∈ routeSites files, (routeSites files).count site = 1 := by
  -- the kernel reads the sources once for both runs
  obtain ⟨hread, hscan⟩ : (readSourceFiles stackedProject
        (sourcePaths stackedProject (.ofString ".") skippedDirectories)).toOption.any
          (fun files => routeSites files == [⟨0, 1, 0⟩, ⟨0, 1, 1⟩] &&
            files.all fun file => file.routers.map (·.name) == ["r"]) = true ∧
      ((scan stackedProject (.ofString ".")).runFrom []).1.toOption.any (fun _ => true) = true := by
    decide +kernel
  obtain ⟨files, hfiles, hchecked⟩ := exists_eq_ok_of_any hread
  obtain ⟨controllers, log, hrun, _⟩ := Logged.exists_run_of_any hscan
  obtain ⟨hsites, hrouters⟩ := Bool.and_eq_true_iff.1 hchecked
  obtain ⟨hendpoints, hcount⟩ := scan_route_sites (by decide +kernel) hfiles hrun
  refine ⟨files, controllers, log, hfiles, hrun, beq_iff_eq.1 hsites, hendpoints, ?_⟩
  intro site hsite
  obtain ⟨index, hforall⟩ := hendpoints
  obtain ⟨e, _, he⟩ := exists_of_mem_right hforall.flip hsite
  obtain ⟨file, hfile, r, hr, f, d, hroute, _⟩ := he.route
  have hnames : file.routers.map (·.name) = ["r"] :=
    beq_iff_eq.1 (List.all_eq_true.1 hrouters file (List.mem_of_getElem? hfile))
  have hname : r.name = "r" := by
    have hmem := List.mem_map_of_mem (f := (·.name)) hr
    rwa [hnames, List.mem_singleton] at hmem
  rw [hcount site file r.name f d hfile hroute, hname, ← Function.comp_def (· == "r"),
    ← List.countP_map, hnames]
  rfl

/-- A file that sets a variable to a router, declares a route of it, and sets it to another router. -/
def reboundFile : SourceFile := ⟨⟨"", ["api.py"]⟩, ⟨[
  .assign [.name "router"] (.call (.name "APIRouter") []
    [(some "prefix", .constant (.str "/a" false))]),
  .function "first" Signature.empty [] [.call (.attribute (.name "router") "get")
    [.constant (.str "/x" false)] []] none,
  .assign [.name "router"] (.call (.name "APIRouter") []
    [(some "prefix", .constant (.str "/b" false))])]⟩⟩

/-- The route of a variable that is set to a router twice has two endpoints. -/
theorem not_forall_route_sites :
    ¬ ∀ (files : List SourceFile) (log log' : Log) (controllers : List Controller),
      (controllersOf files).runFrom log = (.ok controllers, log') → ∃ sites index,
        List.Forall₂ (IsEndpointAt index files) sites (controllers.flatMap (·.endpoints)) ∧
        ∀ (site : RouteSite) (file : SourceFile) (f : FunctionDecl) (d : RouteDecorator),
          files[site.file]? = some file → ∀ r ∈ file.routers, RouteAt file site r.name f d →
            sites.count site = 1 := by
  intro h
  have hrun : ((controllersOf [reboundFile]).runFrom []).1.toOption.any (fun controllers =>
      (controllers.flatMap (·.endpoints)).length == 2) = true := by decide +kernel
  obtain ⟨controllers, log, hcontrollers, hlength⟩ := Logged.exists_run_of_any hrun
  obtain ⟨sites, index, hforall, hcount⟩ := h [reboundFile] [] log controllers hcontrollers
  -- the file has one site only, so the two endpoints are both of it
  have honly : ∀ site ∈ sites, (⟨0, 1, 0⟩ : RouteSite) = site := by
    intro site hsite
    obtain ⟨e, _, he⟩ := exists_of_mem_right hforall.flip hsite
    obtain ⟨file, hfile, r, hr, f, d, hroute, _⟩ := he.route
    obtain ⟨hnumber, rfl⟩ : site.file = 0 ∧ reboundFile = file := by
      simpa [List.getElem?_singleton] using hfile
    have hname : r.name = "router" := by
      have hmem := List.mem_map_of_mem (f := (·.name)) hr
      rw [show reboundFile.routers.map (·.name) = ["router", "router"] from rfl] at hmem
      simpa using hmem
    have hmem : site ∈ reboundFile.routeSites 0 "router" :=
      hname ▸ mem_routeSites_iff.2 ⟨hnumber, f, d, hroute⟩
    rw [show reboundFile.routeSites 0 "router" = [⟨0, 1, 0⟩] by decide] at hmem
    exact (List.mem_singleton.1 hmem).symm
  have htwice : sites.count ⟨0, 1, 0⟩ = 2 := by
    rw [List.count_eq_length.2 honly, hforall.length_eq, beq_iff_eq.1 hlength]
  have hsite : (⟨0, 1, 0⟩ : RouteSite) ∈ reboundFile.routeSites 0 "router" := by decide
  obtain ⟨_, f, d, hroute⟩ := mem_routeSites_iff.1 hsite
  have honce := hcount ⟨0, 1, 0⟩ reboundFile f d rfl ⟨reboundFile, "router", .router, "/a", []⟩
    (List.mem_cons_self) hroute
  omega

end RouteAtlas.Scan
