import RouteAtlas.Proofs.Routing.JoinedPath
import RouteAtlas.Proofs.Scan.Mounting

/-!
# Nested mounts

Routers of one file that are included in one another, from an application on. A scan puts before the
routes of the last the prefixes of its inclusion and of the router that it is included in
(`scan_nested_mounts`), and leaves out those further up the chain.
-/

namespace RouteAtlas.Scan

open RouteAtlas.Api RouteAtlas.Project RouteAtlas.Routing RouteAtlas.Syntax

/-! ## Chains -/

/-- A router with the call that includes it in another. -/
structure Link where
  router : RouterDecl
  call : Call

/-- The prefix of the inclusion. -/
def Link.start (l : Link) : String := textKeyword "prefix" l.call.keywords

/-- The links are routers of the file, each included by a call of the file in the one before it, the
first in this router. -/
inductive Nested (file : SourceFile) : RouterDecl → List Link → Prop
  | nil {outer : RouterDecl} : Nested file outer []
  | cons {outer : RouterDecl} {l : Link} {links : List Link} (declared : l.router ∈ file.routers)
      (kind : l.router.kind = .router) (called : l.call ∈ file.module.calls)
      (includes : includesName outer.name l.router.name l.start l.call = true)
      (rest : Nested file l.router links) : Nested file outer (l :: links)

/-- A chain of mounts in a file of the project, from an application on. -/
structure NestedChain (files : List SourceFile) (file : SourceFile) (app : RouterDecl)
    (links : List Link) : Prop where
  file_mem : file ∈ files
  declared : app ∈ file.routers
  kind : app.kind = .application
  nested : Nested file app links
  distinct : (app.name :: links.map (·.router.name)).Nodup

/-- The last router of a chain. -/
def lastRouter (app : RouterDecl) (links : List Link) : RouterDecl :=
  (links.getLast?.map (·.router)).getD app

/-- The segments of all prefixes of a chain, in order. -/
def chainSegments (links : List Link) : List String :=
  links.flatMap fun l => segments l.start ++ segments l.router.start

/-- The segments of the prefixes of a chain down to the last inclusion, without those of the last router
itself. -/
def segmentsAbove : List Link → List String
  | [] => []
  | [l] => segments l.start
  | l :: m :: links => segments l.start ++ segments l.router.start ++ segmentsAbove (m :: links)

section Chain

variable {file : SourceFile} {app : RouterDecl} {links : List Link} {l : Link}

/-- The last router of a chain is that of its rest. -/
theorem lastRouter_cons (app : RouterDecl) (l : Link) (links : List Link) :
    lastRouter app (l :: links) = lastRouter l.router links := by
  unfold lastRouter
  rw [List.getLast?_cons]
  cases links.getLast? <;> rfl

/-- The last router of a chain, and how it is included. -/
theorem Nested.last (h : Nested file app (links ++ [l])) :
    l.router ∈ file.routers ∧ l.router.kind = .router ∧
      includesName (lastRouter app links).name l.router.name l.start l.call = true := by
  induction links generalizing app with
  | nil =>
    obtain _ | ⟨hdeclared, hkind, _, hincludes, _⟩ := h
    exact ⟨hdeclared, hkind, hincludes⟩
  | cons m links ih =>
    obtain _ | ⟨_, _, _, _, hrest⟩ := h
    rw [lastRouter_cons]
    exact ih hrest

/-- Above the last link stands a router of the file. -/
theorem Nested.lastRouter_mem (h : Nested file app (links ++ [l])) (happ : app ∈ file.routers) :
    lastRouter app links ∈ file.routers := by
  induction links generalizing app with
  | nil => exact happ
  | cons m links ih =>
    obtain _ | ⟨hdeclared, _, _, _, hrest⟩ := h
    rw [lastRouter_cons]
    exact ih hrest hdeclared

/-- All prefixes of a chain are those above its last router and the prefix of that router. -/
theorem chainSegments_eq (happ : links = [] → segments app.start = []) :
    chainSegments links = segmentsAbove links ++ segments (lastRouter app links).start := by
  induction links generalizing app with
  | nil => exact (happ rfl).symm
  | cons l links ih =>
    rw [lastRouter_cons]
    cases links with
    | nil => exact List.append_nil _
    | cons m links =>
      have hrest := @ih l.router nofun
      rw [chainSegments, List.flatMap_cons, ← chainSegments, hrest, segmentsAbove]
      simp only [List.append_assoc]

end Chain

/-! ## The path of the last router -/

/-- One inclusion of the project is read as naming the router of the link, its own call. -/
def IncludedOnce (files : List SourceFile) (file : SourceFile) (l : Link) : Prop :=
  (inclusionsOf files).filter (·.key == l.router.key) = [⟨l.router.key, file, l.call⟩]

/-- No other router of the project goes by the module and the variable of this one. -/
def DeclaredOnce (files : List SourceFile) (r : RouterDecl) : Prop :=
  (files.flatMap (·.routers)).filter (·.key == r.key) = [r]

section Path

variable {files : List SourceFile} {file : SourceFile} {app : RouterDecl} {links : List Link}
variable {l : Link}

/-- A single inclusion of a router is the one that is found. -/
theorem IncludedOnce.find? (h : IncludedOnce files file l) :
    (inclusionsOf files).find? (·.key == l.router.key) = some ⟨l.router.key, file, l.call⟩ := by
  rw [← List.head?_filter, h]
  rfl

/-- A router that is declared once has its own start. -/
theorem DeclaredOnce.declaredStart {r : RouterDecl} (h : DeclaredOnce files r) :
    declaredStart (files.flatMap (·.routers)) r.key = r.start := by
  unfold Scan.declaredStart
  rw [← List.head?_filter, List.filter_reverse, h]
  rfl

/-- The segments in front of a router's routes, by the first inclusion that is read as naming it. -/
theorem segments_routerPath {r : RouterDecl} {i : Inclusion}
    (h : (inclusionsOf files).find? (·.key == r.key) = some i) :
    segments (routerPath files r) = segments (i.outerStart (files.flatMap (·.routers))) ++
      segments (textKeyword "prefix" i.call.keywords) ++ segments r.start := by
  rw [routerPath_eq h, segments_joinStarts, segments_joinStarts]

/-- An inclusion in a router of the file adds the prefix of that router. -/
theorem outerStart_of_includesName {outer : RouterDecl} (houter : outer ∈ file.routers)
    (hincludes : includesName outer.name l.router.name l.start l.call = true)
    (honce : DeclaredOnce files outer) :
    (⟨l.router.key, file, l.call⟩ : Inclusion).outerStart (files.flatMap (·.routers)) =
      outer.start := by
  have hkey : outer.key = ⟨file.moduleName, outer.name⟩ := by
    unfold RouterDecl.key
    rw [file_of_mem_routers houter]
  rw [← honce.declaredStart, hkey]
  unfold includesName at hincludes
  split at hincludes
  · next id attr y rest hfunc _ =>
    simp only [Bool.and_eq_true, beq_iff_eq] at hincludes
    unfold Inclusion.outerStart
    rw [hfunc, hincludes.1.1.1]
  · cases hincludes

end Path

/-- The last router of a chain of mounts has the prefix of the inclusion that names it, behind that of
the router that it is included in, and not those of the routers above: its path is that of all prefixes
exactly if those have no segments. -/
theorem scan_nested_mounts {tree : FileTree} {root : Project.Path} {log log' : Log}
    {controllers : List Controller} {files : List SourceFile}
    (hdirectory : tree.isDirectory root = true)
    (hfiles : readSourceFiles tree (sourcePaths tree root skippedDirectories) = .ok files)
    (h : (scan tree root).runFrom log = (.ok controllers, log')) {file : SourceFile}
    {app : RouterDecl} {links : List Link} {l : Link}
    (hchain : NestedChain files file app (links ++ [l])) :
    ∃ c ∈ controllers, IsControllerOf l.router c ∧
      (∀ i, (inclusionsOf files).find? (·.key == l.router.key) = some i →
        segments c.path = (segments (i.outerStart (files.flatMap (·.routers))) ++
          segments (textKeyword "prefix" i.call.keywords) ++
            segments l.router.start).map normalizeRoute) ∧
      (IncludedOnce files file l → DeclaredOnce files (lastRouter app links) →
        segments c.path = (segments (lastRouter app links).start ++ segments l.start ++
          segments l.router.start).map normalizeRoute ∧
        (app.start = "" →
          (segments c.path = (chainSegments (links ++ [l])).map normalizeRoute ↔
            segmentsAbove links = []))) := by
  obtain ⟨before, after, hrun⟩ := controllersOf_of_scan hdirectory hfiles h
  obtain ⟨hdeclared, hkind, hincludes⟩ := hchain.nested.last
  have hmem : l.router ∈ files.flatMap (·.routers) :=
    List.mem_flatMap.2 ⟨file, hchain.file_mem, hdeclared⟩
  obtain ⟨c, hc, hcontroller, hpath⟩ := exists_isControllerOf hrun hmem hkind
  have hsegments (i : Inclusion)
      (hi : (inclusionsOf files).find? (·.key == l.router.key) = some i) :
      segments c.path = (segments (i.outerStart (files.flatMap (·.routers))) ++
        segments (textKeyword "prefix" i.call.keywords) ++
          segments l.router.start).map normalizeRoute := by
    rw [hpath, segments_normalizeRoute, segments_routerPath hi]
  refine ⟨c, hc, hcontroller, hsegments, fun hincluded honce => ?_⟩
  have houter := outerStart_of_includesName (hchain.nested.lastRouter_mem hchain.declared) hincludes
    honce
  have hactual : segments c.path = (segments (lastRouter app links).start ++ segments l.start ++
      segments l.router.start).map normalizeRoute := by
    rw [hsegments _ hincluded.find?, houter]
    rfl
  refine ⟨hactual, fun happ => ?_⟩
  have hall : chainSegments (links ++ [l]) = segmentsAbove links ++
      (segments (lastRouter app links).start ++ segments l.start ++ segments l.router.start) := by
    have habove : chainSegments links = segmentsAbove links ++
        segments (lastRouter app links).start := chainSegments_eq fun _ => by rw [happ]; rfl
    rw [chainSegments, List.flatMap_append, ← chainSegments, habove, List.flatMap_singleton]
    simp only [List.append_assoc]
  rw [hactual, hall]
  constructor
  · intro heq
    have hlength := congrArg List.length heq
    simp only [List.length_map, List.length_append] at hlength
    exact List.length_eq_zero_iff.1 (by omega)
  · intro hnone
    rw [hnone]
    rfl

/-- A project whose application includes one router, which includes another. -/
def nestedProject : FileTree where
  entries := [(["project"], .directory), (["project", "main.py"], .file
    ("a=FastAPI()\nv=APIRouter(prefix=\"/v1\")\nu=APIRouter(prefix=\"/users\")\n" ++
      "a.include_router(v,prefix=\"/api\")\nv.include_router(u,prefix=\"/x\")\n").toUTF8.toList)]
  cwd := ["project"]

/-- The file declares an application and two routers, and includes the first router in the application
and the second in the first. -/
def nestsTwo : List SourceFile → Bool
  | [file] =>
    match file.routers, file.inclusions with
    | [app, v, u], [i, j] =>
      decide ((app.kind = .application ∧ v.kind = .router ∧ u.kind = .router) ∧
        (app.name ≠ v.name ∧ app.name ≠ u.name ∧ v.name ≠ u.name) ∧
        (includesName app.name v.name (Link.mk v i.call).start i.call = true ∧
          includesName v.name u.name (Link.mk u j.call).start j.call = true) ∧
        (i.key = v.key ∧ j.key = u.key ∧ v.key ≠ u.key ∧ app.key ≠ v.key) ∧
        v.start = "/v1" ∧ (Link.mk u j.call).start = "/x" ∧ u.start = "/users")
    | _, _ => false
  | _ => false

/-- An inclusion is a call of its file. -/
theorem call_mem_of_mem_inclusions {file : SourceFile} {i : Inclusion} (h : i ∈ file.inclusions) :
    i.call ∈ file.module.calls := by
  obtain ⟨c, hc, hi⟩ := List.mem_filterMap.1 h
  obtain ⟨_, _, rfl⟩ := Option.map_eq_some_iff.1 hi
  exact hc

/-- The inner router of that project is put below the prefix of the outer one, not below that of the
outer one's inclusion. -/
theorem scan_nested_mounts_of_nestedProject :
    ∃ controllers log, (scan nestedProject (.ofString ".")).runFrom [] = (.ok controllers, log) ∧
      ∃ c ∈ controllers, c.sourceFile = "main.py" ∧ segments c.path = ["v1", "x", "users"] := by
  -- the kernel reads the sources once for both runs
  obtain ⟨hread, hscan⟩ : (readSourceFiles nestedProject
      (sourcePaths nestedProject (.ofString ".") skippedDirectories)).toOption.any (fun files =>
        nestsTwo files && files.all (·.path.text == "main.py")) = true ∧
      ((scan nestedProject (.ofString ".")).runFrom []).1.toOption.any (fun _ => true) = true := by
    decide +kernel
  obtain ⟨files, hfiles, hchecked⟩ := exists_eq_ok_of_any hread
  obtain ⟨controllers, log, hrun, _⟩ := Logged.exists_run_of_any hscan
  obtain ⟨hnests, hpath⟩ := Bool.and_eq_true_iff.1 hchecked
  unfold nestsTwo at hnests
  split at hnests
  · next file =>
    split at hnests
    · next app v u i j hrouters hinclusions =>
      obtain ⟨⟨hkind₀, hkind₁, hkind₂⟩, ⟨hname₁, hname₂, hname₃⟩, ⟨hcall₁, hcall₂⟩,
        ⟨hkey₁, hkey₂, hkeys, happ⟩, hstart₁, hstart, hstart₂⟩ := of_decide_eq_true hnests
      have hfile : ∀ k ∈ [i, j], k.file = file ∧ k.call ∈ file.module.calls := by
        rw [← hinclusions]
        exact fun k hk => ⟨file_of_mem_inclusions hk, call_mem_of_mem_inclusions hk⟩
      have hnested : Nested file app ([⟨v, i.call⟩] ++ [⟨u, j.call⟩]) :=
        .cons (by simp [hrouters]) hkind₁ (hfile i (by simp)).2 hcall₁
          (.cons (by simp [hrouters]) hkind₂ (hfile j (by simp)).2 hcall₂ .nil)
      have hchain : NestedChain [file] file app ([⟨v, i.call⟩] ++ [⟨u, j.call⟩]) :=
        ⟨by simp, by simp [hrouters], hkind₀, hnested, by simp [hname₁, hname₂, hname₃]⟩
      have hincluded : IncludedOnce [file] file ⟨u, j.call⟩ := by
        unfold IncludedOnce inclusionsOf
        have hj : j = ⟨u.key, file, j.call⟩ := by
          rw [← hkey₂, ← (hfile j (by simp)).1]
        simp [hinclusions, hkey₁, hkey₂, hkeys, ← hj]
      have honce : DeclaredOnce [file] v := by
        unfold DeclaredOnce
        simp [hrouters, happ, hkeys.symm]
      obtain ⟨c, hc, hcontroller, _, hsegments⟩ :=
        scan_nested_mounts (by decide +kernel) hfiles hrun hchain
      refine ⟨controllers, log, hrun, c, hc, ?_, ?_⟩
      · have hu : u ∈ file.routers := by
          rw [hrouters]
          simp
        rw [hcontroller.sourceFile, file_of_mem_routers hu]
        simpa using hpath
      · rw [(hsegments hincluded honce).1, hstart, hstart₂]
        change (segments v.start ++ segments "/x" ++ segments "/users").map normalizeRoute = _
        rw [hstart₁]
        decide +kernel
    · cases hnests
  · cases hnests

/-- A file that includes one router in its application and another in that router. -/
def nestedMain : SourceFile := ⟨⟨"", ["main.py"]⟩, ⟨[
  .assign [.name "app"] (.call (.name "FastAPI") [] []),
  .assign [.name "v"] (.call (.name "APIRouter") []
    [(some "prefix", .constant (.str "/v1" false))]),
  .assign [.name "u"] (.call (.name "APIRouter") []
    [(some "prefix", .constant (.str "/users" false))]),
  .expr (.call (.attribute (.name "app") "include_router") [.name "v"]
    [(some "prefix", .constant (.str "/api" false))]),
  .expr (.call (.attribute (.name "v") "include_router") [.name "u"]
    [(some "prefix", .constant (.str "/x" false))])]⟩⟩

/-- The application of that file. -/
def nestedApp : RouterDecl := ⟨nestedMain, "app", .application, "", []⟩

/-- The links of its chain of mounts. -/
def nestedLinks : List Link := [
  ⟨⟨nestedMain, "v", .router, "/v1", []⟩, ⟨.attribute (.name "app") "include_router", [.name "v"],
    [(some "prefix", .constant (.str "/api" false))]⟩⟩,
  ⟨⟨nestedMain, "u", .router, "/users", []⟩, ⟨.attribute (.name "v") "include_router", [.name "u"],
    [(some "prefix", .constant (.str "/x" false))]⟩⟩]

/-- The last router of a chain may lack a prefix of the chain, although all are mounted exactly once. -/
theorem not_forall_nested_mounts :
    ¬ ∀ (files : List SourceFile) (log log' : Log) (controllers : List Controller)
      (file : SourceFile) (app : RouterDecl) (links : List Link) (l : Link),
      (controllersOf files).runFrom log = (.ok controllers, log') →
      NestedChain files file app (links ++ [l]) →
      (∀ k ∈ links ++ [l], IncludedOnce files file k) →
      (∀ r ∈ app :: (links ++ [l]).map (·.router), DeclaredOnce files r) → app.start = "" →
      ∃ c ∈ controllers, IsControllerOf l.router c ∧
        segments c.path = (chainSegments (links ++ [l])).map normalizeRoute := by
  intro h
  have hrun : ((controllersOf [nestedMain]).runFrom []).1.toOption.any (fun controllers =>
      decide (∀ c ∈ controllers, segments c.path ≠ ["api", "v1", "x", "users"])) = true := by
    decide +kernel
  obtain ⟨controllers, log, hcontrollers, hpaths⟩ := Logged.exists_run_of_any hrun
  have hincluded : ∀ k ∈ nestedLinks, IncludedOnce [nestedMain] nestedMain k :=
    List.forall_mem_cons.2 ⟨rfl, List.forall_mem_singleton.2 rfl⟩
  have hdeclared : ∀ r ∈ nestedApp :: nestedLinks.map (·.router), DeclaredOnce [nestedMain] r :=
    List.forall_mem_cons.2 ⟨rfl, List.forall_mem_cons.2 ⟨rfl, List.forall_mem_singleton.2 rfl⟩⟩
  have hcalls : ∀ k ∈ nestedLinks, (⟨k.router.key, nestedMain, k.call⟩ : Inclusion) ∈
      nestedMain.inclusions :=
    List.forall_mem_cons.2 ⟨.head _, List.forall_mem_singleton.2 (.tail _ (.head _))⟩
  have hnested : Nested nestedMain nestedApp nestedLinks :=
    .cons (.tail _ (.head _)) rfl (call_mem_of_mem_inclusions (hcalls _ (.head _)))
      (by decide +kernel)
      (.cons (.tail _ (.tail _ (.head _))) rfl
        (call_mem_of_mem_inclusions (hcalls _ (.tail _ (.head _)))) (by decide +kernel) .nil)
  obtain ⟨c, hc, _, hpath⟩ := h [nestedMain] [] log controllers nestedMain nestedApp
    (nestedLinks.take 1) nestedLinks[1] hcontrollers
    ⟨.head _, .head _, rfl, hnested, by decide⟩ hincluded hdeclared rfl
  refine of_decide_eq_true hpaths c hc ?_
  rw [hpath]
  decide +kernel

end RouteAtlas.Scan
