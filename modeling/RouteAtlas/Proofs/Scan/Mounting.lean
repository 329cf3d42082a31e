import RouteAtlas.Proofs.Document.OrderedMap
import RouteAtlas.Proofs.Routing.Segments
import RouteAtlas.Proofs.Scan.PathBinding

/-!
# Mounted routers

An inclusion is read as naming a router by module and variable, and of the inclusions that are read alike
the first in the project counts (`mountOf_start`). So a router has the prefix of its own inclusion as
long as no other router has its key: of two routers that one file includes, the second has the prefix of
the first if the files share their name and the variables theirs (`scan_mounted_paths`).
-/

namespace RouteAtlas.Scan

open RouteAtlas.Api RouteAtlas.Document RouteAtlas.Project RouteAtlas.Reflect RouteAtlas.Routing
open RouteAtlas.Syntax

/-! ## Prefixes -/

/-- A joined path is not empty. -/
theorem joinPath_ne_empty (a b : String) : (joinPath a b).isEmpty = false := by
  rw [Bool.eq_false_iff]
  intro h
  have hlist := congrArg String.toList (String.isEmpty_iff.1 h)
  unfold joinPath pathOf at hlist
  rw [String.toList_append] at hlist
  cases hlist

/-- An empty prefix in front of a prefix adds nothing. -/
theorem joinStarts_empty_left (a b : String) : joinStarts (joinStarts "" a) b = joinStarts a b := by
  by_cases ha : a.isEmpty = true
  · rw [String.isEmpty_iff.1 ha]
    rfl
  · have houter : joinStarts "" a = joinPath "" a := by
      unfold joinStarts
      rw [if_neg (by simp [ha])]
    rw [houter]
    unfold joinStarts
    rw [joinPath_ne_empty, if_neg (by simp), if_neg (by simp [ha])]
    unfold joinPath
    rw [show segments (pathOf (segments "" ++ segments a)) = segments a from segments_joinPath "" a]

/-! ## Inclusions -/

/-- A call that includes a router, with the file it stands in and the key it names the router by. -/
structure Inclusion where
  key : RouterKey
  file : SourceFile
  call : Call

/-- The key of the router that a call includes. -/
def includedKey? (file : SourceFile) (c : Call) : Option RouterKey :=
  match c.func, c.args with
  | .attribute _ "include_router", target :: _ =>
    mountedKey? file.moduleName (importsOf file.module) target
  | _, _ => none

/-- The inclusions of a file, in order. -/
def SourceFile.inclusions (file : SourceFile) : List Inclusion :=
  file.module.calls.filterMap fun c => (includedKey? file c).map (⟨·, file, c⟩)

/-- The inclusions of a project, in order. -/
def inclusionsOf (files : List SourceFile) : List Inclusion := files.flatMap (·.inclusions)

/-- The prefix of what a router is included in. -/
def Inclusion.outerStart (routers : List RouterDecl) (i : Inclusion) : String :=
  match i.call.func with
  | .attribute (.name id) _ => declaredStart routers ⟨i.file.moduleName, id⟩
  | _ => ""

/-- What an inclusion adds. -/
def Inclusion.mount (routers : List RouterDecl) (i : Inclusion) : Mount :=
  ⟨joinStarts (i.outerStart routers) (textKeyword "prefix" i.call.keywords),
    textsKeyword "tags" i.call.keywords⟩

/-- A call mounts the router that it includes. -/
theorem mountOfCall?_eq (routers : List RouterDecl) (file : SourceFile) (c : Call) :
    mountOfCall? routers file.moduleName (importsOf file.module) c =
      (includedKey? file c).map fun key => (key, (Inclusion.mk key file c).mount routers) := by
  by_cases hinclude : ∃ owner target rest,
      c.func = .attribute owner "include_router" ∧ c.args = target :: rest
  · obtain ⟨owner, target, rest, hfunc, hargs⟩ := hinclude
    unfold mountOfCall? includedKey? Inclusion.mount Inclusion.outerStart
    simp only [hfunc, hargs]
    cases owner <;> rfl
  · have hnone : includedKey? file c = none := by
      unfold includedKey?
      split
      · next hfunc hargs => exact absurd ⟨_, _, _, hfunc, hargs⟩ hinclude
      · rfl
    rw [hnone]
    unfold mountOfCall?
    split
    · next hfunc hargs => exact absurd ⟨_, _, _, hfunc, hargs⟩ hinclude
    · rfl

/-- The mounts of a project are those of its inclusions. -/
theorem mountsOf_eq (files : List SourceFile) (routers : List RouterDecl) :
    mountsOf files routers = (inclusionsOf files).map fun i => (i.key, i.mount routers) := by
  unfold mountsOf inclusionsOf SourceFile.mounts SourceFile.inclusions
  rw [List.map_flatMap]
  refine List.flatMap_congr fun file _ => ?_
  rw [List.map_filterMap]
  refine List.filterMap_congr fun c _ => ?_
  rw [mountOfCall?_eq, Option.map_map]
  rfl

/-- The first inclusion that is read as naming a router decides what is added to it. -/
theorem mountOf_eq (files : List SourceFile) (routers : List RouterDecl) (r : RouterDecl) :
    mountOf (mountsOf files routers) r =
      (((inclusionsOf files).find? (·.key == r.key)).map (·.mount routers)).getD ⟨"", []⟩ := by
  unfold mountOf firstOf?
  rw [mountsOf_eq, List.find?_map, Option.map_map]
  rfl

/-! ## Imported routers -/

/-- The statement imports the router by the dotted name of its file and gives it this name. -/
def importsRouter (r : RouterDecl) (x : String) : Stmt → Bool
  | .importFrom (some source) names =>
    !source.isEmpty && lastName source == r.file.moduleName && names.contains (r.name, some x)
  | _ => false

/-- The file imports the router under this name, and nothing else under it. -/
structure ImportsRouter (file : SourceFile) (r : RouterDecl) (x : String) : Prop where
  imported : ∃ s ∈ file.module.body, importsRouter r x s = true
  unique : ∀ e ∈ file.module.body.flatMap importedBy, e.1 = x →
    e.2 = .member r.file.moduleName r.name

/-- The call includes what has this name in the application, with this prefix. -/
def includesName (app x start : String) (c : Call) : Bool :=
  match c.func, c.args with
  | .attribute (.name id) attr, .name y :: _ =>
    id == app && attr == "include_router" && y == x && textKeyword "prefix" c.keywords == start
  | _, _ => false

variable {file : SourceFile} {r : RouterDecl} {x : String}

instance : Decidable (ImportsRouter file r x) :=
  decidable_of_iff ((∃ s ∈ file.module.body, importsRouter r x s = true) ∧
      ∀ e ∈ file.module.body.flatMap importedBy, e.1 = x → e.2 = .member r.file.moduleName r.name)
    ⟨fun h => ⟨h.1, h.2⟩, fun h => ⟨h.imported, h.unique⟩⟩

/-- An imported name stands for a member of its module. -/
theorem mem_importedBy {source name : String} {names : List (String × Option String)}
    (hsource : source.isEmpty = false) (h : (name, some x) ∈ names) :
    (x, .member (lastName source) name) ∈ importedBy (.importFrom (some source) names) := by
  simp only [importedBy, hsource, Bool.false_eq_true, if_false]
  exact List.mem_map.2 ⟨_, h, by simp⟩

/-- An imported router is found by its name. -/
theorem ImportsRouter.field? (h : ImportsRouter file r x) :
    field? x (importsOf file.module) = some (.member r.file.moduleName r.name) := by
  refine field?_ofFields_of_forall ?_ h.unique
  obtain ⟨s, hs, himports⟩ := h.imported
  unfold importsRouter at himports
  split at himports
  · next source names =>
    simp only [Bool.and_eq_true, Bool.not_eq_true', List.contains_iff_mem] at himports
    exact mem_fieldNames_of_mem
      (List.mem_flatMap.2 ⟨_, hs, mem_importedBy himports.1.1 himports.2⟩)
  · cases himports

/-- A call that includes an imported router is read as naming it. -/
theorem includedKey?_of_importsRouter (h : ImportsRouter file r x) {app start : String} {c : Call}
    (hc : includesName app x start c = true) : includedKey? file c = some r.key := by
  unfold includesName at hc
  split at hc
  · next id attr y rest hfunc hargs =>
    simp only [Bool.and_eq_true, beq_iff_eq] at hc
    obtain ⟨⟨⟨rfl, rfl⟩, rfl⟩, rfl⟩ := hc
    unfold includedKey?
    rw [hfunc, hargs]
    simp only [mountedKey?, h.field?]
    rfl
  · cases hc

/-! ## The paths of mounted routers -/

/-- The controller is that of the router: of its file, with an endpoint for each of its handlers. -/
structure IsControllerOf (r : RouterDecl) (c : Controller) : Prop where
  sourceFile : c.sourceFile = r.file.path.text
  endpoints : List.Forall₂ (fun handler e => e.name = handler.1.name)
    (handlersOf r.file.module r.name) c.endpoints

section Run

variable {files : List SourceFile} {log log' : Log} {controllers : List Controller}

/-- Every router that is no application has its controller. -/
theorem exists_isControllerOf (h : (controllersOf files).runFrom log = (.ok controllers, log'))
    (hr : r ∈ files.flatMap (·.routers)) (hkind : r.kind = .router) :
    ∃ c ∈ controllers, IsControllerOf r c ∧ c.path = normalizeRoute (routerPath files r) := by
  obtain ⟨index, c, hc, hkept⟩ := exists_controller_of_router h hr
  have hsource : c.sourceFile = r.file.path.text := by
    obtain ⟨endpoints, _, hc⟩ := exists_of_bind_eq_ok hc
    obtain rfl := Except.ok.inj hc
    rfl
  obtain ⟨hpath, hbound⟩ := controllerOf_bound hc
  exact ⟨c, hkept (by simp [isController, hkind]),
    ⟨hsource, hbound.imp fun _ _ h => h.name⟩, hpath⟩

end Run

/-- The path in front of a router's routes is that of the first inclusion that is read as naming it. -/
theorem routerPath_eq {files : List SourceFile} {i : Inclusion}
    (h : (inclusionsOf files).find? (·.key == r.key) = some i) :
    routerPath files r = joinStarts (joinStarts (i.outerStart (files.flatMap (·.routers)))
      (textKeyword "prefix" i.call.keywords)) r.start := by
  unfold routerPath mountPath
  rw [mountOf_eq, h]
  rfl

/-- The prefix that an application of a file is read with: that of the last router with its key. -/
def applicationStart (files : List SourceFile) (main : SourceFile) (app : String) : String :=
  declaredStart (files.flatMap (·.routers)) ⟨main.moduleName, app⟩

/-- The file imports a router of the project and this call includes it in the application, with this
prefix. -/
structure Mounts (files : List SourceFile) (main : SourceFile) (app : String) (r : RouterDecl)
    (start : String) (c : Call) : Prop where
  declared : r ∈ files.flatMap (·.routers)
  kind : r.kind = .router
  included : ∃ x, ImportsRouter main r x ∧ includesName app x start c = true

/-- The inclusions of a project that are read as naming one of two routers. -/
def inclusionsNaming (files : List SourceFile) (r₁ r₂ : RouterDecl) : List Inclusion :=
  (inclusionsOf files).filter fun i => i.key == r₁.key || i.key == r₂.key

section Two

variable {files : List SourceFile} {main : SourceFile} {app : String} {r₁ r₂ : RouterDecl}
variable {start₁ start₂ : String} {c₁ c₂ : Call}

/-- The inclusions of a file come from it. -/
theorem file_of_mem_inclusions {file : SourceFile} {i : Inclusion} (h : i ∈ file.inclusions) :
    i.file = file := by
  obtain ⟨c, _, hi⟩ := List.mem_filterMap.1 h
  obtain ⟨_, _, rfl⟩ := Option.map_eq_some_iff.1 hi
  rfl

/-- An inclusion has the key of its router. -/
theorem includedKey?_of_mem {i : Inclusion} (h : i ∈ inclusionsOf files) :
    includedKey? i.file i.call = some i.key := by
  obtain ⟨file, _, hi⟩ := List.mem_flatMap.1 h
  obtain ⟨c, _, hi⟩ := List.mem_filterMap.1 hi
  obtain ⟨key, hkey, rfl⟩ := Option.map_eq_some_iff.1 hi
  exact hkey

/-- A router that is mounted has the prefix of the inclusion that is found first under its key. -/
theorem Mounts.routerPath_eq {r : RouterDecl} {start : String} {c : Call}
    (h : Mounts files main app r start c) {r' : RouterDecl} {i : Inclusion}
    (hi : (inclusionsOf files).find? (·.key == r'.key) = some i) (hfile : i.file = main)
    (hcall : i.call = c) : routerPath files r' =
      joinStarts (joinStarts (applicationStart files main app) start) r'.start := by
  obtain ⟨x, _, hc⟩ := h.included
  rw [Scan.routerPath_eq hi]
  unfold includesName at hc
  split at hc
  · next id attr y rest hfunc _ =>
    simp only [Bool.and_eq_true, beq_iff_eq] at hc
    obtain ⟨⟨⟨rfl, _⟩, _⟩, rfl⟩ := hc
    unfold Inclusion.outerStart applicationStart
    rw [hcall, hfunc, hfile]
  · cases hc

/-- There is one inclusion at the place of a mount. -/
theorem key_of_included {r : RouterDecl} {start : String} {c : Call}
    (h : Mounts files main app r start c) {i : Inclusion} (hi : i ∈ inclusionsOf files)
    (hplace : (i.file, i.call) = (main, c)) : i = ⟨r.key, main, c⟩ := by
  obtain ⟨key, file, call⟩ := i
  obtain ⟨rfl, rfl⟩ := Prod.mk.inj hplace
  obtain ⟨x, himport, hc⟩ := h.included
  have hkey := includedKey?_of_mem hi
  rw [includedKey?_of_importsRouter himport hc] at hkey
  obtain rfl := Option.some.inj hkey
  rfl

/-- Routers that are included once each are read as named by their own calls, in order. -/
theorem inclusionsNaming_eq (h₁ : Mounts files main app r₁ start₁ c₁)
    (h₂ : Mounts files main app r₂ start₂ c₂)
    (honce : (inclusionsNaming files r₁ r₂).map (fun i => (i.file, i.call)) =
      [(main, c₁), (main, c₂)]) :
    inclusionsNaming files r₁ r₂ = [⟨r₁.key, main, c₁⟩, ⟨r₂.key, main, c₂⟩] := by
  obtain ⟨i₁, is, heq, hplace₁, hrest⟩ := List.map_eq_cons_iff.1 honce
  obtain ⟨i₂, hsingle, hplace₂⟩ := List.map_eq_singleton_iff.1 hrest
  rw [hsingle] at heq
  have hmem : ∀ i ∈ [i₁, i₂], i ∈ inclusionsOf files := fun i hi =>
    (List.mem_filter.1 (show i ∈ inclusionsNaming files r₁ r₂ from heq ▸ hi)).1
  rw [heq, key_of_included h₁ (hmem i₁ (by simp)) hplace₁,
    key_of_included h₂ (hmem i₂ (by simp)) hplace₂]

/-- Of two routers that are included once each the first is found under its key, and the second under
its own unless that is the key of the first. -/
theorem find?_inclusions (h₁ : Mounts files main app r₁ start₁ c₁)
    (h₂ : Mounts files main app r₂ start₂ c₂)
    (honce : (inclusionsNaming files r₁ r₂).map (fun i => (i.file, i.call)) =
      [(main, c₁), (main, c₂)]) :
    (inclusionsOf files).find? (·.key == r₁.key) = some ⟨r₁.key, main, c₁⟩ ∧
      (inclusionsOf files).find? (·.key == r₂.key) =
        some (if r₁.key = r₂.key then ⟨r₁.key, main, c₁⟩ else ⟨r₂.key, main, c₂⟩) := by
  have hnaming := inclusionsNaming_eq h₁ h₂ honce
  -- an inclusion under one of the two keys is never left out, so the first one is the same
  have hfind (key : RouterKey) (hkey : key = r₁.key ∨ key = r₂.key) :
      (inclusionsOf files).find? (·.key == key) =
        (inclusionsNaming files r₁ r₂).find? (·.key == key) := by
    unfold inclusionsNaming
    rw [List.find?_filter]
    congr 1
    funext i
    by_cases hi : i.key = key
    · rcases hkey with rfl | rfl <;> simp [hi]
    · simp [hi]
  rw [hfind _ (Or.inl rfl), hfind _ (Or.inr rfl), hnaming]
  by_cases hkey : r₁.key = r₂.key
  · simp [hkey]
  · simp [hkey]

end Two

/-- Of two routers that one file includes, once each in the project, the first has the prefix of its
inclusion, and the second has that of its own exactly if their keys differ. -/
theorem scan_mounted_paths {tree : FileTree} {root : Project.Path} {log log' : Log}
    {controllers : List Controller} {files : List SourceFile}
    (hdirectory : tree.isDirectory root = true)
    (hfiles : readSourceFiles tree (sourcePaths tree root skippedDirectories) = .ok files)
    (h : (scan tree root).runFrom log = (.ok controllers, log')) {main : SourceFile} {app : String}
    {r₁ r₂ : RouterDecl} {start₁ start₂ : String} {c₁ c₂ : Call}
    (h₁ : Mounts files main app r₁ start₁ c₁) (h₂ : Mounts files main app r₂ start₂ c₂)
    (honce : (inclusionsNaming files r₁ r₂).map (fun i => (i.file, i.call)) =
      [(main, c₁), (main, c₂)]) :
    ∃ d₁ ∈ controllers, ∃ d₂ ∈ controllers, IsControllerOf r₁ d₁ ∧ IsControllerOf r₂ d₂ ∧
      d₁.path = normalizeRoute
        (joinStarts (joinStarts (applicationStart files main app) start₁) r₁.start) ∧
      d₂.path = normalizeRoute
        (joinStarts (joinStarts (applicationStart files main app)
          (if r₁.key = r₂.key then start₁ else start₂)) r₂.start) ∧
      (applicationStart files main app = "" →
        d₁.path = normalizeRoute (joinStarts start₁ r₁.start) ∧
        d₂.path = normalizeRoute
          (joinStarts (if r₁.key = r₂.key then start₁ else start₂) r₂.start)) := by
  obtain ⟨before, after, hrun⟩ := controllersOf_of_scan hdirectory hfiles h
  obtain ⟨d₁, hd₁, hc₁, hpath₁⟩ := exists_isControllerOf hrun h₁.declared h₁.kind
  obtain ⟨d₂, hd₂, hc₂, hpath₂⟩ := exists_isControllerOf hrun h₂.declared h₂.kind
  obtain ⟨hfind₁, hfind₂⟩ := find?_inclusions h₁ h₂ honce
  rw [h₁.routerPath_eq hfind₁ rfl rfl] at hpath₁
  have hpath₂ : d₂.path = normalizeRoute (joinStarts (joinStarts (applicationStart files main app)
      (if r₁.key = r₂.key then start₁ else start₂)) r₂.start) := by
    split at hfind₂
    · next hkey => rw [hpath₂, if_pos hkey, h₁.routerPath_eq hfind₂ rfl rfl]
    · next hkey => rw [hpath₂, if_neg hkey, h₂.routerPath_eq hfind₂ rfl rfl]
  refine ⟨d₁, hd₁, d₂, hd₂, hc₁, hc₂, hpath₁, hpath₂, fun happ => ?_⟩
  rw [hpath₁, hpath₂, happ, joinStarts_empty_left, joinStarts_empty_left]
  exact ⟨rfl, rfl⟩

/-- A project whose main file includes the routers of two others. -/
def mountingProject : FileTree where
  entries := [(["project"], .directory),
    (["project", "a.py"], .file "r=APIRouter(prefix=\"/c\")\n".toUTF8.toList),
    (["project", "b.py"], .file "r=APIRouter(prefix=\"/c\")\n".toUTF8.toList),
    (["project", "main.py"], .file
      ("from a import r as x\nfrom b import r as y\napp=FastAPI()\n" ++
        "app.include_router(x,prefix=\"/a\")\n" ++
        "app.include_router(y,prefix=\"/b\")\n").toUTF8.toList)]
  cwd := ["project"]

/-- The sources of the project. -/
theorem sourcePaths_mountingProject :
    sourcePaths mountingProject (.ofString ".") skippedDirectories =
      [⟨"", ["a.py"]⟩, ⟨"", ["b.py"]⟩, ⟨"", ["main.py"]⟩] := by
  have hlocation : mountingProject.locate (.ofString ".") = .ok ["project"] := by decide +kernel
  unfold sourcePaths FileTree.withExtension
  rw [hlocation]
  dsimp only
  rw [List.mergeSort_of_pairwise (by decide +kernel)]
  decide +kernel

/-- The first two files declare one router each, which the third includes under its own prefix. -/
def mountsBoth : List SourceFile → Bool
  | [a, b, main] =>
    match a.routers, b.routers, a.inclusions, b.inclusions, main.inclusions with
    | [r₁], [r₂], [], [], [i₁, i₂] =>
      decide ((r₁.kind = .router ∧ r₁.key = i₁.key ∧ r₁.file.path.text = "a.py" ∧ r₁.start = "/c" ∧
          ImportsRouter main r₁ "x" ∧ includesName "app" "x" "/a" i₁.call = true) ∧
        (r₂.kind = .router ∧ r₂.key = i₂.key ∧ r₂.file.path.text = "b.py" ∧ r₂.start = "/c" ∧
          ImportsRouter main r₂ "y" ∧ includesName "app" "y" "/b" i₂.call = true) ∧
        r₁.key ≠ r₂.key ∧ applicationStart [a, b, main] main "app" = "")
    | _, _, _, _, _ => false
  | _ => false

/-- Both routers of that project have the prefixes of their own inclusions. -/
theorem scan_mounted_paths_of_mountingProject :
    ∃ controllers log, (scan mountingProject (.ofString ".")).runFrom [] = (.ok controllers, log) ∧
      ∃ d₁ ∈ controllers, ∃ d₂ ∈ controllers,
        d₁.sourceFile = "a.py" ∧ d₁.path = "/a/c" ∧
        d₂.sourceFile = "b.py" ∧ d₂.path = "/b/c" := by
  -- the kernel reads the sources once for both runs
  obtain ⟨hread, hscan⟩ : (readSourceFiles mountingProject
      (sourcePaths mountingProject (.ofString ".") skippedDirectories)).toOption.any mountsBoth = true ∧
      ((scan mountingProject (.ofString ".")).runFrom []).1.toOption.any (fun _ => true) = true := by
    simp only [scan, loadSources, sourcePaths_mountingProject]
    decide +kernel
  obtain ⟨files, hfiles, hboth⟩ := exists_eq_ok_of_any hread
  obtain ⟨controllers, log, hrun, _⟩ := Logged.exists_run_of_any hscan
  unfold mountsBoth at hboth
  split at hboth
  · next a b main =>
    split at hboth
    · next r₁ r₂ i₁ i₂ hr₁ hr₂ ha hb hmain =>
      obtain ⟨⟨hkind₁, hkey₁, hfile₁, hstart₁, himport₁, hcall₁⟩,
        ⟨hkind₂, hkey₂, hfile₂, hstart₂, himport₂, hcall₂⟩, hkey, happ⟩ := of_decide_eq_true hboth
      have hfile : ∀ i ∈ [i₁, i₂], i.file = main := by
        rw [← hmain]
        exact fun i hi => file_of_mem_inclusions hi
      have hmounts₁ : Mounts [a, b, main] main "app" r₁ "/a" i₁.call :=
        ⟨by simp [hr₁], hkind₁, "x", himport₁, hcall₁⟩
      have hmounts₂ : Mounts [a, b, main] main "app" r₂ "/b" i₂.call :=
        ⟨by simp [hr₂], hkind₂, "y", himport₂, hcall₂⟩
      have honce : (inclusionsNaming [a, b, main] r₁ r₂).map
          (fun i => (i.file, i.call)) = [(main, i₁.call), (main, i₂.call)] := by
        unfold inclusionsNaming inclusionsOf
        simp [ha, hb, hmain, hkey₁, hkey₂, hfile i₁, hfile i₂]
      obtain ⟨d₁, hd₁, d₂, hd₂, hc₁, hc₂, _, _, hpaths⟩ :=
        scan_mounted_paths (by decide +kernel) hfiles hrun hmounts₁ hmounts₂ honce
      obtain ⟨hpath₁, hpath₂⟩ := hpaths happ
      rw [hstart₁] at hpath₁
      rw [if_neg hkey, hstart₂] at hpath₂
      refine ⟨controllers, log, hrun, d₁, hd₁, d₂, hd₂, hc₁.sourceFile.trans hfile₁, ?_,
        hc₂.sourceFile.trans hfile₂, ?_⟩
      · rw [hpath₁]
        decide +kernel
      · rw [hpath₂]
        decide +kernel
    · cases hboth
  · cases hboth

/-- A file with one router, in a directory of this name. -/
def usersFile (directory : String) : SourceFile := ⟨⟨"", [directory, "users.py"]⟩, ⟨[
  .assign [.name "router"] (.call (.name "APIRouter") []
    [(some "prefix", .constant (.str "/users" false))])]⟩⟩

/-- The router of that file. -/
def usersRouter (directory : String) : RouterDecl :=
  ⟨usersFile directory, "router", .router, "/users", []⟩

/-- A call that includes a router under a prefix. -/
def includeCall (x start : String) : Call :=
  ⟨.attribute (.name "app") "include_router", [.name x],
    [(some "prefix", .constant (.str start false))]⟩

/-- The file that includes the routers of two such files. -/
def usersMain : SourceFile := ⟨⟨"", ["main.py"]⟩, ⟨[
  .importFrom (some "admin.users") [("router", some "admins")],
  .importFrom (some "public.users") [("router", some "users")],
  .assign [.name "app"] (.call (.name "FastAPI") [] []),
  .expr (.call (.attribute (.name "app") "include_router") [.name "admins"]
    [(some "prefix", .constant (.str "/admin" false))]),
  .expr (.call (.attribute (.name "app") "include_router") [.name "users"]
    [(some "prefix", .constant (.str "/public" false))])]⟩⟩

/-- A project whose main file includes the routers of two files of one name. -/
def usersProject : List SourceFile := [usersFile "admin", usersMain, usersFile "public"]

/-- Two routers in files of one name have the prefix of one inclusion, although each is included under a
prefix of its own. -/
theorem not_forall_mounted_paths :
    ¬ ∀ (files : List SourceFile) (log log' : Log) (controllers : List Controller)
      (main : SourceFile) (app start₁ start₂ : String) (r₁ r₂ : RouterDecl) (c₁ c₂ : Call),
      (controllersOf files).runFrom log = (.ok controllers, log') →
      r₁.file.path ≠ r₂.file.path → r₁.file.routers = [r₁] → r₂.file.routers = [r₂] →
      Mounts files main app r₁ start₁ c₁ → Mounts files main app r₂ start₂ c₂ →
      (inclusionsNaming files r₁ r₂).map (fun i => (i.file, i.call)) = [(main, c₁), (main, c₂)] →
      applicationStart files main app = "" →
      ∃ d₁ ∈ controllers, ∃ d₂ ∈ controllers, IsControllerOf r₁ d₁ ∧ IsControllerOf r₂ d₂ ∧
        d₁.path = normalizeRoute (joinStarts start₁ r₁.start) ∧
        d₂.path = normalizeRoute (joinStarts start₂ r₂.start) := by
  intro h
  have hrun : ((controllersOf usersProject).runFrom []).1.toOption.any (fun controllers =>
      decide (∀ d ∈ controllers, d.sourceFile = "public/users.py" → d.path ≠ "/public/users")) =
        true := by decide +kernel
  obtain ⟨controllers, log, hcontrollers, hpublic⟩ := Logged.exists_run_of_any hrun
  have hmem (directory : String) (hd : directory = "admin" ∨ directory = "public") :
      usersRouter directory ∈ usersProject.flatMap (·.routers) := by
    refine List.mem_flatMap.2 ⟨usersFile directory, ?_, List.mem_singleton_self _⟩
    rcases hd with rfl | rfl <;> simp [usersProject]
  obtain ⟨_, _, d₂, hd₂, _, hc₂, _, hpath⟩ := h usersProject [] log controllers usersMain "app"
    "/admin" "/public" (usersRouter "admin") (usersRouter "public") (includeCall "admins" "/admin")
    (includeCall "users" "/public") hcontrollers (by decide) rfl rfl
    ⟨hmem _ (Or.inl rfl), rfl, "admins", by decide +kernel, by decide +kernel⟩
    ⟨hmem _ (Or.inr rfl), rfl, "users", by decide +kernel, by decide +kernel⟩ rfl
    (by decide +kernel)
  refine of_decide_eq_true hpublic d₂ hd₂ ?_ ?_
  · rw [hc₂.sourceFile]
    decide +kernel
  · rw [hpath]
    decide +kernel

end RouteAtlas.Scan
