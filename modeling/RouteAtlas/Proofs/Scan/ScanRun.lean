import RouteAtlas.Proofs.Fallible
import RouteAtlas.Scan.ProjectScan

/-!
# What a scan finds

A scan that succeeds has read all sources, or it finds nothing (`scan_cases`). The controllers of the
sources are those of their routers, in order, without the applications that have no routes of their own
(`controllersOf_eq`).
-/

namespace RouteAtlas.Scan

open RouteAtlas.Api RouteAtlas.Project

variable {files : List SourceFile} {log log' : Log} {controllers : List Controller}

/-- The routers of a file are declared in it. -/
theorem file_of_mem_routers {file : SourceFile} {r : RouterDecl} (h : r ∈ file.routers) :
    r.file = file := by
  obtain ⟨s, _, hs⟩ := List.mem_filterMap.1 h
  unfold RouterDecl.ofStmt? at hs
  split at hs
  · obtain ⟨kind, _, rfl⟩ := Option.map_eq_some_iff.1 hs
    rfl
  · cases hs

/-- The controller that a scan of these files makes of a router. -/
def controllerIn (index : Reflect.ClassIndex) (files : List SourceFile) (r : RouterDecl) :
    Except HandlerFault Controller :=
  controllerOf index (aliasesOf files) (mountsOf files (files.flatMap (·.routers))) r

/-- The controller that a scan of these files keeps of a router. -/
def keptController? (index : Reflect.ClassIndex) (files : List SourceFile) (r : RouterDecl) :
    Option Controller :=
  match controllerIn index files r with
  | .ok c => if isController r c then some c else none
  | .error _ => none

/-- The controllers of parsed files are those of their routers, in order, and each router has one. -/
theorem controllersOf_eq (h : (controllersOf files).runFrom log = (.ok controllers, log')) :
    ∃ index, controllers = (files.flatMap (·.routers)).filterMap (keptController? index files) ∧
      ∀ r ∈ files.flatMap (·.routers), ∃ c, controllerIn index files r = .ok c := by
  obtain ⟨index, _, _, h⟩ := Logged.exists_of_runFrom_bind h
  refine ⟨index, ?_⟩
  have hsteps := Logged.filterMapM_eq (g := keptController? index files) ?_ h
  · refine ⟨hsteps.1, fun r hr => ?_⟩
    obtain ⟨before, after, o, hstep⟩ := hsteps.2 r hr
    cases hc : controllerIn index files r with
    | ok c => exact ⟨c, rfl⟩
    | error fault =>
      unfold controllerIn at hc
      rw [hc] at hstep
      cases (Prod.mk.inj hstep).1
  · intro r before after o hstep
    unfold keptController? controllerIn
    cases hc : controllerOf index (aliasesOf files)
        (mountsOf files (files.flatMap (·.routers))) r with
    | error fault =>
      rw [hc] at hstep
      cases (Prod.mk.inj hstep).1
    | ok c =>
      rw [hc] at hstep
      dsimp only at hstep ⊢
      split at hstep
      · next hkept =>
        obtain ⟨_, _, _, hstep⟩ := Logged.exists_of_runFrom_bind hstep
        rw [if_pos hkept, Logged.eq_of_runFrom_pure hstep]
      · next hkept => rw [if_neg hkept, Logged.eq_of_runFrom_pure hstep]

/-- Each router of parsed files has its controller, which is kept unless it is an application without
routes of its own. -/
theorem exists_controller_of_router (h : (controllersOf files).runFrom log = (.ok controllers, log'))
    {r : RouterDecl} (hr : r ∈ files.flatMap (·.routers)) : ∃ index c,
      controllerIn index files r = .ok c ∧ (isController r c = true → c ∈ controllers) := by
  obtain ⟨index, rfl, hcontrollers⟩ := controllersOf_eq h
  obtain ⟨c, hc⟩ := hcontrollers r hr
  refine ⟨index, c, hc, fun hkept => List.mem_filterMap.2 ⟨r, hr, ?_⟩⟩
  unfold keptController?
  rw [hc]
  exact if_pos hkept

/-- A controller of parsed files is that of one of their routers. -/
theorem exists_router_of_mem (h : (controllersOf files).runFrom log = (.ok controllers, log'))
    {c : Controller} (hc : c ∈ controllers) : ∃ index, ∃ r ∈ files.flatMap (·.routers),
      controllerOf index (aliasesOf files) (mountsOf files (files.flatMap (·.routers))) r = .ok c := by
  obtain ⟨index, rfl, _⟩ := controllersOf_eq h
  obtain ⟨r, hr, hkept⟩ := List.mem_filterMap.1 hc
  refine ⟨index, r, hr, ?_⟩
  unfold keptController? controllerIn at hkept
  split at hkept
  · next d hd =>
    split at hkept
    · rw [hd, Option.some.inj hkept]
    · cases hkept
  · cases hkept

/-- Reading sources gives the files of their paths, in order. -/
theorem forall₂_of_readSourceFiles {tree : FileTree} {paths : List Project.Path}
    (h : readSourceFiles tree paths = .ok files) :
    List.Forall₂ (fun path file => readSourceFile tree path = .ok file) paths files := by
  induction paths generalizing files with
  | nil =>
    obtain rfl := Except.ok.inj h
    exact .nil
  | cons path paths ih =>
    rw [readSourceFiles] at h
    cases hfile : readSourceFile tree path with
    | error fault =>
      rw [hfile] at h
      cases h
    | ok file =>
      rw [hfile] at h
      obtain ⟨rest, hrest, h⟩ := exists_of_bind_eq_ok (f := fun rest => .ok (file :: rest)) h
      obtain rfl := Except.ok.inj h
      exact .cons hfile (ih hrest)

/-- Loading the sources reads the files, or reports one that cannot be read. -/
theorem readSourceFiles_of_loadSources {tree : FileTree} {root : Project.Path}
    {loaded : Option (List SourceFile)}
    (h : (loadSources tree root).runFrom log = (.ok loaded, log')) :
    match loaded with
    | some files => readSourceFiles tree (sourcePaths tree root skippedDirectories) = .ok files
    | none => ∃ fault, readSourceFiles tree (sourcePaths tree root skippedDirectories) =
        .error fault := by
  unfold loadSources at h
  split at h
  · cases (Prod.mk.inj h).1
  · next path fault _ hfault =>
    obtain ⟨_, _, _, h⟩ := Logged.exists_of_runFrom_bind h
    obtain rfl := Logged.eq_of_runFrom_pure h
    exact ⟨(path, fault), hfault⟩
  · next files hfiles =>
    obtain ⟨_, _, _, h⟩ := Logged.exists_of_runFrom_bind h
    obtain rfl := Logged.eq_of_runFrom_pure h
    exact hfiles

/-- A scan that succeeds finds nothing, because there is no directory or a source cannot be read, or it
gives the controllers of the sources. -/
theorem scan_cases {tree : FileTree} {root : Project.Path}
    (h : (scan tree root).runFrom log = (.ok controllers, log')) :
    (controllers = [] ∧ (tree.isDirectory root = false ∨
      ∃ fault, readSourceFiles tree (sourcePaths tree root skippedDirectories) = .error fault)) ∨
    ∃ files before after,
      readSourceFiles tree (sourcePaths tree root skippedDirectories) = .ok files ∧
        (controllersOf files).runFrom before = (.ok controllers, after) := by
  unfold scan at h
  obtain ⟨_, _, _, h⟩ := Logged.exists_of_runFrom_bind h
  split at h
  · next hdirectory =>
    obtain ⟨_, _, _, h⟩ := Logged.exists_of_runFrom_bind h
    exact Or.inl ⟨(Logged.eq_of_runFrom_pure h).symm, Or.inl (by simpa using hdirectory)⟩
  obtain ⟨loaded, before, hload, h⟩ := Logged.exists_of_runFrom_bind h
  have hread := readSourceFiles_of_loadSources hload
  cases loaded with
  | none => exact Or.inl ⟨(Logged.eq_of_runFrom_pure h).symm, Or.inr hread⟩
  | some files =>
    obtain ⟨found, after, hfound, h⟩ := Logged.exists_of_runFrom_bind h
    -- what follows only writes to the log
    have hsame : found = controllers := by
      dsimp only at h
      split at h
      · obtain ⟨_, _, _, h⟩ := Logged.exists_of_runFrom_bind h
        exact Logged.eq_of_runFrom_pure h
      · obtain ⟨_, _, _, h⟩ := Logged.exists_of_runFrom_bind h
        exact Logged.eq_of_runFrom_pure h
    exact Or.inr ⟨files, before, after, hread, hsame ▸ hfound⟩

/-- A scan that finds a controller has read all sources and gives the controllers of them. -/
theorem exists_files_of_scan {tree : FileTree} {root : Project.Path}
    (h : (scan tree root).runFrom log = (.ok controllers, log')) {c : Controller}
    (hc : c ∈ controllers) : ∃ files before after,
      readSourceFiles tree (sourcePaths tree root skippedDirectories) = .ok files ∧
        (controllersOf files).runFrom before = (.ok controllers, after) := by
  rcases scan_cases h with ⟨rfl, _⟩ | hfiles
  · cases hc
  · exact hfiles

/-- A scan that reads all sources gives the controllers of them. -/
theorem controllersOf_of_scan {tree : FileTree} {root : Project.Path}
    (hdirectory : tree.isDirectory root = true)
    (hfiles : readSourceFiles tree (sourcePaths tree root skippedDirectories) = .ok files)
    (h : (scan tree root).runFrom log = (.ok controllers, log')) :
    ∃ before after, (controllersOf files).runFrom before = (.ok controllers, after) := by
  rcases scan_cases h with ⟨_, hdirectory' | ⟨fault, hfault⟩⟩ | ⟨read, before, after, hread, hrun⟩
  · rw [hdirectory] at hdirectory'
    cases hdirectory'
  · rw [hfiles] at hfault
    cases hfault
  · rw [hfiles] at hread
    obtain rfl := Except.ok.inj hread
    exact ⟨before, after, hrun⟩

end RouteAtlas.Scan
