import RouteAtlas.Proofs.Reflect.Optionality
import RouteAtlas.Proofs.Scan.PathBinding
import RouteAtlas.Proofs.Syntax.ReadSignature

/-!
# Parameters of handlers

The parameters of a handler are those of the parameter list that its source declares
(`scan_handler_parameters`): each with the default that is written with it, in the order in which they
are written, without the receivers of methods. So a default says of its own parameter that it may be left
out, unless a marker says where the value comes from.
-/

namespace RouteAtlas.Scan

open RouteAtlas.Api RouteAtlas.Project RouteAtlas.Reflect RouteAtlas.Routing RouteAtlas.Syntax

/-! ## Handlers of source files -/

/-- The signatures of a file that was read are as they were written. -/
theorem areWritten_of_readSourceFile {tree : FileTree} {path : Project.Path} {file : SourceFile}
    (h : readSourceFile tree path = .ok file) : AreWritten file.module.body := by
  unfold readSourceFile at h
  split at h
  · cases h
  · split at h
    · cases h
    · next m hm =>
      obtain rfl := Except.ok.inj h
      exact areWritten_of_readModule hm

/-- Functions of files that can be read have well-formed parameter lists. -/
theorem areWritten_of_readSourceFiles {tree : FileTree} {paths : List Project.Path}
    {files : List SourceFile} (h : readSourceFiles tree paths = .ok files) :
    ∀ file ∈ files, AreWritten file.module.body := by
  intro file hfile
  obtain ⟨path, _, hread⟩ := exists_of_mem_right (forall₂_of_readSourceFiles h) hfile
  exact areWritten_of_readSourceFile hread

/-- The signature of a handler is as it was written. -/
theorem isWritten_of_mem_handlersOf {m : Module} {router : String} (hm : AreWritten m.body)
    {handler : FunctionDecl × RouteDecorator} (h : handler ∈ handlersOf m router) :
    handler.1.signature.IsWritten := by
  obtain ⟨f, hf, hhandler⟩ := List.mem_flatMap.1 h
  obtain ⟨d, _, rfl⟩ := List.mem_map.1 hhandler
  obtain ⟨s, hs, hstmt⟩ := List.mem_filterMap.1 hf
  have hwritten := hm s hs
  unfold FunctionDecl.ofStmt? at hstmt
  split at hstmt
  · obtain rfl := Option.some.inj hstmt
    exact hwritten
  · cases hstmt

/-! ## Parameters that may be left out -/

section Binding

variable {index : ClassIndex} {aliases : Aliases} {pathNames : List String}

/-- Without a marker the default decides. -/
theorem bindParameter_isOptional_iff {p : Param Expr} {default : Option Expr} {q : Parameter}
    (h : bindParameter index aliases pathNames p default = .ok q) (hu : IsUnmarked aliases p default) :
    q.type.isOptional = true ↔ ∃ value, default = some value ∧ value ≠ .constant .ellipsis := by
  obtain ⟨marked, hmarked, h⟩ := exists_of_bind_eq_ok h
  obtain ⟨t, ht, h⟩ := exists_of_bind_eq_ok h
  obtain rfl := Except.ok.inj h
  have hoptional := (outcome_of_reflectHint (eq_ok_of_mapError_eq_ok ht)).isOptional_eq
  rw [hu.1 marked hmarked, hu.2] at hoptional
  show t.isOptional = true ↔ _
  rw [hoptional]
  cases default with
  | none => simp [isOptionalBinding]
  | some value => simp [isOptionalBinding, ← isEllipsis_iff]

/-- The parameter is bound as it is declared, and may be left out for the sake of its own default. -/
structure BoundAsDeclared (index : ClassIndex) (aliases : Aliases) (pathNames : List String)
    (p : OwnParam) (q : Parameter) : Prop where
  name : q.name = p.1.name
  bound : bindParameter index aliases pathNames p.1 p.2 = .ok q
  optional : IsUnmarked aliases p.1 p.2 →
    (q.type.isOptional = true ↔ ∃ value, p.2 = some value ∧ value ≠ .constant .ellipsis)

/-- The endpoint has the parameters of the handler's parameter list, in order, without the receivers. -/
structure HasParametersOf (index : ClassIndex) (aliases : Aliases) (f : FunctionDecl)
    (d : RouteDecorator) (e : Endpoint) (w : ParameterList) : Prop where
  admissible : w.IsAdmissible
  signature : f.signature = w.signature
  bindings : f.signature.bindings = w.positionalOnly ++ w.ordinary ++ w.keywordOnly
  parameters : List.Forall₂ (BoundAsDeclared index aliases (placeholderNames d.declaredPath))
    ((w.positionalOnly ++ w.ordinary ++ w.keywordOnly).filter fun p =>
      p.1.name ≠ "self" ∧ p.1.name ≠ "cls")
    e.parameters

/-- An endpoint has the parameters that its handler was written with. -/
theorem endpointOf_hasParametersOf {f : FunctionDecl} {d : RouteDecorator} {e : Endpoint}
    (h : endpointOf index aliases f d = .ok e) {w : ParameterList} (hw : w.IsAdmissible)
    (hsignature : w.signature = f.signature) : HasParametersOf index aliases f d e w := by
  obtain ⟨parameters, hparameters, h⟩ := exists_of_bind_eq_ok h
  obtain ⟨_, _, h⟩ := exists_of_bind_eq_ok h
  obtain rfl := Except.ok.inj h
  have hbindings : f.signature.bindings = w.own := hsignature ▸ bindings_signature hw.toIsBegun
  have hown : f.parameters = w.own.filter fun p => p.1.name ≠ "self" ∧ p.1.name ≠ "cls" := by
    unfold FunctionDecl.parameters
    rw [hbindings]
    refine List.filter_congr fun p _ => ?_
    simp [receiverNames]
  refine ⟨hw, hsignature.symm, hbindings, ?_⟩
  rw [hown] at hparameters
  refine (mapM_eq_ok_iff.1 hparameters).imp fun p q hq => ?_
  exact ⟨bindParameter_name hq, hq, bindParameter_isOptional_iff hq⟩

end Binding

/-! ## The endpoints of a scan -/

/-- Well-formed parameter lists are those that declarations make, their names and defaults pair up as
they are written, and in a scanned project an endpoint has the parameters of the list that its handler
declares. -/
theorem scan_handler_parameters :
    (∀ declared s, Signature.ofDeclared .empty false false declared = some s ↔
      ∃ w : ParameterList, w.IsAdmissible ∧ w.declared = declared ∧ w.signature = s) ∧
    (∀ w : ParameterList, w.IsAdmissible →
      w.signature.bindings = w.positionalOnly ++ w.ordinary ++ w.keywordOnly) ∧
    ∀ (tree : FileTree) (root : Project.Path) (log log' : Log) (controllers : List Controller),
      (scan tree root).runFrom log = (.ok controllers, log') → ∀ c ∈ controllers, ∃ files index,
        readSourceFiles tree (sourcePaths tree root skippedDirectories) = .ok files ∧
        ∃ r ∈ files.flatMap (·.routers), List.Forall₂
          (fun handler e => ∃ w, HasParametersOf index (aliasesOf files) handler.1 handler.2 e w)
          (handlersOf r.file.module r.name) c.endpoints := by
  refine ⟨fun declared s => ofDeclared_eq_some_iff, fun w hw => bindings_signature hw.toIsBegun, ?_⟩
  intro tree root log log' controllers h c hc
  obtain ⟨files, before, after, hfiles, hrun⟩ := exists_files_of_scan h hc
  obtain ⟨index, r, hr, hcontroller⟩ := exists_router_of_mem hrun hc
  obtain ⟨endpoints, hendpoints, hcontroller⟩ := exists_of_bind_eq_ok hcontroller
  obtain rfl := Except.ok.inj hcontroller
  have hwritten : AreWritten r.file.module.body := by
    obtain ⟨file, hfile, hrouter⟩ := List.mem_flatMap.1 hr
    rw [file_of_mem_routers hrouter]
    exact areWritten_of_readSourceFiles hfiles file hfile
  refine ⟨files, index, hfiles, r, hr, ?_⟩
  have hboth := List.forall₂_and_left _ _ |>.2
    ⟨fun handler hhandler => isWritten_of_mem_handlersOf hwritten hhandler, mapM_eq_ok_iff.1 hendpoints⟩
  refine hboth.imp fun handler e he => ?_
  obtain ⟨⟨w, hw, hsignature⟩, hendpoint⟩ := he
  exact ⟨w, endpointOf_hasParametersOf hendpoint hw hsignature⟩

/-- A project with one route, whose handler has parameters of all kinds. -/
def manyParametersProject : FileTree where
  entries := [(["project"], .directory), (["project", "api.py"], .file
    ("router = APIRouter()\n@router.get(\"/items\")\n" ++
      "def items(self, a, b=1, /, c=..., *rest, d, e=2, **more): ...\n").toUTF8.toList)]
  cwd := ["project"]

/-- The parameter list of that handler. -/
def manyParameters : ParameterList where
  positionalOnly := [(⟨"self", none⟩, none), (⟨"a", none⟩, none), (⟨"b", none⟩, some (.constant (.int 1)))]
  ordinary := [(⟨"c", none⟩, some (.constant .ellipsis))]
  star := some (some ⟨"rest", none⟩)
  keywordOnly := [(⟨"d", none⟩, none), (⟨"e", none⟩, some (.constant (.int 2)))]
  keywordRest := some ⟨"more", none⟩

/-- The example of many parameters may be written. -/
theorem isAdmissible_manyParameters : manyParameters.IsAdmissible :=
  ⟨⟨by decide, nofun⟩, rfl⟩

/-- In that project the receiver is left out, and the parameters with defaults other than the ellipsis
are those that may be left out. -/
theorem scan_handler_parameters_of_manyParametersProject :
    Signature.ofDeclared .empty false false manyParameters.declared = some manyParameters.signature ∧
      manyParameters.signature.bindings =
        manyParameters.positionalOnly ++ manyParameters.ordinary ++ manyParameters.keywordOnly ∧
      ∃ c log, (scan manyParametersProject (.ofString ".")).runFrom [] = (.ok [c], log) ∧
        (c.endpoints.flatMap (·.parameters)).map (fun q => (q.name, q.type.isOptional)) =
          [("a", false), ("b", true), ("c", false), ("d", false), ("e", true)] ∧
        ∃ files index, ∃ r ∈ files.flatMap (·.routers), List.Forall₂
          (fun handler e => ∃ w, HasParametersOf index (aliasesOf files) handler.1 handler.2 e w)
          (handlersOf r.file.module r.name) c.endpoints := by
  obtain ⟨hmakes, hpairs, hfinds⟩ := scan_handler_parameters
  refine ⟨(hmakes _ _).2 ⟨manyParameters, isAdmissible_manyParameters, rfl, rfl⟩,
    hpairs manyParameters isAdmissible_manyParameters, ?_⟩
  -- controllers have no decidable equality, so the kernel runs the scan against its parameters alone
  have hscan : ((scan manyParametersProject (.ofString ".")).runFrom []).1.toOption.any (fun controllers =>
      controllers.map (fun c => (c.endpoints.flatMap (·.parameters)).map fun q =>
        (q.name, q.type.isOptional)) ==
          [[("a", false), ("b", true), ("c", false), ("d", false), ("e", true)]]) = true := by
    decide +kernel
  obtain ⟨controllers, log, hrun, hread⟩ := Logged.exists_run_of_any hscan
  obtain ⟨c, rfl, hparameters⟩ := List.map_eq_singleton_iff.1 (beq_iff_eq.1 hread)
  obtain ⟨files, index, _, hfound⟩ := hfinds _ _ _ _ _ hrun c (List.mem_singleton_self c)
  exact ⟨c, log, hrun, hparameters, files, index, hfound⟩

end RouteAtlas.Scan
