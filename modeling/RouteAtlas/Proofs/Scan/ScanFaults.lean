import RouteAtlas.Proofs.Reflect.ReflectFaults

/-!
# Programs that a scan breaks off on

A directory whose sources can all be read is scanned with a result unless one of the handlers has a fault
(`scan_returns_iff`): a parameter that is marked with nothing at all, or an annotation that leads to
something that cannot be reflected.
-/

namespace RouteAtlas.Scan

open RouteAtlas.Api RouteAtlas.Project RouteAtlas.Reflect RouteAtlas.Routing RouteAtlas.Syntax

/-! ## Handlers -/

/-- The annotation has the marker of metadata, but not even a type behind it. -/
def IsEmptyHint (hint : Option Expr) : Prop :=
  ∃ value args, hint = some (.subscript value args) ∧ value.simpleName = annotatedName ∧
    Expr.subscriptArgs args = []

/-- The annotation of the type in a parameter's annotation leads to the fault. -/
inductive HintLeadsToFault (index : ClassIndex) (hint : Option Expr) (fault : ReflectFault) : Prop
  | type {marked : MarkedHint} {e : Expr} (hmarked : MarkedHint.ofExpr hint = .ok marked)
      (htype : marked.type = some e) (h : LeadsToFault index [] e fault)

/-- A handler cannot be described, for a parameter or for what it returns. -/
inductive HandlerFails (index : ClassIndex) (aliases : Aliases) (f : FunctionDecl)
    (d : RouteDecorator) : HandlerFault → Prop
  | emptyHint {p : Param Expr × Option Expr} (hp : p ∈ f.parameters)
      (h : IsEmptyHint (resolveAlias aliases p.1.hint)) : HandlerFails index aliases f d .emptyHint
  | parameter {p : Param Expr × Option Expr} {fault : ReflectFault} (hp : p ∈ f.parameters)
      (h : HintLeadsToFault index (resolveAlias aliases p.1.hint) fault) :
      HandlerFails index aliases f d (.reflection fault)
  | returned {e : Expr} {fault : ReflectFault}
      (he : resolveAlias aliases (d.returnHint f) = some e) (h : LeadsToFault index [] e fault) :
      HandlerFails index aliases f d (.reflection fault)

section Handlers

variable (index : ClassIndex) (aliases : Aliases)

/-- Only an annotation with nothing in it fails to be read. -/
theorem failsWith_markedHint (hint : Option Expr) :
    FailsWith (MarkedHint.ofExpr hint) fun fault => fault = .emptyHint ∧ IsEmptyHint hint := by
  unfold MarkedHint.ofExpr
  split
  · next value args =>
    by_cases hname : value.simpleName = annotatedName
    · rw [if_pos hname]
      split
      · next hargs => exact failsWith_error ⟨rfl, value, args, rfl, hname, hargs⟩
      · next type metadata hargs =>
        refine failsWith_ok fun fault ⟨_, value', args', he, _, hempty⟩ => ?_
        obtain ⟨rfl, rfl⟩ := Expr.subscript.inj (Option.some.inj he)
        rw [hargs] at hempty
        cases hempty
    · rw [if_neg hname]
      refine failsWith_ok fun fault ⟨_, value', args', he, hname', _⟩ => hname ?_
      obtain ⟨rfl, rfl⟩ := Expr.subscript.inj (Option.some.inj he)
      exact hname'
  · next hother =>
    exact failsWith_ok fun fault ⟨_, value, args, he, _⟩ => hother value args he

/-- Binding a parameter fails with the fault of its annotation. -/
theorem failsWith_bindParameter (pathNames : List String) (p : Param Expr) (default : Option Expr) :
    FailsWith (bindParameter index aliases pathNames p default) fun fault =>
      (fault = .emptyHint ∧ IsEmptyHint (resolveAlias aliases p.hint)) ∨
        ∃ inner, fault = .reflection inner ∧
          HintLeadsToFault index (resolveAlias aliases p.hint) inner := by
  have hmarked := failsWith_markedHint (resolveAlias aliases p.hint)
  unfold bindParameter
  cases hhint : MarkedHint.ofExpr (resolveAlias aliases p.hint) with
  | error fault => exact failsWith_error (Or.inl (hmarked.of_error fault hhint))
  | ok marked =>
    have htype (isOptional : Bool) := (failsWith_reflectHint index isOptional
      marked.type).mapError (f := HandlerFault.reflection)
    refine (htype _).map.congr fun fault => ?_
    constructor
    · rintro ⟨inner, ⟨e, he, h⟩, rfl⟩
      exact Or.inr ⟨inner, rfl, .type hhint he h⟩
    · rintro (hempty | ⟨inner, rfl, hmarked', he, h⟩)
      · exact absurd hempty (hmarked.of_ok marked hhint fault)
      · obtain rfl := Except.ok.inj (hhint.symm.trans hmarked')
        exact ⟨inner, ⟨_, he, h⟩, rfl⟩

/-- An endpoint fails as its handler does. -/
theorem failsWith_endpointOf (f : FunctionDecl) (d : RouteDecorator) :
    FailsWith (endpointOf index aliases f d) (HandlerFails index aliases f d) := by
  have hparameters := failsWith_mapM fun (p : Param Expr × Option Expr) (_ : p ∈ f.parameters) =>
    failsWith_bindParameter index aliases (placeholderNames d.declaredPath) p.1 p.2
  have hreturned := (failsWith_reflectHint index false
    (resolveAlias aliases (d.returnHint f))).mapError (f := HandlerFault.reflection)
  refine (hparameters.bind fun parameters => hreturned.map).congr fun fault => ?_
  constructor
  · rintro (⟨p, hp, ⟨rfl, hempty⟩ | ⟨inner, rfl, h⟩⟩ | ⟨inner, ⟨e, he, h⟩, rfl⟩)
    · exact .emptyHint hp hempty
    · exact .parameter hp h
    · exact .returned he h
  · rintro (⟨hp, hempty⟩ | ⟨hp, h⟩ | ⟨he, h⟩)
    · exact Or.inl ⟨_, hp, Or.inl ⟨rfl, hempty⟩⟩
    · exact Or.inl ⟨_, hp, Or.inr ⟨_, rfl, h⟩⟩
    · exact Or.inr ⟨_, ⟨_, he, h⟩, rfl⟩

/-- A controller fails as one of its handlers does. -/
theorem failsWith_controllerOf (mounts : List (RouterKey × Mount)) (r : RouterDecl) :
    FailsWith (controllerOf index aliases mounts r) fun fault =>
      ∃ handler ∈ handlersOf r.file.module r.name,
        HandlerFails index aliases handler.1 handler.2 fault :=
  (failsWith_mapM fun (handler : FunctionDecl × RouteDecorator) _ =>
    failsWith_endpointOf index aliases handler.1 handler.2).map

end Handlers

/-! ## Scans -/

/-- The top-level classes of files, in order. -/
def declaredClasses (files : List SourceFile) : List ClassDecl :=
  files.flatMap fun f => f.module.body.filterMap ClassDecl.ofStmt?

/-- The classes of files by name. -/
def classIndexOf (files : List SourceFile) : ClassIndex :=
  (declaredClasses files).foldl ClassIndex.add ClassIndex.empty

/-- A handler of these files cannot be described. -/
def SomeHandlerFails (files : List SourceFile) (fault : HandlerFault) : Prop :=
  ∃ r ∈ files.flatMap (·.routers), ∃ handler ∈ handlersOf r.file.module r.name,
    HandlerFails (classIndexOf files) (aliasesOf files) handler.1 handler.2 fault

section Scans

variable {files : List SourceFile}

/-- Adding a module to the index always succeeds. -/
theorem runFrom_addModule {ε : Type} (index : ClassIndex) (m : Module) (source : String) (log : Log) :
    ((index.addModule m source : Logged ε ClassIndex).runFrom log).1 =
      .ok ((m.body.filterMap ClassDecl.ofStmt?).foldl ClassIndex.add index) := by
  refine Logged.runFrom_foldlM (fun index c log => ?_) _ index log
  dsimp only
  split <;> rfl

/-- The classes of files are entered one by one. -/
theorem runFrom_classIndex {ε : Type} (files : List SourceFile) (log : Log) :
    ((files.foldlM (fun index f => index.addModule f.module f.path.text) ClassIndex.empty :
      Logged ε ClassIndex).runFrom log).1 = .ok (classIndexOf files) := by
  unfold classIndexOf declaredClasses
  rw [List.foldl_flatMap]
  exact Logged.runFrom_foldlM (fun index f log => runFrom_addModule index f.module f.path.text log)
    files ClassIndex.empty log

/-- The controllers of files fail as one of the handlers does. -/
theorem fails_controllersOf (files : List SourceFile) :
    Logged.Fails (controllersOf files) fun fault =>
      ∃ inner, fault = .handler inner ∧ SomeHandlerFails files inner := by
  intro log
  have hindex := runFrom_classIndex (ε := ScanFault) files log
  unfold controllersOf
  rw [Logged.runFrom_bind]
  revert hindex
  rcases Logged.runFrom _ log with ⟨fault | index, between⟩
  · exact nofun
  intro hindex
  obtain rfl := Except.ok.inj hindex
  refine (Logged.fails_filterMapM (fun (r : RouterDecl) (fault : ScanFault) =>
    ∃ inner, fault = .handler inner ∧ ∃ handler ∈ handlersOf r.file.module r.name,
      HandlerFails (classIndexOf files) (aliasesOf files) handler.1 handler.2 inner)
    (fun r _ => ?step) between).congr fun fault => ?_
  case step =>
    have hcontroller := failsWith_controllerOf (classIndexOf files) (aliasesOf files)
      (mountsOf files (files.flatMap (·.routers))) r
    split
    · next fault hfault => exact Logged.fails_throw ⟨fault, rfl, hcontroller.of_error fault hfault⟩
    · next c hc =>
      -- a router whose controller can be made is kept or passed over
      refine Logged.Fails.congr (A := fun _ => False) ?_ fun fault => (iff_false_intro ?_).symm
      · split
        · exact Logged.fails_write_pure _ _ _ _
        · exact Logged.fails_pure _
      · rintro ⟨inner, _, h⟩
        exact hcontroller.of_ok c hc inner h
  constructor
  · rintro ⟨r, hr, inner, rfl, h⟩
    exact ⟨inner, rfl, r, hr, h⟩
  · rintro ⟨inner, rfl, r, hr, h⟩
    exact ⟨r, hr, inner, rfl, h⟩

/-- A scan of sources that can all be read fails with the faults of their handlers. -/
theorem fails_scan {tree : FileTree} {root : Path} (hdirectory : tree.isDirectory root = true)
    (hfiles : readSourceFiles tree (sourcePaths tree root skippedDirectories) = .ok files) :
    Logged.Fails (scan tree root) fun fault =>
      ∃ inner, fault = .handler inner ∧ SomeHandlerFails files inner := by
  have hload : loadSources tree root = (do
      note .info s!"Loaded {files.length} Python file(s)"
      return some files) := by
    unfold loadSources
    rw [hfiles]
  unfold scan
  rw [announce_of_isDirectory hdirectory]
  refine (Logged.fails_write _ _ _).after fun _ => ?_
  dsimp only
  split
  · next hmissing =>
    rw [hdirectory] at hmissing
    cases hmissing
  · rw [hload, bind_assoc]
    refine (Logged.fails_write _ _ _).after fun _ => ?_
    rw [pure_bind]
    refine (fails_controllersOf files).before fun controllers => ?_
    split
    · exact Logged.fails_write_pure _ _ _ _
    · exact Logged.fails_write_pure _ _ _ _

/-- A directory whose sources can all be read is scanned with a result exactly if all of its handlers can
be described. Otherwise the scan breaks off with the fault of one of them. -/
theorem scan_returns_iff {tree : FileTree} {root : Path} (hdirectory : tree.isDirectory root = true)
    (hfiles : readSourceFiles tree (sourcePaths tree root skippedDirectories) = .ok files)
    (log : Log) :
    ((∃ controllers log', (scan tree root).runFrom log = (.ok controllers, log')) ↔
      ∀ fault, ¬ SomeHandlerFails files fault) ∧
    ∀ fault log', (scan tree root).runFrom log = (.error fault, log') →
      ∃ inner, fault = .handler inner ∧ SomeHandlerFails files inner := by
  have hfails := fails_scan hdirectory hfiles log
  constructor
  · constructor
    · rintro ⟨controllers, log', hrun⟩ fault hfault
      exact hfails.of_ok controllers (congrArg Prod.fst hrun) _ ⟨fault, rfl, hfault⟩
    · intro hnone
      obtain ⟨controllers, hcontrollers⟩ := hfails.exists_ok_iff.2 fun fault ⟨inner, _, h⟩ =>
        hnone inner h
      exact ⟨controllers, ((scan tree root).runFrom log).2, Prod.ext hcontrollers rfl⟩
  · intro fault log' hrun
    exact hfails.of_error fault (congrArg Prod.fst hrun)

end Scans

/-- The annotation is the name of the integers. -/
def isIntegerHint : Option Expr → Bool
  | some (.name id) => id == "int"
  | _ => false

/-- The handler has integers for parameters and declares nothing to return. -/
def takesIntegers (handler : FunctionDecl × RouteDecorator) : Bool :=
  handler.1.parameters.all (fun p => isIntegerHint p.1.hint) &&
    (handler.2.returnHint handler.1).isNone

/-- The type of integers leads to no fault. -/
theorem not_leadsToFault_integer {index : ClassIndex} (hindex : index.get? "int" = none)
    (fault : ReflectFault) : ¬ LeadsToFault index [] (.name "int") fault := by
  have hf : TypeForm.ofExpr (.name "int") = .named "int" := rfl
  have hprint : (Expr.name "int").print? ≠ none := by decide +kernel
  exact not_leadsToFault (by simp [Avoids, ReadsOn, hf, hindex])
    (by simp [faultAt_iff, hf, printedParts, ClassIndex.contains, hindex, hprint])

/-- A handler that takes integers does not fail. -/
theorem not_handlerFails_of_takesIntegers {index : ClassIndex} (hindex : index.get? "int" = none)
    {handler : FunctionDecl × RouteDecorator} (h : takesIntegers handler = true)
    (fault : HandlerFault) : ¬ HandlerFails index [] handler.1 handler.2 fault := by
  unfold takesIntegers at h
  rw [Bool.and_eq_true, List.all_eq_true] at h
  have hhint (p : Param Expr × Option Expr) (hp : p ∈ handler.1.parameters) :
      resolveAlias [] p.1.hint = some (.name "int") := by
    have hinteger := h.1 p hp
    unfold isIntegerHint at hinteger
    split at hinteger
    · next id hid =>
      rw [hid, beq_iff_eq.1 hinteger]
      rfl
    · cases hinteger
  rintro (⟨hp, hempty⟩ | ⟨hp, hleads⟩ | ⟨he, _⟩)
  · rw [hhint _ hp] at hempty
    obtain ⟨value, args, hsubscript, _⟩ := hempty
    cases hsubscript
  · rw [hhint _ hp] at hleads
    obtain ⟨hmarked, htype, hfault⟩ := hleads
    obtain rfl := Except.ok.inj hmarked
    obtain rfl := Option.some.inj htype
    exact not_leadsToFault_integer hindex _ hfault
  · rw [Option.isNone_iff_eq_none.1 h.2] at he
    cases he

/-- A project with a handler that takes an integer. -/
def integerProject : FileTree where
  entries := [(["project"], .directory), (["project", "api.py"], .file
    "router=APIRouter()\n@router.get(\"/a\")\ndef f(limit: int): ...\n".toUTF8.toList)]
  cwd := ["project"]

/-- The scan of that project has a result. -/
theorem scan_returns_of_integerProject :
    ∃ controllers log, (scan integerProject (.ofString ".")).runFrom [] = (.ok controllers, log) := by
  have hplain : (readSourceFiles integerProject (sourcePaths integerProject (.ofString ".")
      skippedDirectories)).toOption.any (fun files =>
        ((classIndexOf files).get? "int").isNone && (aliasesOf files).isEmpty &&
          (files.flatMap (·.routers)).all fun r =>
            (handlersOf r.file.module r.name).all takesIntegers) = true := by
    decide +kernel
  obtain ⟨files, hfiles, hplain⟩ := exists_eq_ok_of_any hplain
  rw [Bool.and_eq_true, Bool.and_eq_true, List.all_eq_true] at hplain
  obtain ⟨⟨hindex, haliases⟩, hhandlers⟩ := hplain
  have hreturns := scan_returns_iff (by decide +kernel) hfiles []
  refine hreturns.1.2 ?_
  rintro fault ⟨r, hr, handler, hhandler, hfails⟩
  rw [List.isEmpty_iff.1 haliases] at hfails
  exact not_handlerFails_of_takesIntegers (Option.isNone_iff_eq_none.1 hindex)
    (List.all_eq_true.1 (hhandlers r hr) handler hhandler) fault hfails

/-- The annotation is quoted and holds a null character. -/
def quotesNull : Option Expr → Bool
  | some (.constant (.str text _)) => text.toList.contains (Char.ofNat 0)
  | _ => false

/-- A project with one handler, whose quoted return annotation spells a null character. -/
def quotedNullProject : FileTree where
  entries := [(["project"], .directory), (["project", "api.py"], .file
    "router=APIRouter()\n@router.get(\"/a\")\ndef f() -> \"\\x00\": ...\n".toUTF8.toList)]
  cwd := ["project"]

/-- Not every program that can be read is scanned with a result. -/
theorem not_forall_scan_returns :
    ¬ ∀ (tree : FileTree) (root : Path) (files : List SourceFile) (log : Log),
      tree.isDirectory root = true →
      readSourceFiles tree (sourcePaths tree root skippedDirectories) = .ok files →
      ∃ controllers log', (scan tree root).runFrom log = (.ok controllers, log') := by
  intro h
  have hquoted : (readSourceFiles quotedNullProject (sourcePaths quotedNullProject (.ofString ".")
      skippedDirectories)).toOption.any (fun files => (files.flatMap (·.routers)).any fun r =>
        (handlersOf r.file.module r.name).any fun handler =>
          quotesNull (handler.2.returnHint handler.1)) = true := by
    decide +kernel
  have hdirectory : quotedNullProject.isDirectory (.ofString ".") = true := by decide +kernel
  obtain ⟨files, hfiles, hquoted⟩ := exists_eq_ok_of_any hquoted
  obtain ⟨r, hr, hquoted⟩ := List.any_eq_true.1 hquoted
  obtain ⟨handler, hhandler, hquoted⟩ := List.any_eq_true.1 hquoted
  have hfails : SomeHandlerFails files (.reflection .nullCharacter) := by
    refine ⟨r, hr, handler, hhandler, ?_⟩
    unfold quotesNull at hquoted
    split at hquoted
    · next text marked hreturned =>
      have hnull : Char.ofNat 0 ∈ text.toList := by simpa using hquoted
      refine .returned (e := .constant (.str text marked)) ?_ ⟨_, .refl, .nullCharacter rfl hnull⟩
      rw [hreturned]
      rfl
    · cases hquoted
  obtain ⟨controllers, log', hrun⟩ := h quotedNullProject (.ofString ".") files [] hdirectory hfiles
  exact (fails_scan hdirectory hfiles []).of_ok controllers (congrArg Prod.fst hrun) _
    ⟨_, rfl, hfails⟩

end RouteAtlas.Scan
