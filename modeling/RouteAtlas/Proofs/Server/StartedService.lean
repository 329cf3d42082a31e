import RouteAtlas.Proofs.Document.Writing
import RouteAtlas.Proofs.Options.Resolving
import RouteAtlas.Proofs.Server.DocumentRequests
import RouteAtlas.Server.Exchange
import RouteAtlas.Server.Start

/-!
# Started services

What a server serves once it has started: the controllers of its source directory and their document,
described by its resolved options. If the options ask for it, the start has also exported the collection
of these controllers, or has reported why it could not be written.
-/

namespace RouteAtlas.Server

open RouteAtlas.Api RouteAtlas.Collection RouteAtlas.Document RouteAtlas.Mock RouteAtlas.OpenApi
open RouteAtlas.Project RouteAtlas.Routing RouteAtlas.Scan RouteAtlas.Text

/-- The options that a server starts with: those it is given, else those of the project at a path. -/
inductive StartsWith (tree : FileTree) (root : Project.Path) : Option Options → Options → Prop
  | given {o : Options} : StartsWith tree root (some o) o
  | loaded {o : Options} {log log' : Log}
      (h : (loadOptions tree none root).runFrom log = (.ok o, log')) : StartsWith tree root none o

/-- What the document of a service says about its API as a whole. -/
def apiInfoOf (o : ResolvedOptions) : ApiInfo :=
  { title := o.title, version := o.version, baseUrl := o.address, description := o.apiDescription }

/-- The service of a project: its resolved options, the controllers of its source directory, and their
routes and document. No status of theirs is too long for the document. -/
structure Serves (tree : FileTree) (env : Environment) (root : Project.Path) (given : Option Options)
    (s : Service) : Prop where
  options : ∃ o, StartsWith tree root given o ∧ Resolves tree env root o s.options
  controllers : ∃ log log', (scan tree s.options.source).runFrom log = (.ok s.controllers, log')
  routes : s.routes = .ofControllers s.controllers
  shortStatus : ApiDocument.hasLongStatus s.controllers = false
  document : s.document = (ApiDocument.ofControllers (apiInfoOf s.options) s.controllers).toValue

/-- Where a server exports its collection. -/
def exportPath (root : Project.Path) (s : Service) : Project.Path :=
  root.join (.ofString s.options.postmanOutputPath)

/-- The message about a collection that could not be written. -/
def exportFailed (error : EmitError) : LogEntry :=
  ⟨.error, .setup, s!"Postman export failed: {error.message}"⟩

/-- An export: the collection is in its file, or cannot be written, which the log says. -/
def Exported (tree tree' : FileTree) (path : Project.Path) (collection : SampleCollection)
    (log : Log) : Prop :=
  exportTo tree collection.toValue path Format.json.name = (tree', none) ∨
    ∃ error, exportTo tree collection.toValue path Format.json.name = (tree', some (.emit error)) ∧
      exportFailed error ∈ log

/-- After an export the file holds the collection, or there is none to be read and the log says why. -/
theorem Exported.holds {tree tree' : FileTree} {path : Project.Path} {collection : SampleCollection}
    {log : Log} {text : String} (h : Exported tree tree' path collection log)
    (htext : dump collection.toValue Format.json.name = .ok text) :
    Holds tree' path text ∨
      (∃ fault, tree'.readBytes path = .error fault) ∧ ∃ error, exportFailed error ∈ log := by
  rcases h with hwritten | ⟨error, hfailed, hmem⟩
  · obtain ⟨written, hdump, _, hholds⟩ := holds_of_exportTo hwritten
    obtain rfl := Except.ok.inj (htext.symm.trans hdump)
    exact Or.inl hholds
  · exact Or.inr ⟨readBytes_of_exportTo_fault htext hfailed, error, hmem⟩

section Starting

variable {tree tree' : FileTree} {env : Environment} {root : Project.Path} {given : Option Options}
variable {script : List Nat} {s s' : Service} {log log' : Log}

/-- An export changes the source of random values of the service and nothing else of it. -/
theorem of_runFrom_exportCollection
    (h : (exportCollection tree root s).runFrom log = (.ok (tree', s'), log')) :
    ∃ collection source, s' = { s with source } ∧
      ((collectionOf s.options s.controllers).run.run s.source).1 = .ok collection ∧
      Exported tree tree' (exportPath root s) collection log' := by
  unfold exportCollection at h
  rcases hrun : (collectionOf s.options s.controllers).run.run s.source with ⟨fault | collection, source⟩
  · rw [hrun] at h
    cases (Prod.mk.inj h).1
  · rw [hrun] at h
    dsimp only at h
    split at h
    · next written hexport =>
      obtain ⟨_, between, _, h⟩ := Logged.exists_of_runFrom_bind h
      obtain ⟨rfl, rfl⟩ := Prod.mk.inj (Logged.eq_of_runFrom_pure h)
      exact ⟨collection, source, rfl, rfl, Or.inl hexport⟩
    · next written error hexport =>
      obtain ⟨hresult, hlog⟩ := Prod.mk.inj h
      obtain ⟨rfl, rfl⟩ := Prod.mk.inj (Except.ok.inj hresult)
      refine ⟨collection, source, rfl, rfl, Or.inr ⟨error, hexport, ?_⟩⟩
      rw [← hlog]
      exact List.mem_append_right log (List.mem_singleton_self _)
    · cases (Prod.mk.inj h).1

/-- The options that a server finds at its start, with their gaps filled. -/
def startOptions (tree : FileTree) (env : Environment) (root : Project.Path) (given : Option Options) :
    Starting ResolvedOptions := do
  let layout ← Logged.mapFault .metadata (detectLayout tree root)
  let loaded ← (match given with
    | some options => pure options
    | none => Logged.mapFault .options (loadOptions tree none root) : Starting Options)
  Logged.mapFault .metadata (resolveOptions env layout loaded)

/-- The options that a server finds are those of its project, with their gaps filled. -/
theorem resolves_of_startOptions {options : ResolvedOptions}
    (h : (startOptions tree env root given).runFrom log = (.ok options, log')) :
    ∃ o, StartsWith tree root given o ∧ Resolves tree env root o options := by
  obtain ⟨layout, log₁, hlayout, h⟩ := Logged.exists_of_runFrom_bind h
  obtain ⟨loaded, log₂, hloaded, h⟩ := Logged.exists_of_runFrom_bind h
  have hstarts : StartsWith tree root given loaded := by
    split at hloaded
    · exact Logged.eq_of_runFrom_pure hloaded ▸ .given
    · exact .loaded (Logged.exists_of_runFrom_mapFault hloaded)
  exact ⟨loaded, hstarts, resolves_of_resolveOptions (Logged.exists_of_runFrom_mapFault hlayout)
    (Logged.exists_of_runFrom_mapFault h)⟩

/-- The service of options and the controllers that they lead to, before anything is drawn. -/
def freshService (options : ResolvedOptions) (controllers : List Controller) (script : List Nat) :
    Service where
  options := options
  controllers := controllers
  routes := .ofControllers controllers
  document := (ApiDocument.ofControllers (apiInfoOf options) controllers).toValue
  views := []
  source := options.randomSource script

/-- The rest of the start does not depend on how the options were found. -/
theorem buildService_eq (tree : FileTree) (env : Environment) (root : Project.Path)
    (given : Option Options) (script : List Nat) : buildService tree env root given script = do
      let options ← startOptions tree env root given
      noteStart .info s!"Project root: {root}"
      noteStart .info s!"Source path: {options.source}"
      let controllers ← Logged.mapFault .scan (scan tree options.source)
      noteStart .info "Generating OpenAPI specification..."
      let document ← Logged.mapFault .document (ApiDocument.build (apiInfoOf options) controllers)
      let s := { freshService options controllers script with document := document.toValue }
      if options.autoExportPostman then exportCollection tree root s else return (tree, s) := by
  unfold buildService startOptions
  rw [bind_assoc]
  cases given <;> simp only [bind_assoc] <;> rfl

/-- A service that was built serves its project. If its options ask for an export, the collection of its
controllers was exported; if not, no random value was drawn. -/
theorem of_runFrom_buildService
    (h : (buildService tree env root given script).runFrom log = (.ok (tree', s), log')) :
    Serves tree env root given s ∧
      (s.options.autoExportPostman = true → ∃ collection,
        ((collectionOf s.options s.controllers).run.run (s.options.randomSource script)).1 =
          .ok collection ∧ Exported tree tree' (exportPath root s) collection log') ∧
      (s.options.autoExportPostman = false → s.source = s.options.randomSource script) := by
  rw [buildService_eq] at h
  obtain ⟨options, log₁, hoptions, h⟩ := Logged.exists_of_runFrom_bind h
  obtain ⟨_, log₂, _, h⟩ := Logged.exists_of_runFrom_bind h
  obtain ⟨_, log₃, _, h⟩ := Logged.exists_of_runFrom_bind h
  obtain ⟨controllers, log₄, hcontrollers, h⟩ := Logged.exists_of_runFrom_bind h
  obtain ⟨_, log₅, _, h⟩ := Logged.exists_of_runFrom_bind h
  obtain ⟨document, log₆, hdocument, h⟩ := Logged.exists_of_runFrom_bind h
  obtain ⟨hshort, rfl⟩ := ApiDocument.of_runFrom_build (Logged.exists_of_runFrom_mapFault hdocument)
  have hresolved := resolves_of_startOptions hoptions
  have hscan := Logged.exists_of_runFrom_mapFault hcontrollers
  split at h
  · next hexport =>
    obtain ⟨collection, source, rfl, hcollection, hexported⟩ := of_runFrom_exportCollection h
    exact ⟨⟨hresolved, ⟨_, _, hscan⟩, rfl, hshort, rfl⟩,
      fun _ => ⟨collection, hcollection, hexported⟩,
      fun hoff => Bool.noConfusion (hexport.symm.trans hoff)⟩
  · next hexport =>
    obtain ⟨rfl, rfl⟩ := Prod.mk.inj (Logged.eq_of_runFrom_pure h)
    exact ⟨⟨hresolved, ⟨_, _, hscan⟩, rfl, hshort, rfl⟩, fun hon => absurd hon hexport,
      fun _ => rfl⟩

/-- The summary keeps the messages before it. -/
theorem extends_noteSummary (s : Service) : Logged.Extends (noteSummary s) := by
  have hnote (text : String) : Logged.Extends (noteStart .info text) := Logged.extends_write _ _ _
  unfold noteSummary
  refine (hnote _).bind fun _ => (hnote _).bind fun _ => (hnote _).bind fun _ => ?_
  dsimp only
  split
  · exact (hnote _).bind fun _ => hnote _
  · exact hnote _

/-- A service that was started serves its project, and shows its documentation where its options say. If
they ask for an export, the collection of its controllers was exported. -/
theorem of_runFrom_startService
    (h : (startService tree env root given script).runFrom log = (.ok (tree', s), log')) :
    Serves tree env root given s ∧ (DocsAddresses.ofOptions s.options.toOptions).views = .ok s.views ∧
      (s.options.autoExportPostman = true → ∃ collection,
        ((collectionOf s.options s.controllers).run.run (s.options.randomSource script)).1 =
          .ok collection ∧ Exported tree tree' (exportPath root s) collection log') := by
  obtain ⟨⟨built, service⟩, between, hbuild, h⟩ := Logged.exists_of_runFrom_bind h
  dsimp only at h
  split at h
  · cases (Prod.mk.inj h).1
  · next views hviews =>
    obtain ⟨_, between', hnote, h⟩ := Logged.exists_of_runFrom_bind h
    have hlog : between' = log' := (Prod.mk.inj h).2
    have hprefix := extends_noteSummary { service with views } between
    rw [hnote, hlog] at hprefix
    obtain ⟨rfl, rfl⟩ := Prod.mk.inj (Logged.eq_of_runFrom_pure h)
    obtain ⟨hserves, hexport, _⟩ := of_runFrom_buildService hbuild
    refine ⟨⟨hserves.options, hserves.controllers, hserves.routes, hserves.shortStatus,
      hserves.document⟩, hviews,
      fun hon => ?_⟩
    obtain ⟨collection, hcollection, hexported⟩ := hexport hon
    refine ⟨collection, hcollection, hexported.imp_right ?_⟩
    rintro ⟨error, hfailed, hmem⟩
    exact ⟨error, hfailed, hprefix.subset hmem⟩

end Starting

end RouteAtlas.Server
