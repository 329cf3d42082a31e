import RouteAtlas.Options.Resolve
import RouteAtlas.Proofs.Project.PathText
import RouteAtlas.Proofs.SteadyWork

/-!
# Where options come from

The address of a service and the title and version of its document are what the options say, and else
what the environment and the metadata of the project say. `IsAddress` and `IsDescription` state this
apart from the work that finds them out, and leave no choice; so work that agrees on the options, the
environment and the files agrees on what is described.
-/

namespace RouteAtlas

open RouteAtlas.Document RouteAtlas.Project

/-- The address of a service whose options may give one. -/
inductive IsAddress (env : Environment) (option : Option String) : String → Prop
  | given {s : String} (h : presentText? option = some s) : IsAddress env option s
  | detected {s : String} {log log' : Log} (hnone : presentText? option = none)
      (h : (env.detectBaseUrl : Logged MetadataFault String).runFrom log = (.ok s, log')) :
      IsAddress env option s

/-- What describes the project at a path: what its options may give, else a field of its metadata, else
a text of its own. -/
inductive IsDescription (tree : FileTree) (root : Project.Path) (field fallback : String)
    (option : Option String) : Value → Prop
  | given {s : String} (h : presentText? option = some s) :
      IsDescription tree root field fallback option (.str s)
  | detected {metadata : List (String × Value)} {found : Option Value} {log log' : Log}
      (hnone : presentText? option = none)
      (hread : (readMetadata tree root).runFrom log = (.ok metadata, log'))
      (hfound : projectField field metadata = .ok found) :
      IsDescription tree root field fallback option (found.getD (.str fallback))

section Unique

variable {tree : FileTree} {root : Project.Path} {env : Environment} {option : Option String}

/-- The environment and the option leave no choice of the address. -/
theorem IsAddress.unique {a b : String} (ha : IsAddress env option a) (hb : IsAddress env option b) :
    a = b := by
  rcases ha with hgiven | ⟨hnone, hrun⟩ <;> rcases hb with hgiven' | ⟨hnone', hrun'⟩
  · exact Option.some.inj (hgiven.symm.trans hgiven')
  · cases hgiven.symm.trans hnone'
  · cases hnone.symm.trans hgiven'
  · exact (steady_detectBaseUrl env).eq_of_runs hrun hrun'

/-- The project and the option leave no choice of the description. -/
theorem IsDescription.unique {field fallback : String} {v w : Value}
    (hv : IsDescription tree root field fallback option v)
    (hw : IsDescription tree root field fallback option w) : v = w := by
  rcases hv with hgiven | ⟨hnone, hread, hfound⟩ <;> rcases hw with hgiven' | ⟨hnone', hread', hfound'⟩
  · exact congrArg Value.str (Option.some.inj (hgiven.symm.trans hgiven'))
  · cases hgiven.symm.trans hnone'
  · cases hnone.symm.trans hgiven'
  · obtain rfl := (steady_readMetadata tree root).eq_of_runs hread hread'
    obtain rfl := Except.ok.inj (hfound.symm.trans hfound')
    rfl

end Unique

/-- The options with their gaps filled from the project at a path. -/
structure Resolves (tree : FileTree) (env : Environment) (root : Project.Path) (o : Options)
    (r : ResolvedOptions) : Prop where
  options : r.toOptions = o
  source : ∃ text, r.source = root.join (.ofString text)
  address : IsAddress env o.baseUrl r.address
  title : IsDescription tree root "name" Api.defaultTitle o.apiTitle r.title
  version : IsDescription tree root "version" Api.defaultVersion o.apiVersion r.version

/-- The source directory of a project at a normal path is a normal path. -/
theorem Resolves.isNormal_source {tree : FileTree} {env : Environment} {root : Project.Path}
    {o : Options} {r : ResolvedOptions} (h : Resolves tree env root o r) (hroot : root.IsNormal) :
    r.source.IsNormal := by
  obtain ⟨text, htext⟩ := h.source
  rw [htext]
  exact hroot.join (Path.isNormal_ofString text)

section Resolving

variable {tree : FileTree} {root : Project.Path} {env : Environment} {log log' : Log}

/-- A layout holds the root and the metadata of its project. -/
theorem of_runFrom_detectLayout {layout : Layout}
    (h : (detectLayout tree root).runFrom log = (.ok layout, log')) :
    layout.root = root ∧ ∃ log', (readMetadata tree root).runFrom log = (.ok layout.metadata, log') := by
  obtain ⟨metadata, between, hmetadata, h⟩ := Logged.exists_of_runFrom_bind h
  obtain ⟨paths, between', hpaths, h⟩ := Logged.exists_of_runFrom_bind h
  obtain rfl := Logged.eq_of_runFrom_pure h
  exact ⟨rfl, between, hmetadata⟩

/-- What an option, a field of the metadata or a text of its own describes. -/
theorem isDescription_of_describedBy {metadata : ConfigData} {option : Option String}
    {field fallback : String} {v : Value}
    (hread : (readMetadata tree root).runFrom log = (.ok metadata, log'))
    (h : describedBy option field metadata fallback = .ok v) :
    IsDescription tree root field fallback option v := by
  unfold describedBy at h
  split at h
  · next s hoption =>
    obtain rfl := Except.ok.inj h
    exact .given hoption
  · next hoption =>
    obtain ⟨found, hfound, h⟩ := exists_of_bind_eq_ok h
    obtain rfl := Except.ok.inj h
    exact .detected hoption hread hfound

/-- The address that an option gives, or else the environment. -/
def addressOf (env : Environment) (option : Option String) : Logged MetadataFault String :=
  match presentText? option with
  | some url => pure url
  | none => env.detectBaseUrl

/-- The address comes before everything that uses it. -/
theorem resolveOptions_eq (env : Environment) (layout : Layout) (o : Options) :
    resolveOptions env layout o = do
      let address ← addressOf env o.baseUrl
      let source := layout.root.join
        (.ofString ((presentText? o.sourcePath).getD layout.sourceDirectory))
      let title ← describedBy o.apiTitle "name" layout.metadata Api.defaultTitle
      let version ← describedBy o.apiVersion "version" layout.metadata Api.defaultVersion
      return { o with address, source, title, version } := by
  unfold resolveOptions addressOf
  cases presentText? o.baseUrl <;> rfl

/-- Resolved options are the options that were given, with their gaps filled from the project. -/
theorem resolves_of_resolveOptions {layout : Layout} {o : Options} {r : ResolvedOptions}
    {before between : Log} (hlayout : (detectLayout tree root).runFrom before = (.ok layout, between))
    (h : (resolveOptions env layout o).runFrom log = (.ok r, log')) : Resolves tree env root o r := by
  obtain ⟨rfl, after, hread⟩ := of_runFrom_detectLayout hlayout
  rw [resolveOptions_eq] at h
  obtain ⟨address, log₁, haddress, h⟩ := Logged.exists_of_runFrom_bind h
  obtain ⟨title, log₂, htitle, h⟩ := Logged.exists_of_runFrom_bind h
  obtain ⟨version, log₃, hversion, h⟩ := Logged.exists_of_runFrom_bind h
  obtain rfl := Logged.eq_of_runFrom_pure h
  refine ⟨rfl, ⟨_, rfl⟩, ?_, isDescription_of_describedBy hread (Prod.mk.inj htitle).1,
    isDescription_of_describedBy hread (Prod.mk.inj hversion).1⟩
  unfold addressOf at haddress
  split at haddress
  · next url hurl => exact Logged.eq_of_runFrom_pure haddress ▸ .given hurl
  · next hnone => exact .detected hnone haddress

end Resolving

end RouteAtlas
