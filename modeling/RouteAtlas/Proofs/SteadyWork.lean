import RouteAtlas.Options.Load
import RouteAtlas.Project.Environment
import RouteAtlas.Proofs.Oblivious
import RouteAtlas.Scan.ProjectScan

/-!
# Steady work

Options, metadata, the address of the service and the controllers of a scan depend on the files and the
environment, never on the messages that were written before.
-/

namespace RouteAtlas

open RouteAtlas.Document RouteAtlas.Logged RouteAtlas.Project RouteAtlas.Reflect RouteAtlas.Scan

/-! ## Options and metadata -/

section Loading

variable (tree : FileTree) (root path : Project.Path)

/-- Metadata does not depend on messages. -/
theorem steady_readMetadata : Steady (readMetadata tree root) := by
  unfold readMetadata
  dsimp only
  split
  · exact steady_pure []
  · split
    · exact steady_write_pure _ _ _ _
    · split
      · exact steady_throw _
      · split
        · exact steady_pure _
        · exact steady_throw _
        · exact steady_write_pure _ _ _ _

/-- The data of a file does not depend on messages. -/
theorem steady_readConfigFile : Steady (readConfigFile tree path) := by
  unfold readConfigFile
  dsimp only
  split
  · exact steady_throw _
  · exact steady_write_pure _ _ _ _
  · split
    · exact steady_write_pure _ _ _ _
    · exact steady_throw _
    · exact steady_pure _
    · exact steady_pure _
    · exact steady_write_pure _ _ _ _

/-- Options in the metadata do not depend on messages. -/
theorem steady_readMetadataOptions : Steady (readMetadataOptions tree root) := by
  unfold readMetadataOptions
  refine ((steady_readMetadata tree root).mapFault _).bind fun metadata => ?_
  dsimp only
  split
  · exact steady_pure _
  · exact steady_throw _

/-- Loaded options do not depend on messages. -/
theorem steady_loadOptions (config : Option Project.Path) : Steady (loadOptions tree config root) := by
  unfold loadOptions readConfigData
  refine Steady.bind ?_ fun fields => ?_
  · dsimp only
    split
    · exact steady_readConfigFile tree _
    · split
      · exact steady_write_pure _ _ _ _
      · exact steady_readMetadataOptions tree root
  · split
    · exact steady_pure _
    · exact steady_throw _

end Loading

/-- The address of the service does not depend on messages. -/
theorem steady_detectBaseUrl {ε : Type} (env : Environment) :
    Steady (env.detectBaseUrl : Logged ε String) := by
  unfold Environment.detectBaseUrl Environment.detectPort
  refine Steady.bind ?_ fun port => steady_pure _
  split
  · exact steady_pure _
  · split
    · exact steady_pure _
    · exact steady_write_pure _ _ _ _

/-! ## Scans -/

/-- The classes of a module do not depend on messages. -/
theorem steady_addModule {ε : Type} (index : ClassIndex) (m : Syntax.Module) (source : String) :
    Steady (index.addModule m source : Logged ε ClassIndex) := by
  unfold ClassIndex.addModule
  refine oblivious_foldlM _ (fun index c => ?_) index
  dsimp only
  split
  · exact steady_write_pure _ _ _ _
  · exact steady_pure _

/-- The controllers of files do not depend on messages. -/
theorem steady_controllersOf (files : List SourceFile) : Steady (controllersOf files) := by
  unfold controllersOf
  refine (oblivious_foldlM files (fun index f => steady_addModule index f.module f.path.text) _).bind
    fun index => oblivious_filterMapM _ fun r => ?_
  split
  · exact steady_throw _
  · split
    · exact steady_write_pure _ _ _ _
    · exact steady_pure _

/-- Loaded sources do not depend on messages. -/
theorem steady_loadSources (tree : FileTree) (root : Project.Path) :
    Steady (loadSources tree root) := by
  unfold loadSources
  split
  · exact steady_throw _
  · exact steady_write_pure _ _ _ _
  · exact steady_write_pure _ _ _ _

/-- Whether a path has a null character does not depend on messages. -/
theorem steady_announce (tree : FileTree) (root : Project.Path) : Steady (announce tree root) := by
  unfold announce
  split
  · exact steady_throw _
  · exact steady_write _ _ _

/-- A scan does not depend on messages. -/
theorem steady_scan (tree : FileTree) (root : Project.Path) : Steady (scan tree root) := by
  unfold scan
  refine (steady_announce tree root).bind fun _ => ?_
  dsimp only
  split
  · exact steady_write_pure _ _ _ _
  · refine (steady_loadSources tree root).bind fun sources => ?_
    split
    · exact steady_pure _
    · refine (steady_controllersOf _).bind fun controllers => ?_
      split
      · exact steady_write_pure _ _ _ _
      · exact steady_write_pure _ _ _ _

end RouteAtlas
