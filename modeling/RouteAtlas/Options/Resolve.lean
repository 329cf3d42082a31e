import RouteAtlas.Options.Load
import RouteAtlas.Project.Environment
import RouteAtlas.Project.Layout

/-!
# Resolved options

Options with the gaps filled from the environment and the layout of the project. Empty texts count as
gaps. Title and version may come from metadata and are values of any kind.
-/

namespace RouteAtlas

open RouteAtlas.Document RouteAtlas.Project

/-- A text that counts as present. -/
def presentText? (s : Option String) : Option String := s.filter (!·.isEmpty)

/-- Options without gaps. -/
structure ResolvedOptions extends Options where
  address : String
  source : Path
  title : Value
  version : Value
deriving Inhabited

/-- A text that an option gives, or a field of the metadata, or a default. The metadata are not looked
at where the option gives a text. -/
def describedBy (option : Option String) (field : String) (metadata : ConfigData)
    (fallback : String) : Except MetadataFault Value :=
  match presentText? option with
  | some s => .ok (.str s)
  | none => do return (← projectField field metadata).getD (.str fallback)

/-- Fills the gaps of options. -/
def resolveOptions (env : Environment) (layout : Layout) (o : Options) :
    Logged MetadataFault ResolvedOptions := do
  let address ← match presentText? o.baseUrl with
    | some url => pure url
    | none => env.detectBaseUrl
  let source := layout.root.join
    (.ofString ((presentText? o.sourcePath).getD layout.sourceDirectory))
  let title ← describedBy o.apiTitle "name" layout.metadata Api.defaultTitle
  let version ← describedBy o.apiVersion "version" layout.metadata Api.defaultVersion
  return { o with address, source, title, version }

end RouteAtlas
