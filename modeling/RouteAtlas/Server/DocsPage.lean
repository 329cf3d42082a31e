import RouteAtlas.Options.Resolve
import RouteAtlas.Server.PageTemplate
import RouteAtlas.Text.Markup

/-!
# The documentation page

The page that shows a document: the template with the title, the looks and the addresses of a project
in its holes. Whatever is inserted is text in markup, except the image of the icon, which holds the
address of the icon as such text.
-/

namespace RouteAtlas.Server

open RouteAtlas.Document RouteAtlas.Text

/-- What a page shows. -/
structure DocsPage where
  title : String
  version : String
  theme : Theme
  primaryColor : String
  icon : String
  specUrl : String
  collectionUrl : String
  mockStart : String
deriving Repr, DecidableEq, Inhabited

/-- The title of a page without one. -/
def defaultPageTitle : String := "API Docs"

namespace DocsPage

/-- The page of a project whose document and collection stand at these addresses. -/
def ofOptions (o : Options) (specUrl collectionUrl : String) : DocsPage where
  title := (presentText? o.apiTitle).getD defaultPageTitle
  version := o.apiVersion.getD ""
  theme := o.theme
  primaryColor := o.primaryColor
  icon := o.customDomainIcon
  specUrl := specUrl
  collectionUrl := collectionUrl
  mockStart := if o.enableMock then o.mockPrefix else ""

/-- The image of an icon, nothing if it has no address. -/
def iconImage (address : String) : String :=
  if address.isEmpty then "" else "<img class=\"icon\" src=\"" ++ markupText address ++ "\" alt=\"\">"

/-- What stands in a hole. -/
def fill (p : DocsPage) : PageHole → String
  | .title => markupText p.title
  | .version => markupText p.version
  | .theme => p.theme.name
  | .primaryColor => markupText p.primaryColor
  | .icon => iconImage p.icon
  | .specUrl => markupText p.specUrl
  | .collectionUrl => markupText p.collectionUrl
  | .mockStart => markupText p.mockStart

/-- A part of the page. -/
def part (p : DocsPage) : PagePart → String
  | .text s => s
  | .hole h => p.fill h

/-- The text of the page. -/
def text (p : DocsPage) : String :=
  String.join (pageTemplate.map fun line => String.join (line.map p.part) ++ "\n")

end DocsPage

/-- Why there is no page. -/
inductive PageFault where
  /-- A title or version is no text. -/
  | notText (v : Value)
deriving Repr, Inhabited

/-- A value that a page can show. -/
def pageText : Value → Except PageFault String
  | .str s => .ok s
  | v => .error (.notText v)

/-- The page of a project whose options have no gaps. -/
def DocsPage.ofResolved (o : ResolvedOptions) (specUrl collectionUrl : String) :
    Except PageFault DocsPage := do
  let title ← pageText o.title
  let version ← pageText o.version
  return .ofOptions { o.toOptions with apiTitle := some title, apiVersion := some version }
    specUrl collectionUrl

end RouteAtlas.Server
