import RouteAtlas.Api.Defaults
import RouteAtlas.Document.Checked
import RouteAtlas.Mock.Source

/-!
# Options

What a project can configure. Options are read from data field by field; fields that are absent take
their defaults, and unknown ones are ignored.
-/

namespace RouteAtlas

open RouteAtlas.Document RouteAtlas.Mock Checked

/-- The looks of the documentation page. -/
inductive Theme where
  | classic
  | futuristic
deriving Repr, DecidableEq, Inhabited

/-- The name of a theme. -/
def Theme.name : Theme → String
  | .classic => "classic"
  | .futuristic => "futuristic"

/-- The theme of a name. -/
def Theme.ofName? (s : String) : Option Theme :=
  [Theme.classic, .futuristic].find? (·.name == s)

/-- The options of a project. -/
structure Options where
  /-- Where the documentation page is served. -/
  path : String := "/docs"
  enableMock : Bool := true
  /-- Where the mock server answers. -/
  mockPrefix : String := "/scramble-mock"
  autoExportPostman : Bool := false
  postmanOutputPath : String := "collection.json"
  baseUrl : Option String := none
  sourcePath : Option String := none
  apiTitle : Option String := none
  apiVersion : Option String := none
  apiDescription : String := Api.defaultDescription
  primaryColor : String := "#00f2ff"
  theme : Theme := .futuristic
  customDomainIcon : String := ""
  locale : String := "en_US"
  seed : Option Int := none
deriving Repr, DecidableEq, Inhabited

/-- Options from data. -/
def Options.ofFields (fields : List (String × Value)) : Checked Options :=
  let d : Options := {}
  Options.mk <$> optionalField "path" d.path text fields
    <*> optionalField "enable_mock" d.enableMock bool fields
    <*> optionalField "mock_prefix" d.mockPrefix text fields
    <*> optionalField "auto_export_postman" d.autoExportPostman bool fields
    <*> optionalField "postman_output_path" d.postmanOutputPath text fields
    <*> optionalField "base_url" d.baseUrl (nullable text) fields
    <*> optionalField "source_path" d.sourcePath (nullable text) fields
    <*> optionalField "api_title" d.apiTitle (nullable text) fields
    <*> optionalField "api_version" d.apiVersion (nullable text) fields
    <*> optionalField "api_description" d.apiDescription text fields
    <*> optionalField "primary_color" d.primaryColor text fields
    <*> optionalField "theme" d.theme (listed Theme.ofName?) fields
    <*> optionalField "custom_domain_icon" d.customDomainIcon text fields
    <*> optionalField "locale" d.locale text fields
    <*> optionalField "seed" d.seed (nullable int) fields

/-- The source of random values for options; without a seed it follows the script. -/
def Options.randomSource (o : Options) (script : List Nat) : Source :=
  let source : Source := { script, locale := o.locale }
  match o.seed with
  | some n => source.seeded n
  | none => source

end RouteAtlas
