import RouteAtlas.Collection.SampleCollection
import RouteAtlas.Document.Export
import RouteAtlas.Log
import RouteAtlas.OpenApi.ApiDocument
import RouteAtlas.Options.Resolve
import RouteAtlas.Routing.RouteTable
import RouteAtlas.Server.Address
import RouteAtlas.Server.DocsPage
import RouteAtlas.Server.Exchange

/-!
# The server

What one scan of a project serves: the documentation page with the document and the collection beside
it, and under a path of its own a mock of every route. Serving a request advances the source of random
values, writes messages, and changes nothing else.
-/

namespace RouteAtlas.Server

open RouteAtlas.Api RouteAtlas.Collection RouteAtlas.Document RouteAtlas.Mock RouteAtlas.OpenApi
open RouteAtlas.Routing RouteAtlas.Text

/-- What the documentation shows. -/
inductive DocsView where
  | page
  | document
  | collection
deriving Repr, DecidableEq, Inhabited

/-- A path without slashes around it, after one slash. -/
def rooted (path : String) : String := "/" ++ String.ofList (trim (· == '/') path.toList)

/-- Where the documentation stands. -/
structure DocsAddresses where
  page : String
deriving Repr, DecidableEq, Inhabited

namespace DocsAddresses

/-- The addresses for options. -/
def ofOptions (o : Options) : DocsAddresses := ⟨rooted o.path⟩

/-- Where the document stands. -/
def document (a : DocsAddresses) : String := a.page ++ "-json"

/-- Where the document stands, too. -/
def documentBelow (a : DocsAddresses) : String := a.page ++ "/spec"

/-- Where the collection stands. -/
def collection (a : DocsAddresses) : String := a.page ++ "/postman"

/-- The views by the patterns of their addresses; the first that accepts a path shows its view. -/
def views (a : DocsAddresses) : Except AddressFault (List (Pattern × DocsView)) :=
  [(a.page, .page), (a.document, .document), (a.documentBelow, .document),
    (a.collection, .collection)].mapM fun (address, view) => do
      return (← addressPattern address, view)

end DocsAddresses

/-- What one scan of a project serves. -/
structure Service where
  options : ResolvedOptions
  controllers : List Controller
  routes : RouteTable
  document : Value
  views : List (Pattern × DocsView)
  source : Source
deriving Inhabited

/-- Why a request has no answer. -/
inductive ServeFault where
  | page (fault : PageFault)
  | mock (fault : MockFault)
  | sample (fault : SampleFault)
  /-- The answer holds a number that strict JSON cannot: an infinite one, or one of too many digits. -/
  | number
  /-- The answer holds a surrogate, which has no bytes. -/
  | surrogate
deriving Inhabited

/-- What serving changes. -/
structure Journal where
  source : Source
  log : Log
deriving Inhabited

/-- Serving a request. -/
abbrev Serving := ExceptT ServeFault (StateM Journal)

namespace Serving

/-- Writes a message. -/
def note (level : Level) (topic : Topic) (text : String) : Serving Unit :=
  modify fun j => { j with log := j.log ++ [⟨level, topic, text⟩] }

/-- A mock value. -/
def mock {α : Type} (g : Gen α) : Serving α := fun j =>
  let (result, source) := g.run.run j.source
  (result.mapError .mock, { j with source })

/-- A filled sample. -/
def sample {α : Type} (work : Sampling α) : Serving α := fun j =>
  let (result, source) := work.run.run j.source
  (result.mapError .sample, { j with source })

end Serving

end RouteAtlas.Server
