import RouteAtlas.Document.Json
import RouteAtlas.Text.Cut

/-!
# Requests and responses

What the server is asked and what it answers. A response says what its body is, unless it has none.
-/

namespace RouteAtlas.Server

open RouteAtlas.Document RouteAtlas.Text

/-- A request. -/
structure Request where
  verb : String
  /-- The path, without escapes. -/
  path : String
deriving Repr, DecidableEq, Inhabited

/-- Characters that an address does not keep. -/
def isDroppedFromAddress (c : Char) : Bool := c == '\t' || c == '\n' || c == '\r'

/-- The path part of the address that the request's path spells: from the first slash to the query. -/
def Request.addressPath (r : Request) : String :=
  String.ofList <| ((r.path.toList.filter (!isDroppedFromAddress ·)).dropWhile (· != '/')).takeWhile
    fun c => c != '?' && c != '#'

/-- A response. -/
structure Response where
  status : Int
  contentType : Option String := none
  disposition : Option String := none
  body : String := ""
deriving Repr, DecidableEq, Inhabited

namespace Response

/-- What page bodies are. -/
def pageType : String := "text/html; charset=utf-8"

/-- JSON without blanks. -/
def bareJson : JsonStyle := ⟨.compact, false⟩

/-- A value as a JSON body. -/
def ofValue (status : Int) (v : Value) : Response :=
  ⟨status, some jsonContentType, none, v.json bareJson⟩

/-- Nothing answers for the path. -/
def notFound : Response := .ofValue 404 (.map [("detail", .str "Not Found")])

/-- Something answers for the path, but not to this verb. -/
def wrongVerb : Response := .ofValue 405 (.map [("detail", .str "Method Not Allowed")])

end Response

end RouteAtlas.Server
