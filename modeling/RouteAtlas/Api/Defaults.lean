/-!
# Default texts

How an API is named, versioned, addressed and described where nobody says otherwise. Documents,
collections, options and project metadata fall back on the same texts, so they agree with each other.
-/

namespace RouteAtlas.Api

/-- The name of an API without one. -/
def defaultTitle : String := "FastAPI API"

/-- The version of an API without one. -/
def defaultVersion : String := "1.0.0"

/-- Where an API is reached. -/
def defaultBaseUrl : String := "http://localhost:8000"

/-- The description of an API without one. -/
def defaultDescription : String := "Generated from FastAPI routers using api-scramble"

end RouteAtlas.Api
