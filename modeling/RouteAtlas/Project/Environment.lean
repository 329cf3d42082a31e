import RouteAtlas.Log
import RouteAtlas.Number.NumberText
import RouteAtlas.Text.Quoted

/-!
# The environment

Host and port of the service, as the environment gives them.
-/

namespace RouteAtlas.Project

open RouteAtlas.Number RouteAtlas.Text

/-- The variables that matter; an absent one has no value. -/
structure Environment where
  host : Option String := none
  port : Option String := none
deriving Repr, DecidableEq, Inhabited

/-- The port without a setting. -/
def defaultPort : Int := 8000

/-- The host without a setting. -/
def defaultHost : String := "localhost"

/-- The port of the service; one that is no integer is reported and replaced. -/
def Environment.detectPort {ε : Type} (env : Environment) : Logged ε Int := do
  match env.port with
  | none => return defaultPort
  | some s =>
    match intOfText? 10 s with
    | some n => return n
    | none =>
      Logged.write .warning .project s!"Invalid PORT value {quoted s}, using {defaultPort}"
      return defaultPort

/-- The address of the service. -/
def Environment.detectBaseUrl {ε : Type} (env : Environment) : Logged ε String := do
  return s!"http://{env.host.getD defaultHost}:{← env.detectPort}"

end RouteAtlas.Project
