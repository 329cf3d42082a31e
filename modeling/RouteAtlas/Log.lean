/-!
# The log

Messages that work leaves behind, each with its level and the part of the library it comes from. A log
keeps the order in which they were written, also of work that fails.
-/

namespace RouteAtlas

/-- How much a message matters. -/
inductive Level where
  | debug
  | info
  | warning
  | error
deriving Repr, DecidableEq, Inhabited

/-- The name of a level. -/
def Level.name : Level → String
  | .debug => "DEBUG"
  | .info => "INFO"
  | .warning => "WARNING"
  | .error => "ERROR"

/-- The weight of a level; a filter shows messages from a weight on. -/
def Level.weight : Level → Nat
  | .debug => 10
  | .info => 20
  | .warning => 30
  | .error => 40

/-- The parts of the library that write messages. -/
inductive Topic where
  | reflection
  | scan
  | document
  | options
  | project
  | docs
  | mock
  | setup
deriving Repr, DecidableEq, Inhabited

/-- The name under which a part writes. -/
def Topic.name : Topic → String
  | .reflection => "api_scramble.scanner.reflector"
  | .scan => "api_scramble.scanner.service"
  | .document => "api_scramble.generator.openapi"
  | .options => "api_scramble.config"
  | .project => "api_scramble.detect"
  | .docs => "api_scramble.server.docs"
  | .mock => "api_scramble.server.middleware"
  | .setup => "api_scramble.integration"

/-- A message. -/
structure LogEntry where
  level : Level
  topic : Topic
  text : String
deriving Repr, DecidableEq, Inhabited

/-- The messages so far, the first one first. -/
abbrev Log := List LogEntry

/-- Work that writes messages and may fail; the messages outlive the failure. -/
abbrev Logged (ε : Type) := ExceptT ε (StateM Log)

namespace Logged

variable {ε δ α : Type}

/-- Writes a message. -/
def write (level : Level) (topic : Topic) (text : String) : Logged ε Unit :=
  modify (· ++ [⟨level, topic, text⟩])

/-- Runs the work after the messages so far. -/
def runFrom (work : Logged ε α) (log : Log) : Except ε α × Log := work.run.run log

/-- The same work with its failures renamed. -/
def mapFault (f : ε → δ) (work : Logged ε α) : Logged δ α := fun log =>
  let (result, log) := work.run.run log
  (result.mapError f, log)

end Logged

end RouteAtlas
