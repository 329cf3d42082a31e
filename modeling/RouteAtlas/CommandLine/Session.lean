import RouteAtlas.CommandLine.Command
import RouteAtlas.Collection.SampleRequest
import RouteAtlas.Log
import RouteAtlas.OpenApi.ApiDocument
import RouteAtlas.Options.Load
import RouteAtlas.Scan.ProjectScan

/-!
# Sessions

One call of the program: the file tree it works on, and what it has printed so far. Output and messages
share one transcript, so that their order is kept.
-/

namespace RouteAtlas.CommandLine

open RouteAtlas.Collection RouteAtlas.Document RouteAtlas.Mock RouteAtlas.OpenApi RouteAtlas.Project
open RouteAtlas.Scan

/-- A line that the program prints. -/
inductive OutputLine where
  | said (text : String)
  | logged (entry : LogEntry)
deriving Repr, DecidableEq, Inhabited

/-- A line as it is printed. -/
def OutputLine.text : OutputLine → String
  | .said text => text
  | .logged e => s!"{e.level.name} {e.topic.name}: {e.text}"

/-- What the program has done so far. -/
structure Session where
  tree : FileTree
  /-- Messages of a lesser level are not printed. -/
  threshold : Level := .warning
  transcript : List OutputLine := []
deriving Inhabited

/-- Why a text is not printed. -/
inductive PrintFault where
  /-- An integer of too many digits stands in it. -/
  | longInteger
  /-- A surrogate stands in it, which has no bytes. -/
  | surrogate
deriving Repr, DecidableEq, Inhabited

/-- What breaks the program off. -/
inductive ProgramFault where
  | options (fault : OptionsFault)
  | metadata (fault : MetadataFault)
  | scan (fault : ScanFault)
  | document (fault : DocumentFault)
  | sample (fault : SampleFault)
  | mock (fault : MockFault)
  | output (fault : UnreportedFault)
  | print (fault : PrintFault)
deriving Inhabited

/-- How the program ends before its work is done. -/
inductive Stop where
  /-- It shows a help page. -/
  | help (page : String)
  | usage (fault : UsageFault)
  /-- It reports that it cannot do its work. -/
  | failed (message : String)
  | broken (fault : ProgramFault)
deriving Inhabited

/-- A part of the program's work. -/
abbrev Running := ExceptT Stop (StateM Session)

namespace Running

/-- Prints a line. -/
def say (text : String) : Running Unit :=
  modify fun s => { s with transcript := s.transcript ++ [.said text] }

/-- Does logged work and prints its messages. -/
def logged {ε α : Type} (stop : ε → Stop) (work : Logged ε α) : Running α := fun s =>
  let (result, log) := work.runFrom []
  let shown := log.filter fun e => s.threshold.weight ≤ e.level.weight
  (result.mapError stop, { s with transcript := s.transcript ++ shown.map .logged })

/-- Reads arguments. -/
def reading {α : Type} (page : String) : Except UsageFault (Asked α) → Running α
  | .ok (.order a) => return a
  | .ok .help => throw (.help page)
  | .error fault => throw (.usage fault)

end Running

/-- The level from which messages are printed. -/
def thresholdOf : Nat → Level
  | 0 => .warning
  | 1 => .info
  | _ => .debug

end RouteAtlas.CommandLine
