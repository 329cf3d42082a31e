import RouteAtlas.Document.Value
import RouteAtlas.Text.Cut

/-!
# Reading arguments

A command declares its options and the names of its positional arguments. `Command.read` sorts
arguments accordingly: options count wherever they stand, or only before the first positional argument
where a command has commands of its own; everything after `--` is positional.
-/

namespace RouteAtlas.CommandLine

open RouteAtlas.Document RouteAtlas.Text

/-- What an option does with its occurrences. -/
inductive OptionKind where
  /-- The last text given with it counts; help shows this name for the text. -/
  | text (shown : String)
  /-- Its occurrences are counted. -/
  | count
  /-- It asks for help. -/
  | help
deriving Repr, DecidableEq, Inhabited

/-- The option is followed by a text. -/
def OptionKind.takesText : OptionKind → Bool
  | .text _ => true
  | _ => false

/-- An option of a command. -/
structure OptionDecl where
  key : String
  /-- Its spellings: one hyphen and one character, or two hyphens and a word. -/
  spellings : List String
  kind : OptionKind
  /-- What it is for. -/
  purpose : String
deriving Repr, DecidableEq, Inhabited

/-- The option that every command has. -/
def helpOption : OptionDecl := ⟨"help", ["--help"], .help, "Show this message and exit."⟩

/-- A command: its name, what it does, and what it takes. -/
structure CommandDecl where
  name : String
  purpose : String
  options : List OptionDecl := []
  /-- The names of the positional arguments; each is required. -/
  positional : List String := []
  /-- Options stop at the first positional argument. -/
  ordered : Bool := false
deriving Repr, DecidableEq, Inhabited

/-- All options of a command. -/
def CommandDecl.allOptions (d : CommandDecl) : List OptionDecl := d.options ++ [helpOption]

/-- Why arguments cannot be read. -/
inductive UsageFault where
  | noArguments
  | unknownOption (spelling : String)
  | missingText (key : String)
  | unwantedText (key : String)
  | missingArgument (name : String)
  | extraArguments (arguments : List String)
  | noCommand
  | unknownCommand (name : String)
  /-- The text of an option is no integer. -/
  | notInteger (key text : String)
  /-- The text of an option is none of those it can have. -/
  | notListed (key text : String)
deriving Repr, DecidableEq, Inhabited

/-- The wording of a usage fault. -/
def UsageFault.message : UsageFault → String
  | .noArguments => "Missing command."
  | .unknownOption spelling => s!"No such option: {spelling}"
  | .missingText key => s!"Option '{key}' requires an argument."
  | .unwantedText key => s!"Option '{key}' does not take a value."
  | .missingArgument name => s!"Missing argument '{name}'."
  | .extraArguments arguments =>
    "Got unexpected extra arguments (" ++ " ".intercalate arguments ++ ")"
  | .noCommand => "Missing command."
  | .unknownCommand name => s!"No such command '{name}'."
  | .notInteger key text => s!"Invalid value for '{key}': '{text}' is not a valid integer."
  | .notListed key text => s!"Invalid value for '{key}': '{text}' is not one of the choices."

/-- What arguments say. -/
structure Given where
  texts : List (String × String) := []
  counted : List String := []
  help : Bool := false
  positional : List String := []
deriving Repr, DecidableEq, Inhabited

namespace Given

/-- The text of an option. -/
def text? (g : Given) (key : String) : Option String := field? key g.texts

/-- How often an option occurs. -/
def count (g : Given) (key : String) : Nat := g.counted.count key

/-- With an option that takes no text. -/
def withFlag (g : Given) (o : OptionDecl) : Given :=
  match o.kind with
  | .help => { g with help := true }
  | _ => { g with counted := o.key :: g.counted }

/-- With the text of an option. -/
def withText (g : Given) (o : OptionDecl) (s : String) : Given :=
  { g with texts := setField o.key s g.texts }

/-- With more positional arguments. -/
def withPositional (g : Given) (arguments : List String) : Given :=
  { g with positional := g.positional ++ arguments }

end Given

/-- What one argument says, and the option that still waits for its text. -/
abbrev OptionStep := Except UsageFault (Given × Option OptionDecl)

/-- The argument is an option. -/
def isOption (argument : String) : Bool := beginsWith argument "-" && argument != "-"

namespace CommandDecl

/-- The option of a spelling. -/
def option? (d : CommandDecl) (spelling : String) : Option OptionDecl :=
  d.allOptions.find? (·.spellings.contains spelling)

/-- Reads options of one character each that share a hyphen; the first that takes a text takes the
rest. -/
def readShort (d : CommandDecl) : List Char → Given → OptionStep
  | [], g => .ok (g, none)
  | c :: r, g =>
    let spelling := String.ofList ['-', c]
    match d.option? spelling with
    | none => .error (.unknownOption spelling)
    | some o =>
      if !o.kind.takesText then d.readShort r (g.withFlag o)
      else if r.isEmpty then .ok (g, some o)
      else .ok (g.withText o (String.ofList r), none)

/-- A spelling and the text after an equals sign, if there is one. -/
def attachedText (argument : String) : String × Option String :=
  let (name, r) := argument.toList.span (· != '=')
  (String.ofList name, r.tail?.map String.ofList)

/-- Reads an option that is spelt as a word. -/
def readLong (o : OptionDecl) (attached : Option String) (g : Given) : OptionStep :=
  match o.kind.takesText, attached with
  | true, some s => .ok (g.withText o s, none)
  | true, none => .ok (g, some o)
  | false, some _ => .error (.unwantedText o.key)
  | false, none => .ok (g.withFlag o, none)

/-- Reads an argument that is an option. -/
def readOption (d : CommandDecl) (argument : String) (g : Given) : OptionStep :=
  let (spelling, attached) := attachedText argument
  match beginsWith argument "--", d.option? spelling with
  | true, some o => readLong o attached g
  | true, none => .error (.unknownOption spelling)
  | false, _ => d.readShort (argument.toList.drop 1) g

/-- Sorts arguments into options and positional ones, where an option may wait for its text. -/
def sort (d : CommandDecl) : Option OptionDecl → List String → Given → Except UsageFault Given
  | none, [], g => .ok g
  | some o, [], _ => .error (.missingText o.key)
  | some o, s :: rest, g => d.sort none rest (g.withText o s)
  | none, argument :: rest, g =>
    if argument == "--" then .ok (g.withPositional rest)
    else if isOption argument then
      match d.readOption argument g with
      | .error fault => .error fault
      | .ok (g, waiting) => d.sort waiting rest g
    else if d.ordered then .ok (g.withPositional (argument :: rest))
    else d.sort none rest (g.withPositional [argument])

/-- What arguments say to a command. -/
def read (d : CommandDecl) (arguments : List String) : Except UsageFault Given :=
  d.sort none arguments {}

end CommandDecl

end RouteAtlas.CommandLine
