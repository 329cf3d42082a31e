import RouteAtlas.CommandLine.Command

/-!
# Help pages

What the program prints when asked for help: how it is called, what it does, and two columns for its
options and commands.
-/

namespace RouteAtlas.CommandLine

open RouteAtlas.Text

/-- Rows of two columns, each two blanks deep; the second column stands two blanks after the widest
entry of the first. -/
def columns (rows : List (String × String)) : List String :=
  let width := (rows.map (·.1.length)).foldl max 0 + 2
  rows.map fun (a, b) => "  " ++ (a ++ String.ofList (List.replicate (width - a.length) ' ')) ++ b

/-- How an option is written. -/
def OptionDecl.shown (o : OptionDecl) : String :=
  let spellings := ", ".intercalate o.spellings
  match o.kind with
  | .text shown => s!"{spellings} {shown}"
  | _ => spellings

/-- The first sentence of a text, or all of it. -/
def firstSentence (s : String) : String :=
  let words := splitAt ' ' s
  " ".intercalate (words.take ((words.takeWhile (!endsIn · ".")).length + 1))

/-- The help page of a command that is called by these words, with the commands below it. -/
def CommandDecl.helpPage (d : CommandDecl) (call : List String) (below : List CommandDecl) :
    String :=
  let arguments := d.positional ++ if below.isEmpty then [] else ["COMMAND", "[ARGS]..."]
  let usage := " ".intercalate ("Usage:" :: call ++ "[OPTIONS]" :: arguments)
  let options := "Options:" :: columns (d.allOptions.map fun o => (o.shown, o.purpose))
  let commands := if below.isEmpty then [] else
    ["", "Commands:"] ++ columns (below.map fun c => (c.name, firstSentence c.purpose))
  "\n".intercalate ([usage, "", s!"  {d.purpose}", ""] ++ options ++ commands)

/-- The help page of the program. -/
def programHelp : String := programDecl.helpPage [programDecl.name] (CommandName.all.map (·.decl))

/-- The help page of a command. -/
def CommandName.help (c : CommandName) : String :=
  c.decl.helpPage [programDecl.name, c.decl.name] []

end RouteAtlas.CommandLine
