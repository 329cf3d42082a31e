import RouteAtlas.Document.Value
import RouteAtlas.Text.CharClass

/-!
# Reading TOML step by step

The steps that TOML readers are made of. A step takes characters from the front of the text that is
left, or fails.
-/

namespace RouteAtlas.Document.Toml

open RouteAtlas.Text

/-- Why a text is no TOML document. -/
inductive TomlFault where
  | malformed
  /-- An integer has more digits than are read. -/
  | longInteger
deriving Repr, DecidableEq, Inhabited

/-- A step of reading. -/
abbrev Reading := StateT (List Char) (Except TomlFault)

/-- Blanks inside a line. -/
def isSpace (c : Char) : Bool := c == ' ' || c == '\t'

/-- Blanks and line ends. -/
def isSpaceOrBreak (c : Char) : Bool := isSpace c || c == '\n'

/-- A control character, which may not stand in a text; the tab may. -/
def isControl (c : Char) : Bool := (c.toNat < 32 && c != '\t') || c.toNat == 127

namespace Reading

/-- The text is no TOML document. -/
def fail {α : Type} : Reading α := throw .malformed

/-- The next character. -/
def peek : Reading (Option Char) := do return (← get).head?

/-- The text goes on with these characters. -/
def isAt (s : String) : Reading Bool := do return s.toList.isPrefixOf (← get)

/-- Passes some characters. -/
def skip (n : Nat) : Reading Unit := modify (·.drop n)

/-- Takes a run of characters in a class. -/
def span (p : Char → Bool) : Reading (List Char) := do
  let run := (← get).takeWhile p
  skip run.length
  return run

/-- Passes a run of characters in a class. -/
def skipWhile (p : Char → Bool) : Reading Unit := modify (·.dropWhile p)

/-- Passes blanks. -/
def skipSpaces : Reading Unit := skipWhile isSpace

/-- Passes these characters if they come next. -/
def accept (s : String) : Reading Bool := do
  if ← isAt s then
    skip s.length
    return true
  else return false

/-- Passes these characters, or fails. -/
def expect (s : String) : Reading Unit := do
  if !(← accept s) then fail

/-- Passes a comment, if one comes next. -/
def skipComment : Reading Unit := do
  if ← isAt "#" then
    let line ← span (· != '\n')
    if line.any isControl then fail

/-- Passes blanks, line ends and comments. -/
def skipFiller (fuel : Nat) : Reading Unit :=
  match fuel with
  | 0 => return ()
  | fuel + 1 => do
    skipWhile isSpaceOrBreak
    if ← isAt "#" then
      skipComment
      skipFiller fuel

/-- As many characters as are left, and one: a bound for what is repeated from here. -/
def left : Reading Nat := do return (← get).length + 1

end Reading

end RouteAtlas.Document.Toml
