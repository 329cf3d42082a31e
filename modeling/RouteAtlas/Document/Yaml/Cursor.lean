/-!
# A place in a YAML text

The characters that are still to be read, with the index, line and column of the first of them. Only
`Cursor.advance` moves on, so the three always agree.
-/

namespace RouteAtlas.Document.Yaml

/-- A place in a text. -/
structure Cursor where
  rest : List Char
  index : Nat := 0
  line : Nat := 0
  column : Nat := 0
deriving Repr, Inhabited

/-- The character breaks a line. -/
def isLineBreak (c : Char) : Bool :=
  c == '\n' || c == '\r' || c == '\u0085' || c == '\u2028' || c == '\u2029'

/-- The character separates tokens. -/
def isSeparator (c : Char) : Bool := c == ' ' || c == '\t' || isLineBreak c

/-- The text ends here, or the character is in the class. -/
def endsOr (p : Char → Bool) (c : Option Char) : Bool := c.all p

/-- A blank other than a tab, a line break, or the end. -/
def endsPlainly (c : Option Char) : Bool := endsOr (fun c => c == ' ' || isLineBreak c) c

namespace Cursor

/-- The character a distance ahead. -/
def peek? (c : Cursor) (n : Nat) : Option Char := c.rest[n]?

/-- The next character. -/
def next? (c : Cursor) : Option Char := c.rest.head?

/-- The next character is this one. -/
def isAt (c : Cursor) (d : Char) : Bool := c.rest.head? == some d

/-- The next character is in the class. -/
def isIn (c : Cursor) (p : Char → Bool) : Bool := c.rest.head?.any p

/-- One character further. A byte order mark takes no column. -/
def advance (c : Cursor) : Cursor :=
  match c.rest with
  | [] => c
  | d :: r =>
    if isLineBreak d && !(d == '\r' && r.head? == some '\n') then ⟨r, c.index + 1, c.line + 1, 0⟩
    else ⟨r, c.index + 1, c.line, if d == '\ufeff' then c.column else c.column + 1⟩

/-- Some characters further. -/
def skip (c : Cursor) : Nat → Cursor
  | 0 => c
  | n + 1 => c.advance.skip n

/-- The run of characters in a class, and the place after it. -/
def span (c : Cursor) (p : Char → Bool) : List Char × Cursor :=
  let run := c.rest.takeWhile p
  (run, c.skip run.length)

/-- The place after a run of characters in a class. -/
def skipWhile (c : Cursor) (p : Char → Bool) : Cursor := (c.span p).2

/-- The place after the blanks here. -/
def skipBlanks (c : Cursor) : Cursor := c.skipWhile (· == ' ')

/-- The place at the end of the line. -/
def skipLine (c : Cursor) : Cursor := c.skipWhile (!isLineBreak ·)

/-- The line break here, made plain, and the place after it. -/
def lineBreak? (c : Cursor) : Option (Char × Cursor) :=
  match c.rest with
  | '\r' :: '\n' :: _ => some ('\n', c.skip 2)
  | d :: _ =>
    if d == '\u2028' || d == '\u2029' then some (d, c.advance)
    else if isLineBreak d then some ('\n', c.advance)
    else none
  | [] => none

/-- Three equal characters stand here, apart from what follows. -/
def isMark (c : Cursor) (d : Char) : Bool :=
  c.rest.take 3 == [d, d, d] && endsOr isSeparator (c.peek? 3)

/-- A line that begins or ends a document stands here. -/
def isDocumentMark (c : Cursor) : Bool := c.isMark '-' || c.isMark '.'

end Cursor

end RouteAtlas.Document.Yaml
