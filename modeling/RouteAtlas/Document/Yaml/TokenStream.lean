import RouteAtlas.Document.Yaml.ScalarText
import RouteAtlas.Text.SurrogateText

/-!
# From YAML text to tokens

`Token.scan` cuts a text into tokens. Indentation opens and closes blocks. Whatever may turn out to be
the key of a mapping is remembered until a colon follows it on its line, and then marked as a key where
it began.
-/

namespace RouteAtlas.Document.Yaml

open RouteAtlas.Text

/-- Something that may turn out to be a key. -/
structure PossibleKey where
  /-- How deep in brackets it stands. -/
  depth : Nat
  /-- The number of the token it begins with. -/
  position : Nat
  /-- Nothing but a key can stand here. -/
  isRequired : Bool
  index : Nat
  line : Nat
  column : Nat
deriving Repr, DecidableEq, Inhabited

/-- The state of scanning. -/
structure TokenScan where
  cursor : Cursor
  tokens : Array Token := #[]
  /-- The column of the innermost open block; `-1` outside all blocks. -/
  indent : Int := -1
  outerIndents : List Int := []
  /-- How many brackets are open. -/
  depth : Nat := 0
  keyAllowed : Bool := true
  possibleKeys : List PossibleKey := []
deriving Inhabited

namespace TokenScan

/-- The same state elsewhere in the text. -/
def moveTo (s : TokenScan) (c : Cursor) : TokenScan := { s with cursor := c }

/-- Adds a token. -/
def push (s : TokenScan) (t : Token) : TokenScan := { s with tokens := s.tokens.push t }

/-- Says whether a key may begin at the next token. -/
def allowKey (s : TokenScan) (b : Bool) : TokenScan := { s with keyAllowed := b }

/-- Closes the blocks that are indented further than a column; brackets ignore indentation. -/
def closeBlocks (s : TokenScan) (column : Int) : List Int → TokenScan
  | [] => { s with outerIndents := [] }
  | outer :: more =>
    if s.depth = 0 ∧ column < s.indent then
      closeBlocks { s.push .blockEnd with indent := outer } column more
    else { s with outerIndents := outer :: more }

/-- Closes the blocks that are indented further than a column. -/
def unwind (s : TokenScan) (column : Int) : TokenScan := s.closeBlocks column s.outerIndents

/-- Opens a block at a column if it is indented further than the innermost one. -/
def indentTo (s : TokenScan) (column : Nat) : Option TokenScan :=
  if s.indent < column then
    some { s with indent := column, outerIndents := s.indent :: s.outerIndents }
  else none

/-- Opens a block with its token at a column if it is indented further than the innermost one. -/
def openBlock (s : TokenScan) (column : Nat) (t : Token) : TokenScan :=
  match s.indentTo column with
  | some s => s.push t
  | none => s

/-- A possible key can no longer be one: its line has ended, or it is too long. -/
def isStale (s : TokenScan) (k : PossibleKey) : Bool :=
  k.line != s.cursor.line || 1024 < s.cursor.index - k.index

/-- Forgets the possible keys that can no longer be keys. -/
def dropStaleKeys (s : TokenScan) : Scanned TokenScan := do
  let (stale, live) := s.possibleKeys.partition s.isStale
  expectThat (!stale.any (·.isRequired))
  return { s with possibleKeys := live }

/-- Forgets the possible key inside the innermost brackets. -/
def dropKey (s : TokenScan) : Scanned TokenScan := do
  let (here, others) := s.possibleKeys.partition (·.depth == s.depth)
  expectThat (!here.any (·.isRequired))
  return { s with possibleKeys := others }

/-- Remembers that the next token may begin a key. -/
def rememberKey (s : TokenScan) : Scanned TokenScan := do
  if !s.keyAllowed then return s
  else
    let s ← s.dropKey
    let c := s.cursor
    let k : PossibleKey := {
      depth := s.depth, position := s.tokens.size
      isRequired := s.depth == 0 && s.indent == c.column
      index := c.index, line := c.line, column := c.column }
    return { s with possibleKeys := k :: s.possibleKeys }

/-- Blanks, comments and line ends before the next token. -/
def skipToToken (fuel : Nat) (s : TokenScan) : TokenScan :=
  match fuel with
  | 0 => s
  | fuel + 1 =>
    let c := s.cursor.skipBlanks
    let c := if c.isAt '#' then c.skipLine else c
    match c.lineBreak? with
    | none => s.moveTo c
    | some (_, c) =>
      let s := s.moveTo c
      (if s.depth = 0 then s.allowKey true else s).skipToToken fuel

/-- A byte order mark at the very start. -/
def skipOrderMark (c : Cursor) : Cursor := if c.index = 0 ∧ c.isAt '\ufeff' then c.advance else c

/-! ## The tokens -/

/-- The end of the text. -/
def atEnd (s : TokenScan) : Scanned TokenScan := do
  let s ← (s.unwind (-1)).dropKey
  return s.push .streamEnd

/-- A directive. -/
def atDirective (s : TokenScan) : Scanned TokenScan := do
  let s ← (s.unwind (-1)).dropKey
  let (t, c) ← scanDirective s.cursor
  return ((s.allowKey false).push t).moveTo c

/-- A line that begins or ends a document. -/
def atDocumentMark (s : TokenScan) (t : Token) : Scanned TokenScan := do
  let s ← (s.unwind (-1)).dropKey
  return ((s.allowKey false).push t).moveTo (s.cursor.skip 3)

/-- An opening bracket. -/
def atOpening (s : TokenScan) (t : Token) : Scanned TokenScan := do
  let s ← s.rememberKey
  return { (s.push t).moveTo s.cursor.advance with depth := s.depth + 1, keyAllowed := true }

/-- A closing bracket. -/
def atClosing (s : TokenScan) (t : Token) : Scanned TokenScan := do
  expectThat (0 < s.depth)
  let s ← s.dropKey
  return { (s.push t).moveTo s.cursor.advance with depth := s.depth - 1, keyAllowed := false }

/-- A comma inside brackets. -/
def atComma (s : TokenScan) : Scanned TokenScan := do
  let s ← (s.allowKey true).dropKey
  return (s.push .flowEntry).moveTo s.cursor.advance

/-- A dash. -/
def atDash (s : TokenScan) : Scanned TokenScan := do
  let s ← if s.depth = 0 then do
      expectThat s.keyAllowed
      pure (s.openBlock s.cursor.column .blockSequence)
    else pure s
  let s ← (s.allowKey true).dropKey
  return (s.push .blockEntry).moveTo s.cursor.advance

/-- A question mark before a key. -/
def atKey (s : TokenScan) : Scanned TokenScan := do
  let s ← if s.depth = 0 then do
      expectThat s.keyAllowed
      pure (s.openBlock s.cursor.column .blockMapping)
    else pure s
  let s ← (s.allowKey (s.depth == 0)).dropKey
  return (s.push .key).moveTo s.cursor.advance

/-- Marks a possible key as a key, where it began. -/
def confirmKey (s : TokenScan) (k : PossibleKey) : TokenScan :=
  let s := { s with tokens := s.tokens.insertIdxIfInBounds k.position .key }
  if s.depth = 0 then
    match s.indentTo k.column with
    | some s => { s with tokens := s.tokens.insertIdxIfInBounds k.position .blockMapping }
    | none => s
  else s

/-- A colon after a key. -/
def atColon (s : TokenScan) : Scanned TokenScan := do
  let s ← match s.possibleKeys.find? (·.depth == s.depth) with
    | some k =>
      let s := { s with possibleKeys := s.possibleKeys.filter (·.depth != s.depth) }
      pure ((s.confirmKey k).allowKey false)
    | none => do
      let s ← if s.depth = 0 then do
          expectThat s.keyAllowed
          pure (s.openBlock s.cursor.column .blockMapping)
        else pure s
      (s.allowKey (s.depth == 0)).dropKey
  return (s.push .value).moveTo s.cursor.advance

/-- A token that may be a key or begin one. -/
def atContent (s : TokenScan) (scan : Cursor → Scanned (Token × Cursor)) : Scanned TokenScan := do
  let s ← s.rememberKey
  let (t, c) ← scan s.cursor
  return ((s.allowKey false).push t).moveTo c

/-- A block scalar. -/
def atBlockScalar (s : TokenScan) (isFolded : Bool) : Scanned TokenScan := do
  let s ← (s.allowKey true).dropKey
  let (text, c) ← scanBlock isFolded s.indent s.cursor
  return (s.push (.scalar (codePoints text) false)).moveTo c

/-- A plain scalar; a key may follow it on a new line. -/
def atPlain (s : TokenScan) : Scanned TokenScan := do
  let s ← s.rememberKey
  let (text, c, broken) := scanPlain (s.depth != 0) (s.indent + 1) s.cursor
  return ((s.allowKey broken).push (.scalar (codePoints text) true)).moveTo c

/-- The characters that cannot begin a plain scalar. -/
def indicators : List Char := "-?:,[]\x7b\x7d#&*!|>'\"%@\x60".toList

/-- A plain scalar begins here. -/
def startsPlain (s : TokenScan) (d : Char) : Bool :=
  !(isSeparator d || indicators.contains d) ||
    (!endsOr isSeparator (s.cursor.peek? 1) && (d == '-' || (s.depth == 0 && (d == '?' || d == ':'))))

/-- Scans the token that begins here. -/
def scanToken (s : TokenScan) (d : Char) : Scanned TokenScan :=
  let c := s.cursor
  let spaced := endsOr isSeparator (c.peek? 1)
  let inFlow := s.depth != 0
  if d == '%' && c.column == 0 then s.atDirective
  else if c.column == 0 && c.isMark '-' then s.atDocumentMark .documentStart
  else if c.column == 0 && c.isMark '.' then s.atDocumentMark .documentEnd
  else if d == '[' then s.atOpening .flowSequence
  else if d == '\x7b' then s.atOpening .flowMapping
  else if d == ']' then s.atClosing .flowSequenceEnd
  else if d == '\x7d' then s.atClosing .flowMappingEnd
  else if d == ',' then s.atComma
  else if d == '-' && spaced then s.atDash
  else if d == '?' && (inFlow || spaced) then s.atKey
  else if d == ':' && (inFlow || spaced) then s.atColon
  else if d == '*' then s.atContent fun c => do
    let (name, c) ← scanAnchor c
    return (.alias name, c)
  else if d == '&' then s.atContent fun c => do
    let (name, c) ← scanAnchor c
    return (.anchor name, c)
  else if d == '!' then s.atContent scanTag
  else if d == '|' && !inFlow then s.atBlockScalar false
  else if d == '>' && !inFlow then s.atBlockScalar true
  else if d == '\'' || d == '"' then s.atContent fun c => do
    let (codes, c) ← scanQuoted (d == '"') c
    return (.scalar codes false, c)
  else if s.startsPlain d then s.atPlain
  else .error .malformed

/-- Scans tokens up to the end of the text; every token takes at least one character. -/
def scanFrom (fuel : Nat) (s : TokenScan) : Scanned (Array Token) :=
  match fuel with
  | 0 => .error .malformed
  | fuel + 1 => do
    let s ← (s.skipToToken (s.cursor.rest.length + 1)).dropStaleKeys
    let s := s.unwind s.cursor.column
    match s.cursor.next? with
    | none => return (← s.atEnd).tokens
    | some d => (← s.scanToken d).scanFrom fuel

end TokenScan

/-- A character that may stand in a YAML text. -/
def isYamlChar (c : Char) : Bool :=
  let n := c.toNat
  n == 9 || n == 10 || n == 13 || (0x20 ≤ n && n ≤ 0x7e) || n == 0x85 ||
    (0xa0 ≤ n && n ≤ 0xfffd) || 0x10000 ≤ n

/-- The tokens of a text. -/
def Token.scan (s : String) : Scanned (List Token) := do
  let cs := s.toList
  expectThat (cs.all isYamlChar)
  let c := TokenScan.skipOrderMark ⟨cs, 0, 0, 0⟩
  return (← TokenScan.scanFrom (cs.length + 2) { cursor := c }).toList

end RouteAtlas.Document.Yaml
