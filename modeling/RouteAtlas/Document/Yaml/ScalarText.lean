import RouteAtlas.Document.Yaml.Token

/-!
# The text of YAML scalars

Scanning plain, quoted and block scalars. Lines of a plain or quoted scalar are folded: a single break
becomes a blank and of several breaks the first is dropped. Block scalars keep their breaks or fold
them, and keep, clip or strip those at their end.
-/

namespace RouteAtlas.Document.Yaml

open RouteAtlas.Text

/-- What a folded break leaves: the break itself if it is no line feed, a blank if no empty lines
follow, and the empty lines. -/
def foldedBreak (first : Char) (more : List Char) : List Char :=
  (if first != '\n' then [first] else if more.isEmpty then [' '] else []) ++ more

/-! ## Plain scalars -/

/-- Characters that end a plain scalar inside brackets. -/
def isFlowMark (c : Char) : Bool := ",[]\x7b\x7d".toList.contains c

/-- A plain run up to the next separator or indicator. -/
def plainRun (inFlow : Bool) : List Char → List Char
  | [] => []
  | c :: r =>
    if isSeparator c || (c == ':' && endsOr (fun d => isSeparator d || (inFlow && isFlowMark d)) r.head?)
        || (inFlow && (isFlowMark c || c == '?')) then []
    else c :: plainRun inFlow r

/-- The breaks and blanks between two lines of a plain scalar, or nothing at a document mark. -/
def plainBreaks (fuel : Nat) (c : Cursor) : Option (List Char) × Cursor :=
  match fuel with
  | 0 => (some [], c)
  | fuel + 1 =>
    if c.isDocumentMark then (none, c)
    else
      let c := c.skipBlanks
      match c.lineBreak? with
      | none => (some [], c)
      | some (b, c) =>
        let (more, c) := plainBreaks fuel c
        (more.map (b :: ·), c)

/-- What stands between two runs of a plain scalar. The last part of the result says whether a line
was broken. -/
def plainGap (c : Cursor) : List Char × Cursor × Bool :=
  let (blanks, c) := c.span (· == ' ')
  match c.lineBreak? with
  | none => (blanks, c, false)
  | some (b, c) =>
    match plainBreaks (c.rest.length + 1) c with
    | (none, c) => ([], c, true)
    | (some more, c) => (foldedBreak b more, c, true)

/-- A plain scalar from its first run on: its text, the place after it, and whether the gap after it
broke a line. -/
def scanPlainFrom (fuel : Nat) (inFlow : Bool) (indent : Int) (c : Cursor) (broken : Bool) :
    List Char × Cursor × Bool :=
  match fuel with
  | 0 => ([], c, broken)
  | fuel + 1 =>
    let run := if c.isAt '#' then [] else plainRun inFlow c.rest
    if run.isEmpty then ([], c, broken)
    else
      let (gap, c, broken) := plainGap (c.skip run.length)
      if gap.isEmpty || c.isAt '#' || (!inFlow && c.column < indent) then (run, c, broken)
      else
        let (more, c, broken) := scanPlainFrom fuel inFlow indent c broken
        (run ++ (if more.isEmpty then [] else gap ++ more), c, broken)

/-- A plain scalar. -/
def scanPlain (inFlow : Bool) (indent : Int) (c : Cursor) : String × Cursor × Bool :=
  let (cs, c, broken) := scanPlainFrom (c.rest.length + 1) inFlow indent c false
  (String.ofList cs, c, broken)

/-! ## Quoted scalars -/

/-- Escapes of one character. -/
def escapes : List (Char × Char) :=
  [('0', '\x00'), ('a', '\x07'), ('b', '\x08'), ('t', '\t'), ('\t', '\t'), ('n', '\n'),
    ('v', '\x0b'), ('f', '\x0c'), ('r', '\r'), ('e', '\x1b'), (' ', ' '), ('"', '"'), ('\\', '\\'),
    ('/', '/'), ('N', '\u0085'), ('_', '\u00a0'), ('L', '\u2028'), ('P', '\u2029')]

/-- How many digits follow the mark of a hexadecimal escape. -/
def escapeWidth? (c : Char) : Option Nat :=
  if c == 'x' then some 2 else if c == 'u' then some 4 else if c == 'U' then some 8 else none

/-- The breaks and blanks between two lines of a quoted scalar. -/
def quotedBreaks (fuel : Nat) (c : Cursor) : Scanned (List Char × Cursor) :=
  match fuel with
  | 0 => .ok ([], c)
  | fuel + 1 =>
    if c.isDocumentMark then .error .malformed
    else
      let c := c.skipWhile fun d => d == ' ' || d == '\t'
      match c.lineBreak? with
      | none => .ok ([], c)
      | some (b, c) => do
        let (more, c) ← quotedBreaks fuel c
        return (b :: more, c)

/-- What stands between two runs of a quoted scalar. -/
def quotedGap (c : Cursor) : Scanned (List Char × Cursor) := do
  let (blanks, c) := c.span fun d => d == ' ' || d == '\t'
  expectThat c.next?.isSome
  match c.lineBreak? with
  | none => return (blanks, c)
  | some (b, c) =>
    let (more, c) ← quotedBreaks (c.rest.length + 1) c
    return (foldedBreak b more, c)

/-- An escape after its backslash: the code points it stands for. -/
def scanEscape (c : Cursor) : Scanned (List Nat × Cursor) :=
  match c.lineBreak? with
  | some (_, c) => (quotedBreaks (c.rest.length + 1) c).map fun (cs, c) => (cs.map Char.toNat, c)
  | none =>
    match c.next? with
    | none => .error .malformed
    | some d =>
      match escapes.find? (·.1 == d), escapeWidth? d with
      | some (_, e), _ => .ok ([e.toNat], c.advance)
      | none, some width =>
        let ds := c.advance.rest.take width
        match ofDigits? 16 ds with
        | none => .error .malformed
        | some n =>
          if ds.length < width then .error .malformed
          else if 0x110000 ≤ n then .error (.noCharacter n)
          else .ok ([n], c.advance.skip width)
      | none, none => .error .malformed

/-- A quoted scalar after its opening quote. -/
def scanQuotedFrom (fuel : Nat) (isDouble : Bool) (c : Cursor) : Scanned (List Nat × Cursor) :=
  match fuel with
  | 0 => .error .malformed
  | fuel + 1 => do
    let (run, c) := c.span fun d => !(d == '\'' || d == '"' || d == '\\' || isSeparator d)
    let (part, c, isLast) ← match c.rest with
      | [] => do
        let (gap, c) ← quotedGap c
        pure (gap.map Char.toNat, c, false)
      | d :: r =>
        if !isDouble && d == '\'' then
          if r.head? == some '\'' then pure (['\''.toNat], c.skip 2, false)
          else pure ([], c.advance, true)
        else if isDouble && d == '"' then pure ([], c.advance, true)
        else if isDouble && d == '\\' then do
          let (codes, c) ← scanEscape c.advance
          pure (codes, c, false)
        else if isSeparator d then do
          let (gap, c) ← quotedGap c
          pure (gap.map Char.toNat, c, false)
        else pure ([d.toNat], c.advance, false)
    if isLast then return (run.map Char.toNat ++ part, c)
    else
      let (more, c) ← scanQuotedFrom fuel isDouble c
      return (run.map Char.toNat ++ part ++ more, c)

/-- A quoted scalar. -/
def scanQuoted (isDouble : Bool) (c : Cursor) : Scanned (List Nat × Cursor) :=
  scanQuotedFrom (c.rest.length + 2) isDouble c.advance

/-! ## Block scalars -/

/-- What happens to the breaks at the end of a block scalar. -/
inductive Chomping where
  | clip
  | keep
  | strip
deriving Repr, DecidableEq, Inhabited

/-- The chomping that a mark stands for. -/
def Chomping.ofChar? (c : Char) : Option Chomping :=
  if c == '+' then some .keep else if c == '-' then some .strip else none

/-- A digit that gives an indentation. -/
def scanIncrement (c : Cursor) : Scanned (Option Nat × Cursor) :=
  match c.next?.bind (digit? 10) with
  | none => .ok (none, c)
  | some 0 => .error .malformed
  | some n => .ok (some n, c.advance)

/-- The header of a block scalar: chomping and indentation in either order. -/
def scanBlockHeader (c : Cursor) : Scanned (Chomping × Option Nat × Cursor) := do
  let (chomping, increment, c) ← match c.next?.bind Chomping.ofChar? with
    | some chomping => do
      let (increment, c) ← scanIncrement c.advance
      pure (chomping, increment, c)
    | none => do
      let (increment, c) ← scanIncrement c
      match increment, c.next?.bind Chomping.ofChar? with
      | some n, some chomping => pure (chomping, some n, c.advance)
      | increment, _ => pure (.clip, increment, c)
  expectThat (endsPlainly c.next?)
  return (chomping, increment, c)

/-- Blanks up to a column. -/
def skipToColumn (indent : Nat) (c : Cursor) : Cursor :=
  c.skip (min ((c.rest.takeWhile (· == ' ')).length) (indent - c.column))

/-- Empty lines of a block scalar. -/
def blockBreaks (fuel indent : Nat) (c : Cursor) : List Char × Cursor :=
  match fuel with
  | 0 => ([], c)
  | fuel + 1 =>
    let c := skipToColumn indent c
    match c.lineBreak? with
    | none => ([], c)
    | some (b, c) =>
      let (more, c) := blockBreaks fuel indent c
      (b :: more, c)

/-- Empty lines before a block scalar whose indentation is not given, and the widest of them. -/
def leadingBreaks (fuel : Nat) (c : Cursor) (widest : Nat) : List Char × Nat × Cursor :=
  match fuel with
  | 0 => ([], widest, c)
  | fuel + 1 =>
    let c := c.skipBlanks
    let widest := max widest c.column
    match c.lineBreak? with
    | none => ([], widest, c)
    | some (b, c) =>
      let (more, widest, c) := leadingBreaks fuel c widest
      (b :: more, widest, c)

/-- A break between two lines of a block scalar. -/
def joinedBreak (isFolded : Bool) (line : List Char) (b : List Char) (breaks : List Char)
    (next : Option Char) : List Char :=
  let isBlankStart (c : Option Char) : Bool := c == some ' ' || c == some '\t'
  if isFolded && b == ['\n'] && !isBlankStart line.head? && !isBlankStart next then
    if breaks.isEmpty then [' '] else []
  else b

/-- The lines of a block scalar after the empty lines `breaks`: the text, the break after its last
line, the empty lines after that, and the place. -/
def scanBlockLines (fuel : Nat) (isFolded : Bool) (indent : Nat) (breaks : List Char) (c : Cursor) :
    List Char × List Char × List Char × Cursor :=
  match fuel with
  | 0 => ([], [], breaks, c)
  | fuel + 1 =>
    if c.column != indent || c.rest.isEmpty then ([], [], breaks, c)
    else
      let (line, c) := c.span (!isLineBreak ·)
      let (b, c) := match c.lineBreak? with
        | some (b, c) => ([b], c)
        | none => ([], c)
      let (after, c) := blockBreaks (c.rest.length + 1) indent c
      if c.column != indent || c.rest.isEmpty then (breaks ++ line, b, after, c)
      else
        let (more, last, final, c') := scanBlockLines fuel isFolded indent after c
        (breaks ++ line ++ joinedBreak isFolded line b after c.next? ++ more, last, final, c')

/-- A block scalar at the indentation of the block around it. -/
def scanBlock (isFolded : Bool) (outer : Int) (c : Cursor) : Scanned (String × Cursor) := do
  let (chomping, increment, c) ← scanBlockHeader c.advance
  let c ← scanLineEnd c
  let least := (max (outer + 1) 1).toNat
  let (breaks, indent, c) := match increment with
    | none =>
      let (breaks, widest, c) := leadingBreaks (c.rest.length + 1) c 0
      (breaks, max least widest, c)
    | some n =>
      let indent := least + n - 1
      let (breaks, c) := blockBreaks (c.rest.length + 1) indent c
      (breaks, indent, c)
  let (text, last, final, c) := scanBlockLines (c.rest.length + 1) isFolded indent breaks c
  let kept := if chomping == .strip then [] else last
  let kept := if chomping == .keep then kept ++ final else kept
  return (String.ofList (text ++ kept), c)

end RouteAtlas.Document.Yaml
