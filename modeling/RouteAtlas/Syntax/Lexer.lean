import RouteAtlas.Syntax.Number
import RouteAtlas.Text.Compatible

/-!
# Scanning Python source into tokens

`Token.scan` splits source text into tokens. Line ends inside brackets and on blank lines do not count;
deeper and shallower lines open and close blocks, and an indentation must mean the same depth whether
a tab stands for eight columns or for one.
-/

namespace RouteAtlas.Syntax

open RouteAtlas.Text

/-- Source text with all line ends as line feeds. -/
def sourceLines : List Char → List Char
  | '\r' :: '\n' :: r => '\n' :: sourceLines r
  | '\r' :: r => '\n' :: sourceLines r
  | c :: r => c :: sourceLines r
  | [] => []

/-- The inside of a text literal up to its closing quote, collected in reverse, and the rest. A
backslash keeps the next character from closing; a line end closes nothing in a short literal and is
refused there. -/
def textBody (quote : Char) (long : Bool) (done : List Char) :
    List Char → Option (List Char × List Char)
  | [] => none
  | '\\' :: c :: r => textBody quote long (c :: '\\' :: done) r
  | c :: r =>
    if c == quote then
      if long then
        match r with
        | d :: e :: t =>
          if d == quote && e == quote then some (done.reverse, t)
          else textBody quote long (c :: done) (d :: e :: t)
        | _ => none
      else some (done.reverse, r)
    else if c == '\n' && !long then none
    else textBody quote long (c :: done) r
termination_by cs => cs.length

/-- A text literal after its mark letters. -/
def textAt (letters : List Char) (cs : List Char) : Option (TextLiteral × List Char) :=
  match cs with
  | q :: r =>
    let inside :=
      if [q, q].isPrefixOf r then textBody q true [] (r.drop 2) else textBody q false [] r
    let has (c : Char) := letters.any (·.toLower == c)
    inside.map fun (body, rest) =>
      (⟨has 'r', has 'b', has 'f', letters.head? = some 'u', body⟩, rest)
  | [] => none

/-- The mark letters a text literal may begin with, in lower case. -/
def literalMarks : List (List Char) :=
  [['b'], ['u'], ['r'], ['f'], ['b', 'r'], ['r', 'b'], ['f', 'r'], ['r', 'f']]

/-- A word at the start of a text: a keyword, a name in its compatible form, or the mark letters of a
text literal with the literal. -/
def wordAt (cs : List Char) : Option (Token × List Char) :=
  let word := cs.takeWhile couldContinueWord
  let rest := cs.drop word.length
  let quoteFollows := rest.head?.any fun c => c == '"' || c == '\''
  if quoteFollows && literalMarks.contains (word.map Char.toLower) then
    (textAt word rest).map fun (literal, rest) => (.text literal, rest)
  else
    let s := String.ofList word
    if keywords.contains s then some (.keyword s, rest)
    else if isIdentifier word then some (.name (compatibleForm s), rest)
    else none

/-- What the scanner knows between two tokens. -/
structure ScanState where
  /-- The open brackets, innermost first. -/
  brackets : List Char
  /-- The indentations of the open blocks, innermost first, with tabs of eight columns and of one. -/
  indents : List (Nat × Nat)
  /-- The next token begins a line. -/
  lineStart : Bool
deriving Repr, Inhabited

/-- The most open brackets and the most open blocks. -/
def maxBrackets : Nat := 200

/-- The most blocks inside one another. -/
def maxIndents : Nat := 100

/-- A continued line after its backslash: a line end must follow, and then more text. -/
def continuedLine : List Char → Option (List Char)
  | '\n' :: c :: r => some (c :: r)
  | _ => none

/-- The indentation of a line: columns with tabs of eight and of one, and the rest of the line. A form
feed starts over; the first backslash that stands after blanks settles the indentation. -/
def indentation (fuel : Nat) (column alternate settled : Nat) (cs : List Char) :
    Option (Nat × Nat × List Char) :=
  match fuel with
  | 0 => none
  | fuel + 1 =>
    match cs with
    | ' ' :: r => indentation fuel (column + 1) (alternate + 1) settled r
    | '\t' :: r => indentation fuel ((column / 8 + 1) * 8) (alternate + 1) settled r
    | '\x0c' :: r => indentation fuel 0 0 settled r
    | '\\' :: r =>
      match continuedLine r with
      | none => none
      | some r => indentation fuel column alternate (if settled = 0 then column else settled) r
    | r =>
      if settled = 0 then some (column, alternate, r) else some (settled, settled, r)

/-- Closes the blocks deeper than a column: the blocks left open and how many were closed. -/
def closeBlocks (column : Nat) : List (Nat × Nat) → List (Nat × Nat) × Nat
  | [] => ([], 0)
  | (c, a) :: r =>
    if column < c then
      let (open', n) := closeBlocks column r
      (open', n + 1)
    else ((c, a) :: r, 0)

/-- The tokens that a line's indentation stands for, and the blocks it leaves open. -/
def blockTokens (column alternate : Nat) (indents : List (Nat × Nat)) :
    Option (List Token × List (Nat × Nat)) :=
  let (c, a) := indents.head?.getD (0, 0)
  if column = c then (if alternate = a then some ([], indents) else none)
  else if c < column then
    if maxIndents ≤ indents.length + 1 ∨ alternate ≤ a then none
    else some ([.indent], (column, alternate) :: indents)
  else
    let (left, n) := closeBlocks column indents
    if left.head?.getD (0, 0) = (column, alternate) then some (List.replicate n .dedent, left)
    else none

/-- The opening bracket that a closing one closes. -/
def openingOf (c : Char) : Option Char :=
  if c == ')' then some '('
  else if c == ']' then some '['
  else if c == '\x7d' then some '\x7b'
  else none

/-- The brackets left open after a mark; nothing for a bracket that closes none. -/
def bracketsAfter (symbol : String) (brackets : List Char) : Option (List Char) :=
  match symbol.toList with
  | [c] =>
    if c == '(' || c == '[' || c == '\x7b' then
      if brackets.length < maxBrackets then some (c :: brackets) else none
    else match openingOf c with
      | none => some brackets
      | some o =>
        match brackets with
        | b :: r => if b == o then some r else none
        | [] => none
  | _ => some brackets

/-- Scans from a state; `done` holds the tokens so far in reverse. -/
def scanFrom (fuel : Nat) (st : ScanState) (done : List Token) (cs : List Char) :
    Option (List Token) :=
  match fuel with
  | 0 => none
  | fuel + 1 =>
    if st.lineStart then
      match indentation (cs.length + 1) 0 0 0 cs with
      | none => none
      | some (column, alternate, r) =>
        let st := { st with lineStart := false }
        match r with
        | '\n' :: r => scanFrom fuel { st with lineStart := true } done r
        | '#' :: r =>
          scanFrom fuel { st with lineStart := true } done ((r.dropWhile (· != '\n')).drop 1)
        | r =>
          if !st.brackets.isEmpty then scanFrom fuel st done r
          else match blockTokens column alternate st.indents with
            | none => none
            | some (tokens, indents) =>
              scanFrom fuel { st with indents := indents } (tokens.reverse ++ done) r
    else
      match cs with
      | [] => if st.brackets.isEmpty then some done.reverse else none
      | '\n' :: r =>
        let done := if st.brackets.isEmpty then .newline :: done else done
        scanFrom fuel { st with lineStart := true } done r
      | '#' :: r => scanFrom fuel st done (r.dropWhile (· != '\n'))
      | '\\' :: r =>
        match continuedLine r with
        | none => none
        | some r => scanFrom fuel st done r
      | c :: r =>
        if c == ' ' || c == '\t' || c == '\x0c' then scanFrom fuel st done r
        else if isAsciiDigit c || (c == '.' && r.head?.any isAsciiDigit) then
          match numberAt (c :: r) with
          | none => none
          | some (n, rest) => scanFrom fuel st (.number n :: done) rest
        else if c == '"' || c == '\'' then
          match textAt [] (c :: r) with
          | none => none
          | some (literal, rest) => scanFrom fuel st (.text literal :: done) rest
        else if couldContinueWord c then
          match wordAt (c :: r) with
          | none => none
          | some (t, rest) => scanFrom fuel st (t :: done) rest
        else
          match markAt? (c :: r) with
          | none => none
          | some (symbol, rest) =>
            match bracketsAfter symbol st.brackets with
            | none => none
            | some brackets =>
              scanFrom fuel { st with brackets := brackets } (.mark symbol :: done) rest

/-- The tokens of a source text, or nothing where it is not made of tokens. -/
def Token.scan (cs : List Char) : Option (List Token) :=
  scanFrom (2 * cs.length + 3) ⟨[], [], true⟩ [] cs

end RouteAtlas.Syntax
