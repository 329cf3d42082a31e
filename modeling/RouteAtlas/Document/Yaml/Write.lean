import RouteAtlas.Document.Value
import RouteAtlas.Document.Yaml.Look
import RouteAtlas.Number.FloatText

/-!
# Writing YAML

Block style with two blanks for each level, lists in maps not indented, and long scalars folded at a
blank once a line is past 80 columns. `Value.yaml` writes a document; `Value.yamlForeign?` finds what
YAML cannot hold.
-/

namespace RouteAtlas.Document.Yaml

open RouteAtlas.Text RouteAtlas.Number

/-- The text written so far and what the next token has to know of it. -/
structure Page where
  text : String
  column : Nat
  /-- The last character is a blank or line end, so a token needs none before it. -/
  spaced : Bool
  /-- Only indentation and list or key marks stand on the line. -/
  fresh : Bool
  /-- The document ends in a plain scalar and needs an end mark. -/
  openEnded : Bool
deriving Repr, Inhabited

/-- The column after which long lines are folded. -/
def foldColumn : Nat := 80

namespace Page

/-- An empty page. -/
def empty : Page := ⟨"", 0, true, true, false⟩

/-- Appends characters of one line. -/
def put (p : Page) (cs : List Char) : Page :=
  { p with text := p.text ++ String.ofList cs, column := p.column + cs.length }

/-- Ends the line, with the given line end. -/
def endLine (p : Page) (c : Char) : Page :=
  { p with text := p.text.push c, column := 0, spaced := true, fresh := true }

/-- Moves to the indentation, on a new line unless the line is still fresh. -/
def indentTo (p : Page) (indent : Nat) : Page :=
  let p :=
    if !p.fresh || p.column > indent || (p.column == indent && !p.spaced) then p.endLine '\n' else p
  if p.column < indent then
    { p.put (List.replicate (indent - p.column) ' ') with spaced := true }
  else p

/-- Writes a mark; `needsGap` asks for a blank before it, `leavesGap` says that none is needed after
it, and `keepsFresh` that the line stays fresh. -/
def mark (p : Page) (s : String) (needsGap leavesGap keepsFresh : Bool) : Page :=
  let cs := if p.spaced || !needsGap then s.toList else ' ' :: s.toList
  { p.put cs with spaced := leavesGap, fresh := p.fresh && keepsFresh, openEnded := false }

/-- A run of equal class in a text: blanks, line ends, or other characters. -/
inductive Run where
  | spaces (n : Nat)
  | breaks (cs : List Char)
  | word (cs : List Char)
deriving Repr, DecidableEq

/-- The runs of a text. -/
def runs (cs : List Char) : List Run :=
  let kind (c : Char) : Nat := if c == ' ' then 0 else if isBreak c then 1 else 2
  (cs.splitBy fun c d => kind c == kind d).map fun r =>
    match r.head? with
    | none => .word []
    | some c => match kind c with
      | 0 => .spaces r.length
      | 1 => .breaks r
      | _ => .word r

/-- Writes runs. A single blank between words becomes a fold where the line is long; `inner` tells that
a word stands before. In single quotes an apostrophe is written twice. -/
def putRuns (indent : Nat) (folds quoted inner : Bool) (p : Page) : List Run → Page
  | [] => p
  | .spaces n :: r =>
    let p :=
      if n == 1 && p.column > foldColumn && folds && inner && !r.isEmpty then
        let p := p.indentTo indent
        if quoted then p else { p with spaced := false, fresh := false }
      else p.put (List.replicate n ' ')
    putRuns indent folds quoted true p r
  | .breaks cs :: r =>
    let p := if cs.head? = some '\n' then p.endLine '\n' else p
    putRuns indent folds quoted true ((cs.foldl endLine p).indentTo indent) r
  | .word cs :: r =>
    let cs := if quoted then cs.flatMap fun c => if c == '\'' then [c, c] else [c] else cs
    putRuns indent folds quoted true (p.put cs) r

/-- Writes a plain scalar. -/
def putPlain (p : Page) (indent : Nat) (folds root : Bool) (s : String) : Page :=
  let p := { p with openEnded := p.openEnded || root }
  if s.isEmpty then p
  else
    let p := if p.spaced then p else p.put [' ']
    putRuns indent folds false false { p with spaced := false, fresh := false } (runs s.toList)

/-- Writes a single-quoted scalar. -/
def putSingle (p : Page) (indent : Nat) (folds : Bool) (s : String) : Page :=
  (putRuns indent folds true false (p.mark "'" true false false) (runs s.toList)).mark "'"
    false false false

/-- The escapes of one letter. -/
def shortEscapes : List (Nat × Char) :=
  [(0, '0'), (7, 'a'), (8, 'b'), (9, 't'), (10, 'n'), (11, 'v'), (12, 'f'), (13, 'r'), (27, 'e'),
    (34, '"'), (92, '\\'), (0x85, 'N'), (0xa0, '_'), (0x2028, 'L'), (0x2029, 'P')]

/-- The escape of a code point. -/
def escapeOf (n : Nat) : List Char :=
  let upper (w : Nat) := (hexText w n).map Char.toUpper
  match shortEscapes.find? (·.1 == n) with
  | some (_, e) => ['\\', e]
  | none =>
    if n ≤ 0xff then '\\' :: 'x' :: upper 2
    else if n ≤ 0xffff then '\\' :: 'u' :: upper 4
    else '\\' :: 'U' :: upper 8

/-- Writes the inside of double quotes, by code points; surrogates are escaped. `held` are the characters,
in reverse, that wait to be written; a line past the fold column ends in a backslash before a blank or
after an escape. -/
def putDouble (indent : Nat) (folds first : Bool) (held : List Char) (p : Page) : List Nat → Page
  | [] => p.put held.reverse
  | n :: r =>
    let c := Char.ofNat n
    let escaped := isSurrogate n || !isShownInDouble c
    let p := if escaped then (p.put held.reverse).put (escapeOf n) else p
    let held := if escaped then [] else held
    let reach := if escaped then p.column - 1 else p.column + held.length
    if !first && !r.isEmpty && (c == ' ' || escaped || held.isEmpty) && reach > foldColumn && folds
    then
      let p := ((p.put held.reverse).put ['\\']).indentTo indent
      let p := { p with spaced := false, fresh := false }
      let next := if escaped then r.head? else some n
      let p := if next = some ' '.toNat then p.put ['\\'] else p
      putDouble indent folds false (if escaped then [] else [c]) p r
    else putDouble indent folds false (if escaped then [] else c :: held) p r

/-- Writes a text in double quotes. -/
def putQuoted (p : Page) (indent : Nat) (folds : Bool) (codes : List Nat) : Page :=
  (putDouble indent folds true [] (p.mark "\"" true false false) codes).mark "\"" false false false

/-- Writes a text in the style that suits it. -/
def putText (p : Page) (indent : Nat) (root asKey : Bool) (s : String) : Page :=
  match ScalarStyle.choose asKey s with
  | .plain => p.putPlain indent (!asKey) root s
  | .single => p.putSingle indent (!asKey) s
  | .double => p.putQuoted indent (!asKey) (codePoints s)

end Page

/-- The indentation below an indentation; at the root there is none yet. -/
def deeper : Option Nat → Nat
  | none => 0
  | some n => n + 2

/-- The indentation of a scalar's folded lines. -/
def scalarIndent : Option Nat → Nat
  | none => 2
  | some n => n + 2

mutual

/-- Writes a value below an indentation; `inMap` tells that it is the value of a key. -/
def putValue (indent : Option Nat) (inMap : Bool) (p : Page) : Value → Page
  | .null => scalar "null"
  | .bool b => scalar (if b then "true" else "false")
  | .int n => scalar (toString n)
  | .float x => scalar (FloatText.yaml.write x)
  | .str s => p.putText (scalarIndent indent) indent.isNone false s
  | .surrogate t => p.putQuoted (scalarIndent indent) true t.codes
  | .moment m => scalar (m.text ' ')
  | .list [] => (p.mark "[" true true false).mark "]" false false false
  | .list (v :: r) =>
    let inner := if inMap && !p.fresh then indent.getD 0 else deeper indent
    putItems inner p (v :: r)
  | .map [] => (p.mark "\x7b" true true false).mark "\x7d" false false false
  | .map (f :: r) => putFields (deeper indent) p (f :: r)
  | .bytes _ => p
  | .foreign _ => p
where
  /-- A scalar that is not a text stands plain. -/
  scalar (s : String) : Page := p.putPlain (scalarIndent indent) true indent.isNone s

/-- Writes the items of a list. -/
def putItems (indent : Nat) (p : Page) : List Value → Page
  | [] => p
  | v :: r =>
    putItems indent (putValue (some indent) false ((p.indentTo indent).mark "-" true false true) v) r

/-- Writes the fields of a map. -/
def putFields (indent : Nat) (p : Page) : List (String × Value) → Page
  | [] => p
  | (k, v) :: r =>
    let p := p.indentTo indent
    let p :=
      if isSimpleKey k then (p.putText (indent + 2) false true k).mark ":" false false false
      else
        (((p.mark "?" true false true).putText (indent + 2) false false k).indentTo indent).mark ":"
          true false true
    putFields indent (putValue (some indent) true p v) r

end

end RouteAtlas.Document.Yaml

namespace RouteAtlas.Document.Value

/-- The YAML text of a document. -/
def yaml (v : Value) : String :=
  let p := (Yaml.putValue none false Yaml.Page.empty v).indentTo 0
  (if p.openEnded then (p.mark "..." true false false).indentTo 0 else p).text

mutual

/-- The kind of the first value, in the order of writing, that YAML cannot hold. -/
def yamlForeign? : Value → Option String
  | .list items => yamlForeignItem? items
  | .map fields => yamlForeignField? fields
  | .moment (.time _) => some "time"
  | .bytes _ => some "bytes"
  | .foreign kind => some kind
  | _ => none

/-- The first item that YAML cannot hold. -/
def yamlForeignItem? : List Value → Option String
  | [] => none
  | v :: r => (yamlForeign? v).or (yamlForeignItem? r)

/-- The first field that YAML cannot hold. -/
def yamlForeignField? : List (String × Value) → Option String
  | [] => none
  | (_, v) :: r => (yamlForeign? v).or (yamlForeignField? r)

end

end RouteAtlas.Document.Value
