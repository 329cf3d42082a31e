import RouteAtlas.Document.Yaml.Cursor
import RouteAtlas.Text.Digits
import RouteAtlas.Text.Utf8

/-!
# YAML tokens

What a YAML text consists of, with the start and end of indented blocks made explicit, and the scanning
of the small tokens: directives, anchors and tags.
-/

namespace RouteAtlas.Document.Yaml

open RouteAtlas.Text

/-- Why a text is no YAML document, or holds a value that does not exist. -/
inductive YamlFault where
  | malformed
  /-- An escape names a code point beyond the last one. -/
  | noCharacter (code : Nat)
  /-- The text of a number or the parts of a moment make none. -/
  | noValue
  /-- A truth value has a spelling of its own. -/
  | unknownBool
  /-- A number is empty. -/
  | emptyNumber
  /-- A text is marked as a moment and is none. -/
  | noMoment
  /-- A mapping with a default value is marked as a moment. -/
  | momentMapping
  /-- A field of the document has an integer for its name that is too long to be written. -/
  | longKey
deriving Repr, DecidableEq, Inhabited

/-- A step of reading. -/
abbrev Scanned := Except YamlFault

/-- A token. -/
inductive Token where
  | version (major : Nat)
  | tagHandle (handle start : String)
  | directive
  | documentStart
  | documentEnd
  | streamEnd
  | blockSequence
  | blockMapping
  | blockEnd
  | flowSequence
  | flowSequenceEnd
  | flowMapping
  | flowMappingEnd
  | blockEntry
  | flowEntry
  | key
  | value
  | alias (name : String)
  | anchor (name : String)
  | tag (handle : Option String) (suffix : String)
  /-- The text of a scalar by its code points, since an escape may name a surrogate. -/
  | scalar (codes : List Nat) (isPlain : Bool)
deriving Repr, DecidableEq, Inhabited

/-- The text must go on like this. -/
def expectThat (b : Bool) : Scanned Unit := if b then .ok () else .error .malformed

/-- A character of names. -/
def isNameChar (c : Char) : Bool :=
  ('0' ≤ c && c ≤ '9') || ('A' ≤ c && c ≤ 'Z') || ('a' ≤ c && c ≤ 'z') || c == '-' || c == '_'

/-- A non-empty name. -/
def scanName (c : Cursor) : Scanned (String × Cursor) := do
  let (name, c) := c.span isNameChar
  expectThat !name.isEmpty
  return (String.ofList name, c)

/-- An anchor or alias after its mark. -/
def scanAnchor (c : Cursor) : Scanned (String × Cursor) := do
  let (name, c) ← scanName c.advance
  expectThat (endsOr (fun d => isSeparator d || "?:,]\x7d%@\x60".toList.contains d) c.next?)
  return (name, c)

/-! ## Tags -/

/-- The bytes of a run of percent escapes. -/
def scanEscapedBytes (fuel : Nat) (c : Cursor) : Scanned (List UInt8 × Cursor) :=
  match fuel, c.rest with
  | fuel + 1, '%' :: a :: b :: _ =>
    match ofDigits? 16 [a, b] with
    | some n => do
      let (more, c) ← scanEscapedBytes fuel (c.skip 3)
      return (n.toUInt8 :: more, c)
    | none => .error .malformed
  | _, '%' :: _ => .error .malformed
  | _, _ => .ok ([], c)

/-- A character of tags. -/
def isUriChar (c : Char) : Bool := isNameChar c || ";/?:@&=+$,.!~*'()[]".toList.contains c

/-- The rest of a tag. -/
def scanUriFrom (fuel : Nat) (c : Cursor) : Scanned (List Char × Cursor) :=
  match fuel with
  | 0 => .ok ([], c)
  | fuel + 1 => do
    let (run, c) := c.span isUriChar
    if c.isAt '%' then
      let (bytes, c) ← scanEscapedBytes c.rest.length c
      match Utf8.decode bytes with
      | .error _ => .error .malformed
      | .ok s =>
        let (more, c) ← scanUriFrom fuel c
        return (run ++ s.toList ++ more, c)
    else return (run, c)

/-- A non-empty tag without its handle. -/
def scanUri (c : Cursor) : Scanned (String × Cursor) := do
  expectThat (c.isIn fun d => isUriChar d || d == '%')
  let (cs, c) ← scanUriFrom (c.rest.length + 1) c
  return (String.ofList cs, c)

/-- The handle of a tag: `!`, `!!` or `!name!`. -/
def scanHandle (c : Cursor) : Scanned (String × Cursor) := do
  expectThat (c.isAt '!')
  if c.peek? 1 == some ' ' then return ("!", c.advance)
  else
    let (name, c) := c.advance.span isNameChar
    expectThat (c.isAt '!')
    return ("!" ++ String.ofList name ++ "!", c.advance)

/-- A tag. -/
def scanTag (c : Cursor) : Scanned (Token × Cursor) := do
  let (token, c) ←
    if c.peek? 1 == some '<' then do
      let (suffix, c) ← scanUri (c.skip 2)
      expectThat (c.isAt '>')
      pure (Token.tag none suffix, c.advance)
    else if endsOr isSeparator (c.peek? 1) then pure (Token.tag none "!", c.advance)
    else do
      let word := c.advance.rest.takeWhile fun d => !(d == ' ' || isLineBreak d)
      let (handle, c) ← if word.contains '!' then scanHandle c else pure ("!", c.advance)
      let (suffix, c) ← scanUri c
      pure (Token.tag (some handle) suffix, c)
  expectThat (endsPlainly c.next?)
  return (token, c)

/-! ## Directives -/

/-- The end of a line that holds nothing more than a comment. -/
def scanLineEnd (c : Cursor) : Scanned Cursor := do
  let c := c.skipBlanks
  let c := if c.isAt '#' then c.skipLine else c
  expectThat (endsOr isLineBreak c.next?)
  return (c.lineBreak?.map (·.2)).getD c

/-- A run of digits. -/
def scanNumber (c : Cursor) : Scanned (Nat × Cursor) := do
  let (ds, c) := c.span (isDigitIn 10)
  expectThat !ds.isEmpty
  return (ofDigits 10 ds, c)

/-- A directive. -/
def scanDirective (c : Cursor) : Scanned (Token × Cursor) := do
  let (name, c) ← scanName c.advance
  expectThat (endsPlainly c.next?)
  let (token, c) ←
    if name = "YAML" then do
      let (major, c) ← scanNumber c.skipBlanks
      expectThat (c.isAt '.')
      let (_, c) ← scanNumber c.advance
      expectThat (endsPlainly c.next?)
      pure (Token.version major, c)
    else if name = "TAG" then do
      let (handle, c) ← scanHandle c.skipBlanks
      expectThat (c.isAt ' ')
      let (start, c) ← scanUri c.skipBlanks
      expectThat (endsPlainly c.next?)
      pure (Token.tagHandle handle start, c)
    else pure (Token.directive, c.skipLine)
  return (token, ← scanLineEnd c)

end RouteAtlas.Document.Yaml
