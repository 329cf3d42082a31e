import RouteAtlas.Document.Toml.Atom
import RouteAtlas.Document.Toml.Table

/-!
# Reading TOML

`Toml.read` gives the fields of a TOML text: lines with keys and values, and headers that open tables
and lists of tables.
-/

namespace RouteAtlas.Document.Toml

open RouteAtlas.Text Reading

/-- A character of keys without quotes. -/
def isBareKeyChar (c : Char) : Bool := isAsciiLetter c || isAsciiDigit c || c == '-' || c == '_'

/-- A part of a key. -/
def readKeyPart : Reading String := do
  let bare ← span isBareKeyChar
  if !bare.isEmpty then return String.ofList bare
  else if ← isAt "\"" then readBasic
  else if ← isAt "'" then readLiteral
  else fail

/-- Further parts of a dotted key. -/
def readKeyFrom (fuel : Nat) : Reading Key :=
  match fuel with
  | 0 => fail
  | fuel + 1 => do
    skipSpaces
    if ← accept "." then
      skipSpaces
      let part ← readKeyPart
      return part :: (← readKeyFrom fuel)
    else return []

/-- A key. -/
def readKey : Reading Key := do
  let part ← readKeyPart
  return part :: (← readKeyFrom (← left))

/-- The mark between a key and its value. -/
def readEquals : Reading Unit := do
  expect "="
  skipSpaces

/-- A change that must be possible. -/
def possible {α : Type} : Option α → Reading α
  | some a => return a
  | none => fail

mutual

/-- A value. -/
def readValue (fuel : Nat) : Reading Value :=
  match fuel with
  | 0 => fail
  | fuel + 1 => do
    match ← readString? with
    | some s => return .str s
    | none =>
      if ← accept "true" then return .bool true
      else if ← accept "false" then return .bool false
      else if ← accept "[" then
        skipFiller (← left)
        if ← accept "]" then return .list [] else .list <$> readItems fuel
      else if ← accept "\x7b" then
        skipSpaces
        if ← accept "\x7d" then return .map [] else .map <$> readInline fuel {}
      else readAtom

/-- The items of a list, up to its closing bracket. -/
def readItems (fuel : Nat) : Reading (List Value) :=
  match fuel with
  | 0 => fail
  | fuel + 1 => do
    let v ← readValue fuel
    skipFiller (← left)
    if ← accept "]" then return [v]
    else
      expect ","
      skipFiller (← left)
      if ← accept "]" then return [v] else return v :: (← readItems fuel)

/-- The fields of a table inside braces, up to its closing brace. -/
def readInline (fuel : Nat) (d : InlineDraft) : Reading Fields :=
  match fuel with
  | 0 => fail
  | fuel + 1 => do
    let key ← readKey
    readEquals
    let v ← readValue fuel
    let d ← possible (d.assign key v)
    skipSpaces
    if ← accept "\x7d" then return d.fields
    else
      expect ","
      skipSpaces
      readInline fuel d

end

/-- A header after its opening brackets. -/
def readHeader (d : Draft) (closing : String) (change : Draft → Key → Option Draft) :
    Reading Draft := do
  skipSpaces
  let key ← readKey
  let d ← possible (change { d with marks := d.marks.settle } key)
  expect closing
  return d

/-- A line without its end. -/
def readLine (d : Draft) : Reading Draft := do
  if ← accept "[[" then readHeader d "]]" Draft.openItem
  else if ← accept "[" then readHeader d "]" Draft.openTable
  else if (← peek).any fun c => isBareKeyChar c || c == '"' || c == '\'' then
    let key ← readKey
    readEquals
    let v ← readValue (2 * (← left))
    possible (d.assign key v)
  else return d

/-- The lines of a document. -/
def readLines (fuel : Nat) (d : Draft) : Reading Draft :=
  match fuel with
  | 0 => fail
  | fuel + 1 => do
    skipSpaces
    let d ← readLine d
    skipSpaces
    skipComment
    if (← peek).isNone then return d
    else
      expect "\n"
      readLines fuel d

/-- Pairs of carriage return and line feed become line feeds. -/
def joinLineEnds : List Char → List Char
  | '\r' :: '\n' :: r => '\n' :: joinLineEnds r
  | c :: r => c :: joinLineEnds r
  | [] => []

/-- The fields of a TOML text. -/
def read (s : String) : Except TomlFault Fields := do
  let cs := joinLineEnds s.toList
  return (← (readLines (cs.length + 2) {}).run cs).1.fields

end RouteAtlas.Document.Toml
