import RouteAtlas.Document.Toml.Reading
import RouteAtlas.Text.Digits

/-!
# TOML strings

Basic strings with escapes and literal strings without, on one line between single marks or on several
lines between triple marks. One or two further marks at the end of a string of several lines belong to
it.
-/

namespace RouteAtlas.Document.Toml

open RouteAtlas.Text Reading

/-- Escapes of one character. -/
def escapes : List (Char × Char) :=
  [('b', '\x08'), ('t', '\t'), ('n', '\n'), ('f', '\x0c'), ('r', '\r'), ('"', '"'), ('\\', '\\')]

/-- A character by its code in some hexadecimal digits. -/
def readCode (width : Nat) : Reading (List Char) := do
  let ds := (← get).take width
  match ofDigits? 16 ds with
  | none => fail
  | some n =>
    if ds.length < width || !(n < 0xd800 || (0xdfff < n && n ≤ 0x10ffff)) then fail
    skip width
    return [Char.ofNat n]

/-- A backslash at the end of a line, which joins it to the next line with text. -/
def readJoint : Reading (List Char) := do
  skipSpaces
  if (← peek).isNone then return []
  else
    expect "\n"
    skipWhile isSpaceOrBreak
    return []

/-- An escape after its backslash. -/
def readEscape (isMultiline : Bool) : Reading (List Char) := do
  match ← peek with
  | none => fail
  | some c =>
    if isMultiline && isSpaceOrBreak c then readJoint
    else
      skip 1
      if c == 'u' then readCode 4
      else if c == 'U' then readCode 8
      else match escapes.find? (·.1 == c) with
        | some (_, e) => return [e]
        | none => fail

/-- The rest of a basic string, up to and with its closing mark. -/
def readBasicFrom (fuel : Nat) (isMultiline : Bool) : Reading (List Char) :=
  match fuel with
  | 0 => fail
  | fuel + 1 => do
    match ← peek with
    | none => fail
    | some c =>
      if c == '"' && !isMultiline then
        skip 1
        return []
      else if ← (if c == '"' then accept "\"\"\"" else pure false) then return []
      else if c == '\\' then
        skip 1
        let cs ← readEscape isMultiline
        return cs ++ (← readBasicFrom fuel isMultiline)
      else if isControl c && !(isMultiline && c == '\n') then fail
      else
        skip 1
        return c :: (← readBasicFrom fuel isMultiline)

/-- The rest of a literal string of several lines. -/
def readLiteralFrom (fuel : Nat) : Reading (List Char) :=
  match fuel with
  | 0 => fail
  | fuel + 1 => do
    if ← accept "'''" then return []
    else match ← peek with
      | none => fail
      | some c =>
        if isControl c && c != '\n' then fail
        skip 1
        return c :: (← readLiteralFrom fuel)

/-- One or two further marks. -/
def readMoreMarks (mark : String) : Reading (List Char) := do
  if !(← accept mark) then return []
  else if !(← accept mark) then return mark.toList
  else return mark.toList ++ mark.toList

/-- A basic string on one line. -/
def readBasic : Reading String := do
  expect "\""
  return String.ofList (← readBasicFrom (← left) false)

/-- A literal string on one line. -/
def readLiteral : Reading String := do
  expect "'"
  let cs ← span (· != '\'')
  if cs.any isControl then fail
  expect "'"
  return String.ofList cs

/-- A string on several lines after its opening marks. -/
def readMultiline (mark : String) (content : Reading (List Char)) : Reading String := do
  let _ ← accept "\n"
  let cs ← content
  return String.ofList (cs ++ (← readMoreMarks mark))

/-- A string of any kind, if one comes next. -/
def readString? : Reading (Option String) := do
  if ← accept "\"\"\"" then
    some <$> readMultiline "\"" (do readBasicFrom (← left) true)
  else if ← isAt "\"" then some <$> readBasic
  else if ← accept "'''" then
    some <$> readMultiline "'" (do readLiteralFrom (← left))
  else if ← isAt "'" then some <$> readLiteral
  else return none

end RouteAtlas.Document.Toml
