import RouteAtlas.Text.CharClass
import RouteAtlas.Text.SurrogateText

/-!
# Quoted texts

A text between quotes with escapes: single quotes unless only they occur inside, a backslash before
the quote and the backslash, short escapes for line end, return and tab, and hexadecimal escapes for
whatever is not printable, surrogates among them.
-/

namespace RouteAtlas.Text

/-- The hexadecimal escape of a code point, in its shortest form. -/
def hexEscape (n : Nat) : List Char :=
  if n ≤ 0xff then '\\' :: 'x' :: hexText 2 n
  else if n ≤ 0xffff then '\\' :: 'u' :: hexText 4 n
  else '\\' :: 'U' :: hexText 8 n

/-- A code point between quotes of the given kind. -/
def quotedCode (quote : Char) (n : Nat) : List Char :=
  let c := Char.ofNat n
  if isSurrogate n then hexEscape n
  else if c == quote || c == '\\' then ['\\', c]
  else if c == '\n' then ['\\', 'n']
  else if c == '\r' then ['\\', 'r']
  else if c == '\t' then ['\\', 't']
  else if isPrintable c then [c]
  else hexEscape n

/-- The quote for a text: double where single quotes occur and double ones do not. -/
def quoteFor (codes : List Nat) : Char :=
  if codes.contains '\''.toNat && !codes.contains '"'.toNat then '"' else '\''

/-- The quoted form of a text by its code points. -/
def quotedCodes (codes : List Nat) : List Char :=
  let quote := quoteFor codes
  quote :: codes.flatMap (quotedCode quote) ++ [quote]

/-- The quoted form of a text. -/
def quoted (s : String) : String := String.ofList (quotedCodes (codePoints s))

/-- A byte between quotes of the given kind. -/
def quotedByte (quote : Char) (b : UInt8) : List Char :=
  let c := Char.ofNat b.toNat
  if c == quote || c == '\\' then ['\\', c]
  else if c == '\n' then ['\\', 'n']
  else if c == '\r' then ['\\', 'r']
  else if c == '\t' then ['\\', 't']
  else if 32 ≤ b.toNat && b.toNat < 127 then [c]
  else '\\' :: 'x' :: hexText 2 b.toNat

/-- The quoted form of bytes, marked by a leading letter. -/
def quotedBytes (bs : List UInt8) : String :=
  let quote := quoteFor (bs.map (·.toNat))
  String.ofList ('b' :: quote :: bs.flatMap (quotedByte quote) ++ [quote])

end RouteAtlas.Text
