import RouteAtlas.Text.CharTable
import RouteAtlas.Text.CodeRange

/-!
# Character classes

The classes of characters that scanning and printing depend on, for all of Unicode: blanks, the
characters of words, decimal digits, the characters of identifiers, and those that a quoted text shows
unescaped. ASCII is written out; beyond it the tables of `RouteAtlas.Text.CharTable` decide.
-/

namespace RouteAtlas.Text

/-- White space: separators, line breaks, tabs and the four information separators. -/
def isBlank (c : Char) : Bool :=
  let n := c.toNat
  (9 ≤ n && n ≤ 13) || (28 ≤ n && n ≤ 32) || n == 0x85 || n == 0xa0 || n == 0x1680 ||
    (0x2000 ≤ n && n ≤ 0x200a) || n == 0x2028 || n == 0x2029 || n == 0x202f || n == 0x205f ||
    n == 0x3000

/-- An ASCII letter. -/
def isAsciiLetter (c : Char) : Bool := ('a' ≤ c && c ≤ 'z') || ('A' ≤ c && c ≤ 'Z')

/-- An ASCII digit. -/
def isAsciiDigit (c : Char) : Bool := '0' ≤ c && c ≤ '9'

/-- The ranges of word characters beyond ASCII. -/
def wordRanges : List CodeRange := CodeRange.readAll CharTable.word

/-- A letter, a digit or numeral of any script, or the underscore. -/
def isWordChar (c : Char) : Bool :=
  if c.toNat < 128 then isAsciiLetter c || isAsciiDigit c || c == '_'
  else CodeRange.anyContains wordRanges c.toNat

/-- The zeros of the scripts other than ASCII that have decimal digits. -/
def zeroDigits : List Nat := (tableEntries CharTable.zeroDigit).map hexNumber

/-- The value of a decimal digit of any script. -/
def decimalDigit? (c : Char) : Option Nat :=
  if c.toNat < 128 then (if isAsciiDigit c then some (c.toNat - 48) else none)
  else (zeroDigits.find? fun z => z ≤ c.toNat && c.toNat < z + 10).map (c.toNat - ·)

/-- The ranges of identifier starts beyond ASCII. -/
def identifierStartRanges : List CodeRange := CodeRange.readAll CharTable.identifierStart

/-- The ranges of identifier parts beyond ASCII. -/
def identifierPartRanges : List CodeRange := CodeRange.readAll CharTable.identifierPart

/-- `c` may begin an identifier. -/
def isIdentifierStart (c : Char) : Bool :=
  if c.toNat < 128 then isAsciiLetter c || c == '_'
  else CodeRange.anyContains identifierStartRanges c.toNat

/-- `c` may follow the first character of an identifier. -/
def isIdentifierPart (c : Char) : Bool :=
  if c.toNat < 128 then isAsciiLetter c || isAsciiDigit c || c == '_'
  else CodeRange.anyContains identifierPartRanges c.toNat

/-- A non-empty text of identifier characters that begins as an identifier does. -/
def isIdentifier : List Char → Bool
  | [] => false
  | c :: cs => isIdentifierStart c && cs.all isIdentifierPart

/-- The ranges of printable characters beyond ASCII. -/
def printableRanges : List CodeRange := CodeRange.readAll CharTable.printable

/-- `c` is shown as it is inside quotes. -/
def isPrintable (c : Char) : Bool :=
  if c.toNat < 128 then 32 ≤ c.toNat && c.toNat < 127
  else CodeRange.anyContains printableRanges c.toNat

end RouteAtlas.Text
