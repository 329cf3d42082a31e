import RouteAtlas.Text.Digits

/-!
# Tables of code points

The character classes of `RouteAtlas.Text` are data of a standard, most of them kept as texts of
hexadecimal entries. This module reads those texts: `CodeRange.readAll` for plain ranges and
`readSpellings` for single code points with a spelling. Ranges that move as a whole are `CodeShift`s.
-/

namespace RouteAtlas.Text

/-- Hexadecimal digits read as a number. -/
def hexNumber (cs : List Char) : Nat := ofDigits 16 cs

/-- The parts of a text around its first `sep`; the second is empty where `sep` does not occur. -/
def cutAt (sep : Char) (cs : List Char) : List Char × List Char :=
  (cs.takeWhile (· != sep), (cs.dropWhile (· != sep)).drop 1)

/-- The entries of a table, apart by spaces and line ends. -/
def tableEntries (table : String) : List (List Char) :=
  (table.toList.splitOnP fun c => c == ' ' || c == '\n').filter (!·.isEmpty)

/-- A closed interval of code points. -/
structure CodeRange where
  first : Nat
  last : Nat
deriving Repr, DecidableEq, Inhabited

namespace CodeRange

/-- `n` lies in the interval. -/
def contains (r : CodeRange) (n : Nat) : Bool := r.first ≤ n && n ≤ r.last

/-- Reads `a-b` or `a`. -/
def read (cs : List Char) : CodeRange :=
  match cutAt '-' cs with
  | (a, []) => ⟨hexNumber a, hexNumber a⟩
  | (a, b) => ⟨hexNumber a, hexNumber b⟩

/-- Reads a table of ranges. -/
def readAll (table : String) : List CodeRange := (tableEntries table).map read

/-- Some range of the table holds the code point. -/
def anyContains (rs : List CodeRange) (n : Nat) : Bool := rs.any (·.contains n)

end CodeRange

/-- Every `step`-th code point of a range moves by `delta`. -/
structure CodeShift where
  range : CodeRange
  step : Nat
  delta : Int
deriving Repr, DecidableEq, Inhabited

namespace CodeShift

/-- Where `n` moves, if the shift covers it. -/
def moved? (s : CodeShift) (n : Nat) : Option Nat :=
  if s.range.contains n && (n - s.range.first) % s.step == 0 then some (n + s.delta).toNat else none

/-- The first shift of the table that covers `n`, applied. -/
def find? (ss : List CodeShift) (n : Nat) : Option Nat := ss.findSome? (·.moved? n)

end CodeShift

/-- Reads `a:x.y` as the range of `a` with its list `[x, y]`, and `a-b:x` likewise. -/
def readSpelling (cs : List Char) : CodeRange × List Nat :=
  let (place, spelt) := cutAt ':' cs
  (CodeRange.read place, (spelt.splitOn '.').map hexNumber)

/-- Reads a table of spellings. -/
def readSpellings (table : String) : List (CodeRange × List Nat) :=
  (tableEntries table).map readSpelling

end RouteAtlas.Text
