import RouteAtlas.Text.LetterCaseTable
import RouteAtlas.Text.CodeRange
import RouteAtlas.Text.CharClass

/-!
# Letter case

Full upper- and lower-casing of texts: a character may become several, and a capital sigma at the end
of a word becomes the final small sigma.
-/

namespace RouteAtlas.Text

/-- The one-character lower-case forms. -/
def lowerShifts : List CodeShift := LetterCaseTable.lower

/-- The longer lower-case forms. -/
def lowerSpellings : List (CodeRange × List Nat) := LetterCaseTable.lowerLong

/-- The one-character upper-case forms. -/
def upperShifts : List CodeShift := LetterCaseTable.upper

/-- The longer upper-case forms. -/
def upperSpellings : List (CodeRange × List Nat) := LetterCaseTable.upperLong

/-- What a case change makes of a character beyond ASCII. -/
def recase (shifts : List CodeShift) (spellings : List (CodeRange × List Nat)) (c : Char) :
    List Char :=
  match spellings.find? (·.1.contains c.toNat) with
  | some (_, spelt) => spelt.map Char.ofNat
  | none => [((CodeShift.find? shifts c.toNat).map Char.ofNat).getD c]

/-- Lower case of one character, regardless of its neighbours. -/
def lowerChar (c : Char) : List Char :=
  if c.toNat < 128 then [c.toLower] else recase lowerShifts lowerSpellings c

/-- Upper case of one character. -/
def upperChar (c : Char) : List Char :=
  if c.toNat < 128 then [c.toUpper] else recase upperShifts upperSpellings c

/-- The capital letter sigma, whose lower case depends on its neighbours. -/
def capitalSigma : Char := Char.ofNat 0x3a3

/-- The ranges that a word-final test looks past. -/
def ignorableRanges : List CodeRange := CodeRange.readAll LetterCaseTable.ignorable

/-- The ranges of cased characters beyond ASCII. -/
def casedRanges : List CodeRange := CodeRange.readAll LetterCaseTable.cased

/-- A word-final test looks past `c`. -/
def isCaseIgnorable (c : Char) : Bool :=
  if c.toNat < 128 then ['\'', '.', ':', '^', '`'].contains c
  else CodeRange.anyContains ignorableRanges c.toNat

/-- `c` has case. -/
def isCased (c : Char) : Bool :=
  if c.toNat < 128 then isAsciiLetter c else CodeRange.anyContains casedRanges c.toNat

/-- The first character of the text that is not looked past has case. -/
def meetsCased (cs : List Char) : Bool := (cs.dropWhile isCaseIgnorable).head?.any isCased

/-- Lower case of a text, given the characters before it, nearest first. -/
def lowerAfter (before : List Char) : List Char → List Char
  | [] => []
  | c :: r =>
    let low :=
      if c == capitalSigma then
        [Char.ofNat (if meetsCased before && !meetsCased r then 0x3c2 else 0x3c3)]
      else lowerChar c
    low ++ lowerAfter (c :: before) r

/-- Lower case of a text. -/
def lowercase (s : String) : String := String.ofList (lowerAfter [] s.toList)

/-- Upper case of a text. -/
def uppercase (s : String) : String := String.ofList (s.toList.flatMap upperChar)

end RouteAtlas.Text
