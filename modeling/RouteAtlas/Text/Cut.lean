import RouteAtlas.Text.CharClass

/-!
# Cutting and searching texts

Trimming, splitting and substring tests on lists of characters, with the blanks of
`RouteAtlas.Text.CharClass`.
-/

namespace RouteAtlas.Text

/-- Drops a leading run of characters in the class. -/
def trimStart (p : Char → Bool) (cs : List Char) : List Char := cs.dropWhile p

/-- Drops a trailing run of characters in the class. -/
def trimEnd (p : Char → Bool) (cs : List Char) : List Char := (cs.reverse.dropWhile p).reverse

/-- Drops both outer runs of characters in the class. -/
def trim (p : Char → Bool) (cs : List Char) : List Char := trimEnd p (trimStart p cs)

/-- Drops the outer blanks of a text. -/
def trimBlanks (s : String) : String := String.ofList (trim isBlank s.toList)

/-- `sub` occurs in `cs` as a run. -/
def hasInfix (sub cs : List Char) : Bool :=
  match cs with
  | [] => sub.isEmpty
  | c :: r => sub.isPrefixOf (c :: r) || hasInfix sub r

/-- The word `sub` occurs somewhere in `s`. -/
def mentions (s sub : String) : Bool := hasInfix sub.toList s.toList

/-- One of the words occurs somewhere in `s`. -/
def mentionsAny (s : String) (words : List String) : Bool := words.any (mentions s)

/-- `s` begins with `start`. -/
def beginsWith (s start : String) : Bool := start.toList.isPrefixOf s.toList

/-- `s` ends with `tail`. -/
def endsIn (s tail : String) : Bool := tail.toList.isSuffixOf s.toList

/-- The parts of `s` between the separators, empty ones kept. -/
def splitAt (sep : Char) (s : String) : List String := (s.toList.splitOn sep).map String.ofList

/-- The part after the last separator, or the whole text. -/
def afterLast (sep : Char) (s : String) : String :=
  String.ofList (s.toList.reverse.takeWhile (· != sep)).reverse

/-- The part before the last separator, if there is one. -/
def beforeLast? (sep : Char) (s : String) : Option String :=
  match s.toList.reverse.dropWhile (· != sep) with
  | [] => none
  | _ :: r => some (String.ofList r.reverse)

/-- Replaces every occurrence of a character. -/
def substitute (old new : Char) (s : String) : String :=
  String.ofList (s.toList.map fun c => if c == old then new else c)

/-- `sub` cut off the front of `cs`. -/
def dropInitial? (sub cs : List Char) : Option (List Char) :=
  if sub.isPrefixOf cs then some (cs.drop sub.length) else none

end RouteAtlas.Text
