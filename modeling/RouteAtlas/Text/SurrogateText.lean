/-!
# Texts with surrogates

A text is a sequence of code points, and an escape may put a surrogate among them, which is no character
and has no bytes in UTF-8. A `String` holds characters, so a text with surrogates is a `SurrogateText`.
Values keep such texts as they are. Names, paths and tags are `String`s throughout the library: where an
escape puts a surrogate into one, the replacement character stands for it (`readableText`).
-/

namespace RouteAtlas.Text

/-- The code point is kept for the halves of pairs, and no character has it. -/
def isSurrogate (n : Nat) : Bool := 0xd800 ≤ n && n < 0xe000

/-- A text with a surrogate, by its code points. -/
structure SurrogateText where
  codes : List Nat
  bounded : ∀ n ∈ codes, n < 0x110000
  hasSurrogate : codes.any isSurrogate = true
deriving Repr, DecidableEq

/-- The code points of a string. -/
def codePoints (s : String) : List Nat := s.toList.map Char.toNat

/-- The text of these code points, if a surrogate is among them. -/
def SurrogateText.ofCodes? (codes : List Nat) : Option SurrogateText :=
  if h : (∀ n ∈ codes, n < 0x110000) ∧ codes.any isSurrogate = true then some ⟨codes, h.1, h.2⟩
  else none

/-- The characters of these code points, the replacement character for each surrogate. -/
def readableText (codes : List Nat) : String :=
  String.ofList (codes.map fun n => if isSurrogate n then '\ufffd' else Char.ofNat n)

end RouteAtlas.Text
