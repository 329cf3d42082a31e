/-!
# Digits in a base

Reading and writing natural numbers digit by digit: `digit?` gives the value of a digit in bases up
to 36, `ofDigits` reads a run of them, and `hexText` and `paddedText` write a number back.
`maxDecimalDigits` bounds the decimal texts of integers, in reading as in writing.
-/

namespace RouteAtlas.Text

/-- The value of an ASCII digit or letter, `0`-`9` then `a`-`z` in either case. -/
def alphanumericValue (c : Char) : Option Nat :=
  if '0' ≤ c ∧ c ≤ '9' then some (c.toNat - '0'.toNat)
  else if 'a' ≤ c ∧ c ≤ 'z' then some (c.toNat - 'a'.toNat + 10)
  else if 'A' ≤ c ∧ c ≤ 'Z' then some (c.toNat - 'A'.toNat + 10)
  else none

/-- The value of `c` as a digit in `base`. -/
def digit? (base : Nat) (c : Char) : Option Nat :=
  (alphanumericValue c).filter (· < base)

/-- `c` is a digit in `base`. -/
def isDigitIn (base : Nat) (c : Char) : Bool :=
  (digit? base c).isSome

/-- The number that a run of digits in `base` spells; other characters count as zero digits. -/
def ofDigits (base : Nat) (cs : List Char) : Nat :=
  cs.foldl (fun n c => n * base + (digit? base c).getD 0) 0

/-- The number spelt by a non-empty run that holds digits in `base` only. -/
def ofDigits? (base : Nat) (cs : List Char) : Option Nat :=
  if cs.isEmpty ∨ cs.any (fun c => !isDigitIn base c) then none else some (ofDigits base cs)

/-- The sign of a number, and the rest. -/
def cutSign : List Char → Bool × List Char
  | '-' :: r => (true, r)
  | '+' :: r => (false, r)
  | r => (false, r)

/-- The most decimal digits that an integer may have in a text that is read or written. -/
def maxDecimalDigits : Nat := 4300

/-- An integer has more decimal digits than a text may have. -/
def isLongInteger (n : Int) : Bool := maxDecimalDigits < (Nat.toDigits 10 n.natAbs).length

/-- Lower-case hexadecimal digits of `n`, padded with zeros to `width`. -/
def hexText (width n : Nat) : List Char :=
  let ds := Nat.toDigits 16 n
  List.replicate (width - ds.length) '0' ++ ds

/-- Decimal text of a number, padded with zeros to `width`. -/
def paddedText (width n : Nat) : List Char :=
  let ds := Nat.toDigits 10 n
  List.replicate (width - ds.length) '0' ++ ds

end RouteAtlas.Text
