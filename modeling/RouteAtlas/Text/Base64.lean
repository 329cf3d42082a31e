import RouteAtlas.Text.CharClass

/-!
# Base 64

Reading bytes from a text in base 64. Characters outside the alphabet do not count; padding ends the
text where it completes a group of four.
-/

namespace RouteAtlas.Text.Base64

/-- The value of a character of the alphabet. -/
def sextet? (c : Char) : Option Nat :=
  let n := c.toNat
  if 'A' ≤ c ∧ c ≤ 'Z' then some (n - 65)
  else if 'a' ≤ c ∧ c ≤ 'z' then some (n - 71)
  else if '0' ≤ c ∧ c ≤ '9' then some (n + 4)
  else if c = '+' then some 62
  else if c = '/' then some 63
  else none

/-- Decodes from inside a group: how many of its characters are read, the bits they left over, and the
padding since. Nothing if the text ends inside a group. -/
def decodeFrom (count bits pads : Nat) : List Char → Option (List UInt8)
  | [] => if count = 0 then some [] else none
  | '=' :: r =>
    if 2 ≤ count then
      if 4 ≤ count + pads + 1 then some [] else decodeFrom count bits (pads + 1) r
    else decodeFrom count bits pads r
  | c :: r =>
    match sextet? c with
    | none => decodeFrom count bits pads r
    | some v =>
      match count with
      | 0 => decodeFrom 1 v 0 r
      | 1 => (decodeFrom 2 (v % 16) 0 r).map ((bits * 4 + v / 16).toUInt8 :: ·)
      | 2 => (decodeFrom 3 (v % 4) 0 r).map ((bits * 16 + v / 4).toUInt8 :: ·)
      | _ => (decodeFrom 0 0 0 r).map ((bits * 64 + v).toUInt8 :: ·)

/-- The bytes that a text spells, if it is all ASCII. -/
def decode (s : String) : Option (List UInt8) :=
  if s.toList.all (·.toNat < 128) then decodeFrom 0 0 0 s.toList else none

end RouteAtlas.Text.Base64
