/-!
# Floating-point numbers as exact binary fractions

A finite double is `± significand · 2 ^ exponent`. `BinaryFraction.ofFloat?` takes it apart, so that
printing and rounding can work with exact integers.
-/

namespace RouteAtlas.Number

/-- The exact value `± significand · 2 ^ exponent` of a finite double. -/
structure BinaryFraction where
  negative : Bool
  significand : Nat
  exponent : Int
deriving Repr, DecidableEq, Inhabited

namespace BinaryFraction

/-- The value of a finite double; nothing for infinities and for what is not a number. -/
def ofFloat? (x : Float) : Option BinaryFraction :=
  let bits := x.toBits.toNat
  let negative := bits / Nat.pow 2 63 = 1
  let field : Nat := bits / Nat.pow 2 52 % Nat.pow 2 11
  let rest : Nat := bits % Nat.pow 2 52
  if field = 2047 then none
  else if field = 0 then some ⟨negative, rest, -1074⟩
  else some ⟨negative, rest + Nat.pow 2 52, (field : Int) - 1075⟩

/-- The integer that the fraction is, if it is one. -/
def toInt? (b : BinaryFraction) : Option Int :=
  let sign : Int := if b.negative then -1 else 1
  match b.exponent with
  | .ofNat e => some (sign * (b.significand * Nat.pow 2 e : Nat))
  | .negSucc e =>
    let unit := Nat.pow 2 (e + 1)
    if b.significand % unit = 0 then some (sign * (b.significand / unit : Nat)) else none

end BinaryFraction

/-- The sign bit of a double is set. -/
def signBit (x : Float) : Bool := x.toBits.toNat / Nat.pow 2 63 == 1

/-- Positive infinity. -/
def infinity : Float := Float.ofBits 0x7ff0000000000000

end RouteAtlas.Number
