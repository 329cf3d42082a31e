import RouteAtlas.Number.Binary

/-!
# Decimal numbers

`Decimal` is `coefficient · 10 ^ exponent`. `Decimal.toFloat` gives the nearest double, and
`Decimal.shortest` the decimal with the fewest digits that reads back as a given positive double: on
the grids of 1, 2, … 17 digits it tests the two neighbours of the value in exact arithmetic, and the
first grid with a hit wins, of two hits the nearer one, of two as near the even one.
-/

namespace RouteAtlas.Number

/-- The number `coefficient · 10 ^ exponent`. -/
structure Decimal where
  coefficient : Nat
  exponent : Int
deriving Repr, DecidableEq, Inhabited

namespace Decimal

/-- How many decimal digits a number has; zero has one. -/
def digitCount (n : Nat) : Nat := (Nat.toDigits 10 n).length

/-- The double nearest to a decimal. Magnitudes that no double reaches are settled by their size
alone. -/
def toFloat (d : Decimal) : Float :=
  let size : Int := digitCount d.coefficient + d.exponent
  if d.coefficient = 0 ∨ size < -400 then 0.0
  else if size > 400 then infinity
  else match d.exponent with
    | .ofNat e => Float.ofScientific (d.coefficient * Nat.pow 10 e) false 0
    | .negSucc e => Float.ofScientific d.coefficient true (e + 1)

/-- The reals `low / unit … high / unit` that round to the double `mid / unit`. -/
structure Interval where
  low : Nat
  mid : Nat
  high : Nat
  unit : Nat
  closed : Bool

/-- The rounding interval of a positive double. Below a power of two the spacing halves. -/
def Interval.ofFraction (b : BinaryFraction) : Interval :=
  let m := b.significand
  let below := if m = Nat.pow 2 52 ∧ b.exponent ≠ -1074 then 1 else 2
  let closed := m % 2 = 0
  match b.exponent - 2 with
  | .ofNat e =>
    let scale := Nat.pow 2 e
    ⟨(4 * m - below) * scale, 4 * m * scale, (4 * m + 2) * scale, 1, closed⟩
  | .negSucc e => ⟨4 * m - below, 4 * m, 4 * m + 2, Nat.pow 2 (e + 1), closed⟩

/-- The power of ten of the first digit of `num / den`. -/
def leadingExponent (num den : Nat) : Int :=
  if den ≤ num then digitCount (num / den) - 1
  else -(digitCount ((den + num - 1) / num - 1) : Int)

/-- The nearer of the two neighbours of the value on the grid of multiples of `10 ^ g` that lie in
the interval. -/
def Interval.onGrid? (i : Interval) (g : Int) : Option Decimal :=
  let up := Nat.pow 10 g.toNat
  let down := Nat.pow 10 (-g).toNat
  let low := i.low * down
  let mid := i.mid * down
  let high := i.high * down
  let cell := i.unit * up
  let inside (k : Nat) : Bool :=
    if i.closed then low ≤ k * cell && k * cell ≤ high else low < k * cell && k * cell < high
  let k := mid / cell
  let below := mid - k * cell
  let above := (k + 1) * cell - mid
  if inside k && k != 0 && (!inside (k + 1) || below < above || (below == above && k % 2 == 0)) then
    some ⟨k, g⟩
  else if inside (k + 1) then some ⟨k + 1, g⟩
  else none

/-- Trailing zeros of the coefficient move into the exponent. -/
def trimZeros (d : Decimal) : Decimal :=
  let ds := Nat.toDigits 10 d.coefficient
  let zeros := (ds.reverse.takeWhile (· == '0')).length
  if d.coefficient = 0 then ⟨0, 0⟩ else ⟨d.coefficient / Nat.pow 10 zeros, d.exponent + zeros⟩

/-- The decimal of fewest digits that reads back as the positive double. -/
def shortest (b : BinaryFraction) : Decimal :=
  let i := Interval.ofFraction b
  let lead := leadingExponent i.mid i.unit
  let grids := (List.range 17).map fun (n : Nat) => lead - (n : Int)
  ((grids.findSome? i.onGrid?).getD ⟨0, 0⟩).trimZeros

end Decimal

end RouteAtlas.Number
