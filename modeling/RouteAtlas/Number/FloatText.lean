import RouteAtlas.Number.Decimal

/-!
# The text of a floating-point number

The shortest digits that read back, written positionally while the first digit stands for a power of
ten from `-4` to `15`, and with an exponent of at least two digits otherwise. `FloatText` holds the
choices that differ between the formats that print numbers.
-/

namespace RouteAtlas.Number

/-- How a format spells doubles beyond their digits. -/
structure FloatText where
  /-- Whole numbers keep `.0`. -/
  wholePoint : Bool
  /-- A single digit before an exponent keeps `.0`. -/
  exponentPoint : Bool
  infinite : String
  negativeInfinite : String
  notANumber : String

namespace FloatText

/-- `1.0`, `1e+16`, `inf`: source text and plain text. -/
def plain : FloatText := ⟨true, false, "inf", "-inf", "nan"⟩

/-- `1`, `1e+16`: the digits of an imaginary number. -/
def imaginary : FloatText := ⟨false, false, "inf", "-inf", "nan"⟩

/-- `1.0`, `1e+16`, `Infinity`: JSON. -/
def json : FloatText := ⟨true, false, "Infinity", "-Infinity", "NaN"⟩

/-- `1.0`, `1.0e+16`, `.inf`: YAML. -/
def yaml : FloatText := ⟨true, true, ".inf", "-.inf", ".nan"⟩

/-- The text of the positive decimal with the digits `ds`, the first of which stands for
`10 ^ lead`. -/
def ofDigits (style : FloatText) (ds : List Char) (lead : Int) : List Char :=
  if -4 ≤ lead ∧ lead < 16 then
    match lead with
    | .ofNat l =>
      let whole := ds.take (l + 1)
      let whole := whole ++ List.replicate (l + 1 - whole.length) '0'
      let rest := ds.drop (l + 1)
      if rest.isEmpty then (if style.wholePoint then whole ++ ['.', '0'] else whole)
      else whole ++ '.' :: rest
    | .negSucc l => ['0', '.'] ++ List.replicate l '0' ++ ds
  else
    let rest := ds.drop 1
    let mantissa :=
      if rest.isEmpty then (if style.exponentPoint then ds ++ ['.', '0'] else ds)
      else ds.take 1 ++ '.' :: rest
    let power := Nat.toDigits 10 lead.natAbs
    let power := List.replicate (2 - power.length) '0' ++ power
    mantissa ++ ['e', if lead < 0 then '-' else '+'] ++ power

/-- The text of a finite double. -/
def writeFinite (style : FloatText) (b : BinaryFraction) : String :=
  let body :=
    if b.significand = 0 then style.ofDigits ['0'] 0
    else
      let d := Decimal.shortest b
      let ds := Nat.toDigits 10 d.coefficient
      style.ofDigits ds (d.exponent + ds.length - 1)
  String.ofList (if b.negative then '-' :: body else body)

/-- The text of a double. -/
def write (style : FloatText) (x : Float) : String :=
  match BinaryFraction.ofFloat? x with
  | none =>
    if x.isNaN then style.notANumber
    else if signBit x then style.negativeInfinite else style.infinite
  | some b => style.writeFinite b

end FloatText

end RouteAtlas.Number
