import RouteAtlas.Number.Decimal
import RouteAtlas.Text.Cut
import RouteAtlas.Text.Digits

/-!
# Numbers in free texts

Reading an integer or a floating-point number from a text as people write it: blanks around it, a sign,
digits of any script, and single underscores between digits.
-/

namespace RouteAtlas.Number

open RouteAtlas.Text

/-- Decimal digits of all scripts as ASCII digits; all else as it is. -/
def plainDigits (cs : List Char) : List Char :=
  cs.map fun c => ((decimalDigit? c).map fun n => Char.ofNat (48 + n)).getD c

/-- The digits of a number without the single underscores between them. -/
def joinedDigits? (isDigit : Char → Bool) : List Char → Option (List Char)
  | [] => some []
  | '_' :: c :: r => if isDigit c then (joinedDigits? isDigit r).map (c :: ·) else none
  | c :: r => if isDigit c then (joinedDigits? isDigit r).map (c :: ·) else none

/-- The mark before digits in a base. -/
def baseMark? (base : Nat) : Option Char :=
  if base = 2 then some 'b' else if base = 8 then some 'o' else if base = 16 then some 'x' else none

/-- Drops the mark of the base, if it is there. -/
def cutBaseMark (base : Nat) (cs : List Char) : List Char :=
  match cs with
  | '0' :: m :: r =>
    if some m.toLower = baseMark? base then (match r with
      | '_' :: t => t
      | t => t)
    else cs
  | _ => cs

/-- The integer that a text spells in a base. -/
def intOfText? (base : Nat) (s : String) : Option Int :=
  let (negative, cs) := cutSign (plainDigits (trim isBlank s.toList))
  match cutBaseMark base cs with
  | '_' :: _ => none
  | cs =>
    match joinedDigits? (isDigitIn base) cs with
    | none => none
    | some ds =>
      if ds.isEmpty || (base == 10 && maxDecimalDigits < ds.length) then none
      else some (if negative then -(ofDigits base ds : Int) else ofDigits base ds)

/-- A run of digits at the front, underscores dropped, and the rest. -/
def cutDigits (cs : List Char) : List Char × List Char :=
  let run := cs.takeWhile fun c => isAsciiDigit c || c == '_'
  (run, cs.drop run.length)

/-- The exponent at the end of a number. -/
def exponentOf? : List Char → Option Int
  | [] => some 0
  | e :: r =>
    if e == 'e' || e == 'E' then
      let (negative, ds) := cutSign r
      if ds.isEmpty || ds.head? == some '_' then none
      else (joinedDigits? isAsciiDigit ds).map fun ds =>
        if negative then -(ofDigits 10 ds : Int) else ofDigits 10 ds
    else none

/-- The names of the numbers that have no digits. -/
def namedFloats : List (String × Float) :=
  [("inf", infinity), ("infinity", infinity), ("nan", 0.0 / 0.0)]

/-- The digits of a part of a number: nothing, or digits that no underscore leads or ends. -/
def partDigits? (cs : List Char) : Option (List Char) :=
  if cs.head? == some '_' then none else joinedDigits? isAsciiDigit cs

/-- The number that digits, a fraction and an exponent spell. -/
def decimalOfText? (cs : List Char) : Option Float :=
  let (whole, r) := cutDigits cs
  let (fraction, r) := match r with
    | '.' :: t => cutDigits t
    | t => ([], t)
  match partDigits? whole, partDigits? fraction, exponentOf? r with
  | some whole, some fraction, some power =>
    let ds := whole ++ fraction
    if ds.isEmpty then none
    else some (Decimal.toFloat ⟨ofDigits 10 ds, power - fraction.length⟩)
  | _, _, _ => none

/-- The floating-point number that a text spells. -/
def floatOfText? (s : String) : Option Float :=
  let (negative, cs) := cutSign (plainDigits (trim isBlank s.toList))
  let named := namedFloats.find? (·.1.toList == cs.map Char.toLower)
  ((named.map (·.2)).or (decimalOfText? cs)).map fun x => if negative then -x else x

end RouteAtlas.Number
