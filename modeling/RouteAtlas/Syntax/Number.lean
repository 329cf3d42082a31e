import RouteAtlas.Syntax.Token
import RouteAtlas.Number.Decimal
import RouteAtlas.Text.CharClass

/-!
# Number literals

Decimal, hexadecimal, octal and binary integers, floats and imaginary numbers. Digits may be apart by
single underscores, a decimal integer other than zero may not begin with zero, and what follows a
number may not continue it as a word would, unless it begins one of a few keywords.
-/

namespace RouteAtlas.Syntax

open RouteAtlas.Text RouteAtlas.Number

/-- The digits that follow a digit, apart by single underscores, without the underscores, and the
rest. Nothing if an underscore is not followed by a digit. -/
def moreDigits (base : Nat) : List Char → Option (List Char × List Char)
  | [] => some ([], [])
  | c :: r =>
    if isDigitIn base c then (moreDigits base r).map fun (ds, rest) => (c :: ds, rest)
    else if c == '_' then
      match r with
      | [] => none
      | d :: r₂ =>
        if isDigitIn base d then (moreDigits base r₂).map fun (ds, rest) => (d :: ds, rest) else none
    else some ([], c :: r)

/-- The digits at the start of a text, apart by single underscores, and the rest. -/
def digitRun (base : Nat) (cs : List Char) : Option (List Char × List Char) :=
  if cs.head?.any (isDigitIn base) then moreDigits base cs else some ([], cs)

/-- A character that could continue a word. -/
def couldContinueWord (c : Char) : Bool :=
  isAsciiLetter c || isAsciiDigit c || c == '_' || 128 ≤ c.toNat

/-- Words that may follow a number without a blank. -/
def wordsAfterNumber : List String := ["and", "else", "for", "if", "in", "is", "or", "not"]

/-- A number may end before this text. -/
def mayEndBefore (cs : List Char) : Bool :=
  match cs with
  | [] => true
  | c :: _ => wordsAfterNumber.any (·.toList.isPrefixOf cs) || !couldContinueWord c

/-- A number with what follows it, if it may end there. -/
def endNumber (c : Constant) (rest : List Char) : Option (Constant × List Char) :=
  if mayEndBefore rest then some (c, rest) else none

/-- An integer in a base other than ten, after its two mark characters. -/
def basedNumber (base : Nat) (cs : List Char) : Option (Constant × List Char) :=
  let cs := match cs with
    | '_' :: r => r
    | r => r
  match digitRun base cs with
  | some (ds, rest) =>
    if ds.isEmpty ∨ rest.head?.any isAsciiDigit then none
    else endNumber (.int (ofDigits base ds)) rest
  | none => none

/-- The exponent after a number: its value and the rest. An `e` without digits after it is none. -/
def exponentPart (cs : List Char) : Option (Option Int × List Char) :=
  match cs with
  | e :: r =>
    if e == 'e' || e == 'E' then
      let (negative, ds) := cutSign r
      if ds.head?.any isAsciiDigit then
        (digitRun 10 ds).map fun (ds, rest) =>
          let n : Int := ofDigits 10 ds
          (some (if negative then -n else n), rest)
      else if r.head?.any fun c => c == '+' || c == '-' then none
      else some (none, cs)
    else some (none, cs)
  | [] => some (none, cs)

/-- What follows the whole part `whole` of a decimal number. -/
def afterWhole (whole : List Char) (cs : List Char) : Option (Constant × List Char) :=
  let pointed := cs.head? = some '.'
  match (if pointed then
      let r := cs.drop 1
      if r.head?.any isAsciiDigit then digitRun 10 r else some ([], r)
    else some ([], cs)) with
  | none => none
  | some (fraction, r) =>
    match exponentPart r with
    | none => none
    | some (power, r) =>
      let value := Decimal.toFloat ⟨ofDigits 10 (whole ++ fraction), power.getD 0 - fraction.length⟩
      match r with
      | j :: t =>
        if j == 'j' || j == 'J' then endNumber (.imaginary value) t
        else if pointed || power.isSome then endNumber (.float value) r
        else wholeNumber r
      | [] => if pointed || power.isSome then endNumber (.float value) r else wholeNumber r
where
  /-- A decimal integer. -/
  wholeNumber (r : List Char) : Option (Constant × List Char) :=
    if maxDecimalDigits < whole.length && whole.any (· != '0') then none
    else if whole.head? = some '0' && whole.any (· != '0') then none
    else endNumber (.int (ofDigits 10 whole)) r

/-- Reads a number at the start of a text that begins with a digit, or with a point and a digit. -/
def numberAt (cs : List Char) : Option (Constant × List Char) :=
  match cs with
  | '0' :: x :: r =>
    if x == 'x' || x == 'X' then basedNumber 16 r
    else if x == 'o' || x == 'O' then basedNumber 8 r
    else if x == 'b' || x == 'B' then basedNumber 2 r
    else decimal
  | _ => decimal
where
  /-- A number in base ten. -/
  decimal : Option (Constant × List Char) :=
    match digitRun 10 cs with
    | none => none
    | some (whole, rest) => afterWhole whole rest

end RouteAtlas.Syntax
