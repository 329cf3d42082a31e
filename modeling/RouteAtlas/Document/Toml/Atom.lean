import RouteAtlas.Document.Toml.Quoted
import RouteAtlas.Number.NumberText

/-!
# TOML numbers and moments

Numbers and moments are told apart by their shape: a date comes first, then a time of day, then a
number in decimal or another base, then the numbers without digits. What follows them is left for the
reader of the line.
-/

namespace RouteAtlas.Document.Toml

open RouteAtlas.Number RouteAtlas.Text Reading

/-- Two digits with a value between bounds. -/
def twoDigits? (low high : Nat) : List Char → Option (Nat × List Char)
  | a :: b :: r =>
    match ofDigits? 10 [a, b] with
    | some n => if low ≤ n ∧ n ≤ high then some (n, r) else none
    | none => none
  | _ => none

/-- The character, then whatever comes. -/
def after? (c : Char) : List Char → Option (List Char)
  | d :: r => if c == d then some r else none
  | [] => none

/-- A fraction of a second in microseconds. -/
def cutFraction (cs : List Char) : Nat × List Char :=
  match cs with
  | '.' :: r =>
    let ds := r.takeWhile isAsciiDigit
    if ds.isEmpty then (0, cs)
    else (ofDigits 10 ((ds ++ ['0', '0', '0', '0', '0', '0']).take 6), r.drop ds.length)
  | _ => (0, cs)

/-- A time of day. -/
def cutTime? (cs : List Char) : Option (Clock × List Char) := do
  let (hour, r) ← twoDigits? 0 23 cs
  let r ← after? ':' r
  let (minute, r) ← twoDigits? 0 59 r
  let r ← after? ':' r
  let (second, r) ← twoDigits? 0 59 r
  let (micro, r) := cutFraction r
  return (⟨hour, minute, second, micro, none⟩, r)

/-- A date. -/
def cutDate? (cs : List Char) : Option (Day × List Char) := do
  let year := cs.take 4
  let y ← if year.length = 4 then ofDigits? 10 year else none
  let r ← after? '-' (cs.drop 4)
  let (m, r) ← twoDigits? 1 12 r
  let r ← after? '-' r
  let (d, r) ← twoDigits? 1 31 r
  return (⟨y, m, d⟩, r)

/-- A signed distance from universal time. -/
def cutDistance? (cs : List Char) : Option (Int × List Char) := do
  let (hours, r) ← twoDigits? 0 23 cs
  let r ← after? ':' r
  let (minutes, r) ← twoDigits? 0 59 r
  return (hours * 3600 + minutes * 60, r)

/-- A distance from universal time, if one comes. -/
def cutOffset (cs : List Char) : Option Int × List Char :=
  match cs with
  | 'Z' :: r => (some 0, r)
  | 'z' :: r => (some 0, r)
  | '+' :: r => ((cutDistance? r).map fun (n, r) => (some n, r)).getD (none, cs)
  | '-' :: r => ((cutDistance? r).map fun (n, r) => (some (-n), r)).getD (none, cs)
  | _ => (none, cs)

/-- The time after a date, if one comes. -/
def cutDateTime? (cs : List Char) : Option (Clock × List Char) :=
  match cs with
  | c :: r =>
    if c == 'T' || c == 't' || c == ' ' then do
      let (clock, r) ← cutTime? r
      let (offset, r) := cutOffset r
      return ({ clock with offset }, r)
    else none
  | [] => none

/-- A moment, if one comes. -/
def cutMoment? (cs : List Char) : Option (Moment × List Char) :=
  match cutDate? cs with
  | some (day, r) =>
    match cutDateTime? r with
    | some (clock, r) => some (.dateTime day clock, r)
    | none => some (.date day, r)
  | none => (cutTime? cs).map fun (clock, r) => (.time clock, r)

/-- The day of a moment exists. -/
def hasDay : Moment → Bool
  | .date d => d.isValid
  | .time _ => true
  | .dateTime d _ => d.isValid

/-- Digits with single underscores between them. -/
def digitRun (isDigit : Char → Bool) : List Char → List Char
  | c :: '_' :: d :: r =>
    if isDigit c then (if isDigit d then c :: '_' :: digitRun isDigit (d :: r) else [c]) else []
  | c :: r => if isDigit c then c :: digitRun isDigit r else []
  | [] => []

/-- A number in a base other than ten. -/
def cutBased? (cs : List Char) : Option (Int × List Char) :=
  match cs with
  | '0' :: m :: r =>
    let base := if m == 'x' then 16 else if m == 'b' then 2 else if m == 'o' then 8 else 0
    let run := digitRun (isDigitIn base) r
    if run.isEmpty then none
    else some (ofDigits base (run.filter (· != '_')), r.drop run.length)
  | _ => none

/-- The whole part of a decimal number: zero, or digits without a leading zero. -/
def wholePart (cs : List Char) : List Char :=
  match cs with
  | '0' :: _ => ['0']
  | _ => digitRun isAsciiDigit cs

/-- The fraction of a decimal number, if one comes. -/
def fractionPart (cs : List Char) : List Char :=
  match cs with
  | '.' :: r =>
    let run := digitRun isAsciiDigit r
    if run.isEmpty then [] else '.' :: run
  | _ => []

/-- The exponent of a decimal number, if one comes. -/
def exponentPart (cs : List Char) : List Char :=
  match cs with
  | e :: r =>
    if e == 'e' || e == 'E' then
      let sign := r.take (if r.head? == some '+' || r.head? == some '-' then 1 else 0)
      let run := digitRun isAsciiDigit (r.drop sign.length)
      if run.isEmpty then [] else e :: (sign ++ run)
    else []
  | [] => []

/-- A decimal number: its sign and whole part, its fraction with exponent, and the rest. -/
def cutDecimal? (cs : List Char) : Option (List Char × List Char × List Char) :=
  let sign := cs.take (if cs.head? == some '+' || cs.head? == some '-' then 1 else 0)
  let r := cs.drop sign.length
  let whole := wholePart r
  if whole.isEmpty then none
  else
    let r := r.drop whole.length
    let fraction := fractionPart r
    let r := r.drop fraction.length
    let power := exponentPart r
    some (sign ++ whole, fraction ++ power, r.drop power.length)

/-- The numbers without digits. -/
def namedNumbers : List (String × Float) :=
  [("inf", infinity), ("nan", 0.0 / 0.0), ("-inf", -infinity), ("+inf", infinity),
    ("-nan", 0.0 / 0.0), ("+nan", 0.0 / 0.0)]

/-- A moment or a number. -/
def readAtom : Reading Value := do
  let cs ← get
  match cutMoment? cs, cutBased? cs, cutDecimal? cs with
  | some (m, r), _, _ =>
    if !hasDay m then fail
    set r
    return .moment m
  | none, some (n, r), _ =>
    set r
    return .int n
  | none, none, some (whole, [], r) =>
    match intOfText? 10 (String.ofList whole) with
    | none => throw .longInteger
    | some n =>
      set r
      return .int n
  | none, none, some (whole, part, r) =>
    match floatOfText? (String.ofList (whole ++ part)) with
    | none => fail
    | some x =>
      set r
      return .float x
  | none, none, none =>
    match namedNumbers.find? fun (name, _) => name.toList.isPrefixOf cs with
    | none => fail
    | some (name, x) =>
      skip name.length
      return .float x

end RouteAtlas.Document.Toml
