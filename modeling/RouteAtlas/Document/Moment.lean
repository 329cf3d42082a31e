import RouteAtlas.Text.Digits

/-!
# Dates and times

A point in calendar or clock time as configuration files write it, and its ISO text.
-/

namespace RouteAtlas.Document

open RouteAtlas.Text

/-- A day of the Gregorian calendar. -/
structure Day where
  year : Nat
  month : Nat
  day : Nat
deriving Repr, DecidableEq, Inhabited

/-- A time of day with microseconds, and its distance from universal time in seconds if known. -/
structure Clock where
  hour : Nat
  minute : Nat
  second : Nat
  microsecond : Nat
  offset : Option Int
deriving Repr, DecidableEq, Inhabited

/-- A day, a time of day, or both. -/
inductive Moment where
  | date (d : Day)
  | time (t : Clock)
  | dateTime (d : Day) (t : Clock)
deriving Repr, DecidableEq, Inhabited

/-- A leap year of the Gregorian calendar. -/
def isLeapYear (y : Nat) : Bool := y % 4 == 0 && (y % 100 != 0 || y % 400 == 0)

/-- How many days a month has. -/
def daysInMonth (y m : Nat) : Nat :=
  if m = 2 then (if isLeapYear y then 29 else 28)
  else if [4, 6, 9, 11].contains m then 30 else 31

/-- The day exists. -/
def Day.isValid (d : Day) : Bool :=
  1 ≤ d.year && d.year ≤ 9999 && 1 ≤ d.month && d.month ≤ 12 && 1 ≤ d.day &&
    d.day ≤ daysInMonth d.year d.month

/-- The time of day exists, and its offset is less than a day. -/
def Clock.isValid (t : Clock) : Bool :=
  t.hour < 24 && t.minute < 60 && t.second < 60 && t.microsecond < 1000000 &&
    t.offset.all fun o => -86400 < o && o < 86400

/-- `2020-01-31`. -/
def Day.text (d : Day) : String :=
  String.ofList (paddedText 4 d.year ++ '-' :: paddedText 2 d.month ++ '-' :: paddedText 2 d.day)

/-- `+01:00`, with seconds only where there are any. -/
def offsetText (o : Int) : List Char :=
  let n := o.natAbs
  let seconds := if n % 60 = 0 then [] else ':' :: paddedText 2 (n % 60)
  (if o < 0 then '-' else '+') :: paddedText 2 (n / 3600) ++ ':' :: paddedText 2 (n / 60 % 60) ++
    seconds

/-- `07:32:00.500000+01:00`; the fraction only where it is not zero, the offset only if known. -/
def Clock.text (t : Clock) : String :=
  let fraction := if t.microsecond = 0 then [] else '.' :: paddedText 6 t.microsecond
  String.ofList (paddedText 2 t.hour ++ ':' :: paddedText 2 t.minute ++ ':' :: paddedText 2 t.second ++
    fraction ++ (t.offset.map offsetText).getD [])

/-- The ISO text of a moment, with the given mark between day and time. -/
def Moment.text (mark : Char) : Moment → String
  | .date d => d.text
  | .time t => t.text
  | .dateTime d t => d.text ++ mark.toString ++ t.text

/-- The ISO text of a moment. -/
def Moment.isoText (m : Moment) : String := m.text 'T'

end RouteAtlas.Document
