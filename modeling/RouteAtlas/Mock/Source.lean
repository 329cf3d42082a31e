/-!
# The source of random values

A source draws numbers and texts. It stands for the library of fake data that a generator is handed: each
value asked of that library is one number or one text here. Its state is explicit: how many draws and
texts it has given, the seed if it has one, the numbers it is scripted with, and its locale. A seeded
source follows a linear congruential sequence; a scripted one repeats its script; any other counts up
from zero.

No clock is read: what a source gives is a function of its state. The theory relies on no sequence in
particular, only on the laws of `SourceLaws`: any numbers can come next, a text taken in between leaves
them as they are, and a seed settles all that follows it.
-/

namespace RouteAtlas.Mock

/-- The state of a source of random values. -/
structure Source where
  draws : Nat := 0
  texts : Nat := 0
  seed : Option Nat := none
  script : List Nat := []
  locale : String := "-"
deriving Repr, BEq, Inhabited

/-- A draw asks for an element of an empty list. -/
inductive MockFault where
  | emptyChoice
deriving Repr, DecidableEq, Inhabited

/-- A computation that draws from a source and may fail; the source stays advanced after a failure. -/
abbrev Gen := ExceptT MockFault (StateM Source)

namespace Source

/-- The modulus of seeds. -/
def modulus : Nat := Nat.pow 2 31

/-- The source with a seed. -/
def seeded (s : Source) (n : Int) : Source := { s with seed := some (n % modulus).toNat }

/-- The next number, and the source after it. -/
def draw (s : Source) : Nat × Source :=
  match s.seed with
  | some n =>
    let n := (n * 1103515245 + 12345) % modulus
    (n / Nat.pow 2 16, { s with draws := s.draws + 1, seed := some n })
  | none =>
    let n := if s.script.isEmpty then s.draws else s.script.getD (s.draws % s.script.length) 0
    (n, { s with draws := s.draws + 1 })

/-- The number of the next text, and the source after it. -/
def nextText (s : Source) : Nat × Source := (s.texts, { s with texts := s.texts + 1 })

end Source

namespace Gen

/-- The next number. -/
def draw : Gen Nat := do
  let (n, s) := (← get).draw
  set s
  return n

/-- The number of the next text. -/
def nextText : Gen Nat := do
  let (n, s) := (← get).nextText
  set s
  return n

/-- A number between two bounds, both included. -/
def between (low high : Nat) : Gen Nat := do return low + (← draw) % (high - low + 1)

/-- One of the elements. -/
def element (xs : List String) : Gen String := do
  let n ← draw
  match xs[n % xs.length]? with
  | some x => return x
  | none => throw .emptyChoice

/-- A truth value: whether the next number is odd. -/
def bool : Gen Bool := do return (← draw) % 2 == 1

/-- A text made of its kind and its number. -/
def numbered (kind : String) : Gen String := do return s!"{kind}{← nextText}"

/-- A person's name, which depends on the locale. -/
def personName : Gen String := do
  let k ← nextText
  return s!"name{k} {(← get).locale}"

/-- Texts that share one number. -/
def several (kind : String) (count : Nat) : Gen String := do
  let k ← nextText
  return " ".intercalate ((List.range count).map fun i => s!"{kind}{k}.{i}")

end Gen

end RouteAtlas.Mock
