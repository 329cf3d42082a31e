import RouteAtlas.Text.CompatibleTable
import RouteAtlas.Text.CodeRange

/-!
# The compatible form of identifiers

Two spellings of an identifier are the same name when their normalization forms KC agree.
`compatibleForm` computes that form: decompose, put combining marks into canonical order, compose.
-/

namespace RouteAtlas.Text

/-- The decompositions of `CompatibleTable.spelling`. -/
def compatibleSpellings : List (CodeRange × List Nat) := readSpellings CompatibleTable.spelling

/-- The combining classes other than zero. -/
def combiningClasses : List (CodeRange × List Nat) := readSpellings CompatibleTable.combiningClass

/-- Pairs of code points with their composition. -/
def compositionPairs : List (Nat × Nat × Nat) :=
  (tableEntries CompatibleTable.pairing).filterMap fun cs =>
    let (pair, whole) := cutAt ':' cs
    match (pair.splitOn '.').map hexNumber with
    | [x, y] => some (x, y, hexNumber whole)
    | _ => none

/-- First code point of the Hangul syllables, and of their three kinds of letters. -/
def hangulBase : Nat := 0xac00

/-- A Hangul syllable spelt by its letters, any other code point by the table. -/
def decompose (n : Nat) : List Nat :=
  if hangulBase ≤ n ∧ n < hangulBase + 11172 then
    let i := n - hangulBase
    let letters := [0x1100 + i / 588, 0x1161 + i % 588 / 28]
    if i % 28 = 0 then letters else letters ++ [0x11a7 + i % 28]
  else match compatibleSpellings.find? (·.1.contains n) with
    | some (r, [x]) => [x + (n - r.first)]
    | some (_, spelt) => spelt
    | none => [n]

/-- The combining class of a code point. -/
def combiningClass (n : Nat) : Nat :=
  ((combiningClasses.find? (·.1.contains n)).bind (·.2.head?)).getD 0

/-- Stable insertion of a combining mark before the marks of higher class at the end of the text,
which is held in reverse. -/
def insertMark (n : Nat) (k : Nat) : List Nat → List Nat
  | [] => [n]
  | m :: r => if k < combiningClass m then m :: insertMark n k r else n :: m :: r

/-- Canonical order: each run of combining marks sorted by class. -/
def canonicalOrder (ns : List Nat) : List Nat :=
  (ns.foldl (fun acc n =>
    let k := combiningClass n
    if k = 0 then n :: acc else insertMark n k acc) []).reverse

/-- The composition of two code points. -/
def compose? (x y : Nat) : Option Nat :=
  if 0x1100 ≤ x ∧ x < 0x1113 ∧ 0x1161 ≤ y ∧ y < 0x1176 then
    some (hangulBase + ((x - 0x1100) * 21 + (y - 0x1161)) * 28)
  else if hangulBase ≤ x ∧ x < hangulBase + 11172 ∧ (x - hangulBase) % 28 = 0 ∧
      0x11a8 ≤ y ∧ y < 0x11c3 then
    some (x + (y - 0x11a7))
  else (compositionPairs.find? fun p => p.1 == x && p.2.1 == y).map (·.2.2)

/-- Composition from a starter: `starter` is the last code point of class zero, `marks` what followed
it without joining, newest first. -/
def composeFrom (starter : Nat) (marks : List Nat) : List Nat → List Nat
  | [] => starter :: marks.reverse
  | n :: r =>
    let k := combiningClass n
    let blocked := match marks with
      | [] => false
      | m :: _ => combiningClass m = 0 || k ≤ combiningClass m
    match (if blocked then none else compose? starter n) with
    | some whole => composeFrom whole marks r
    | none =>
      if k = 0 then starter :: (marks.reverse ++ composeFrom n [] r)
      else composeFrom starter (n :: marks) r

/-- Canonical composition. -/
def composeAll : List Nat → List Nat
  | [] => []
  | n :: r => if combiningClass n = 0 then composeFrom n [] r else n :: composeAll r

/-- Normalization form KC of an identifier. -/
def compatibleForm (s : String) : String :=
  if s.toList.all (·.toNat < 128) then s
  else String.ofList
    ((composeAll (canonicalOrder (s.toList.flatMap fun c => decompose c.toNat))).map Char.ofNat)

end RouteAtlas.Text
