import RouteAtlas.Text.CharNames.Aliases
import RouteAtlas.Text.CharNames.From0000
import RouteAtlas.Text.CharNames.From1F00
import RouteAtlas.Text.CharNames.FromA000
import RouteAtlas.Text.CharNames.From16000
import RouteAtlas.Text.CodeRange
import RouteAtlas.Text.Cut

/-!
# Characters by name

`codeOfName?` finds the code point of a name or alias. Syllables of Hangul and unified ideographs are
named by rules, a few other scripts by their code points, and all else by tables. Where a table or a
code point decides, capital and small letters count alike.
-/

namespace RouteAtlas.Text

namespace CharNames

/-- The tables of names. -/
def tables : List String :=
  [aliases, from0000, from1000, from1F00, from2B00, fromA000, from10000, from11000, from12000,
    from13000, from16000, from1B000, from1D400, from1E000, from1F500]

/-- An entry of a table, `@41 3A` or `3A`: a code point unless it follows that of the entry before, how
many words the name shares with the name before, and the other words. -/
structure Entry where
  code : Nat
  words : List String
deriving Repr, DecidableEq, Inhabited

/-- The entry before the first one. -/
def Entry.first : Entry := ⟨0, []⟩

/-- The code point at the start of an entry, and the rest. -/
def entryCode (before : Entry) : List Char → Nat × List Char
  | '@' :: r => let (code, r) := cutAt ' ' r; (hexNumber code, r)
  | r => (before.code + 1, r)

/-- An entry after another one. -/
def Entry.after (before : Entry) (cs : List Char) : Entry :=
  match entryCode before cs with
  | (code, []) => ⟨code, []⟩
  | (code, c :: r) =>
    ⟨code, before.words.take ((digit? 10 c).getD 0) ++ splitAt ' ' (String.ofList r)⟩

/-- The code point of the first entry with these words. -/
def findWords? (words : List String) (before : Entry) : List (List Char) → Option Nat
  | [] => none
  | cs :: r =>
    let e := Entry.after before cs
    if e.words == words then some e.code else findWords? words e r

/-- The entries of a table. -/
def entriesOf (table : String) : List (List Char) :=
  ((table.toList.filter (· != '\n')).splitOn ';').filter (!·.isEmpty)

/-- The code point of a name in the tables. -/
def inTables? (name : String) : Option Nat :=
  tables.findSome? fun table => findWords? (splitAt ' ' name) Entry.first (entriesOf table)

end CharNames

/-- Names made of a stem and a code point, with the code points that have them. -/
def codedNames : List (String × List CodeRange) := [
  ("CJK COMPATIBILITY IDEOGRAPH-", [⟨0xf900, 0xfa6d⟩, ⟨0xfa70, 0xfad9⟩, ⟨0x2f800, 0x2fa1d⟩]),
  ("KHITAN SMALL SCRIPT CHARACTER-", [⟨0x18b00, 0x18cd5⟩]),
  ("NUSHU CHARACTER-", [⟨0x1b170, 0x1b2fb⟩])]

/-- The code point that capital hexadecimal digits spell in their shortest form, at least four. -/
def capitalCode? (cs : List Char) : Option Nat := do
  let n ← ofDigits? 16 cs
  if cs.all (fun c => !('a' ≤ c && c ≤ 'f')) then some n else none

/-- The code point of a name made of a stem and a code point. -/
def codedName? (name : String) : Option Nat :=
  codedNames.findSome? fun (stem, ranges) => do
    let digits ← dropInitial? stem.toList name.toList
    let n ← capitalCode? digits
    if CodeRange.anyContains ranges n && digits.head? != some '0' then some n else none

/-- The unified ideographs. -/
def ideographRanges : List CodeRange :=
  [⟨0x3400, 0x4dbf⟩, ⟨0x4e00, 0x9fff⟩, ⟨0x20000, 0x2a6df⟩, ⟨0x2a700, 0x2b738⟩,
    ⟨0x2b740, 0x2b81d⟩, ⟨0x2b820, 0x2cea1⟩, ⟨0x2ceb0, 0x2ebe0⟩, ⟨0x30000, 0x3134a⟩]

/-- The unified ideograph of four or five capital hexadecimal digits. -/
def ideograph? (digits : List Char) : Option Nat := do
  let n ← capitalCode? digits
  if (digits.length = 4 || digits.length = 5) && CodeRange.anyContains ideographRanges n
    then some n else none

/-! ## Syllables -/

/-- The names of initial consonants. -/
def leadingSounds : List String :=
  ["G", "GG", "N", "D", "DD", "R", "M", "B", "BB", "S", "SS", "", "J", "JJ", "C", "K", "T", "P", "H"]

/-- The names of vowels. -/
def vowelSounds : List String :=
  ["A", "AE", "YA", "YAE", "EO", "E", "YEO", "YE", "O", "WA", "WAE", "OE", "YO", "U", "WEO", "WE",
    "WI", "YU", "EU", "YI", "I"]

/-- The names of final consonants. -/
def trailingSounds : List String :=
  ["", "G", "GG", "GS", "N", "NJ", "NH", "D", "L", "LG", "LM", "LB", "LS", "LT", "LP", "LH", "M",
    "B", "BS", "S", "SS", "NG", "J", "C", "K", "T", "P", "H"]

/-- The longest of these names at the start of a text: its number, and the rest of the text. -/
def longestSound? (names : List String) (cs : List Char) : Option (Nat × List Char) :=
  let found := names.zipIdx.filterMap fun (name, i) =>
    (dropInitial? name.toList cs).map fun r => (i, r)
  found.foldl (fun best x =>
    match best with
    | none => some x
    | some b => if x.2.length < b.2.length then some x else some b) none

/-- The syllable of three sounds. -/
def syllable? (cs : List Char) : Option Nat := do
  let (l, cs) ← longestSound? leadingSounds cs
  let (v, cs) ← longestSound? vowelSounds cs
  let (t, cs) ← longestSound? trailingSounds cs
  if cs.isEmpty then
    some (0xac00 + (l * vowelSounds.length + v) * trailingSounds.length + t)
  else none

/-- The letters from a to z as capitals. -/
def asciiCapitals (cs : List Char) : List Char :=
  cs.map fun c => if 'a' ≤ c && c ≤ 'z' then Char.ofNat (c.toNat - 32) else c

/-- The code point of a name. -/
def codeOfName? (name : List Char) : Option Nat :=
  match dropInitial? "HANGUL SYLLABLE ".toList name with
  | some sounds => syllable? sounds
  | none =>
    match dropInitial? "CJK UNIFIED IDEOGRAPH-".toList name with
    | some digits => ideograph? digits
    | none =>
      let name := String.ofList (asciiCapitals name)
      (codedName? name).or (CharNames.inTables? name)

end RouteAtlas.Text
