import RouteAtlas.Api.TypeShape
import RouteAtlas.Document.Literal
import RouteAtlas.Mock.Source
import RouteAtlas.Text.LetterCase

/-!
# Mock values

`generate` makes a plausible value of a type: arrays of one to five items, objects whose optional
properties come and go, members of unions, and leaves that follow the property's name where it says
more than the type does. Two ladders of words, one over names and one over types, decide; the first
word that occurs wins.
-/

namespace RouteAtlas.Mock

open RouteAtlas.Api RouteAtlas.Document RouteAtlas.Syntax RouteAtlas.Text

/-- The words that mark a type as a number. -/
def numberWords : List String := ["int", "float", "decimal", "number"]

/-- A type's name marks it as a number. -/
def isNumeric (typeName : String) : Bool := mentionsAny (lowercase typeName) numberWords

/-- The day after a day. -/
def nextDay (d : Day) : Day :=
  if d.day < daysInMonth d.year d.month then { d with day := d.day + 1 }
  else if d.month < 12 then ⟨d.year, d.month + 1, 1⟩
  else ⟨d.year + 1, 1, 1⟩

/-- The moment some seconds after the start of 2020. -/
def momentAfter (seconds : Nat) : Moment :=
  let t := seconds % 86400
  .dateTime (Nat.repeat nextDay (seconds / 86400) ⟨2020, 1, 1⟩)
    ⟨t / 3600, t / 60 % 60, t % 60, 0, none⟩

/-- A text of a kind. -/
def mockText (kind : String) : Gen Value := do return .str (← Gen.numbered kind)

/-- A date with time. -/
def mockMoment : Gen Value := do return .str (momentAfter (← Gen.nextText)).isoText

/-- A value for a type by its name alone. -/
def mockForType (typeName : String) : Gen Value := do
  match literalValue? typeName with
  | some v => return .ofScalar v
  | none =>
    let lower := lowercase typeName
    if lower = "none" then return .null
    else if mentions lower "str" then return .str (← Gen.several "word" 3)
    else if mentions lower "bool" then return .bool (← Gen.bool)
    else if isNumeric lower then return .int (← Gen.between 1 100)
    else if mentionsAny lower ["date", "time"] then mockMoment
    else if mentions lower "uuid" then mockText "uuid4"
    else mockText "word"

/-- A value for a leaf by the name of its property, in lower case, and then by its type. -/
def mockForName (name typeName : String) : Gen Value := do
  let numeric := isNumeric typeName
  if mentions name "email" then mockText "email"
  else if mentions name "name" then return .str (← Gen.personName)
  else if mentionsAny name ["phone", "mobile", "tel"] then mockText "phone_number"
  else if mentionsAny name ["address", "street"] then mockText "street_address"
  else if mentions name "city" then mockText "Zürich"
  else if mentions name "country" then mockText "国🌍"
  else if mentionsAny name ["url", "website"] then mockText "url"
  else if mentions name "id" && numeric then return .int (← Gen.between 1 1000)
  else if mentions name "age" && numeric then return .int (← Gen.between 18 80)
  else if mentionsAny name ["date", "created", "updated"] then mockMoment
  else if mentionsAny name ["description", "bio"] then return .str (← Gen.several "Sentence" 3)
  else if mentions name "title" then return .str (← Gen.several "word" 3)
  else mockForType typeName

/-- A value for a leaf. An empty hint is none. -/
def mockLeaf (typeName : String) (hint : Option String) : Gen Value :=
  match hint with
  | some name => if name.isEmpty then mockForType typeName else mockForName (lowercase name) typeName
  | none => mockForType typeName

/-- As many values as asked for. -/
def repeatGen (g : Gen Value) : Nat → Gen (List Value)
  | 0 => return []
  | n + 1 => do return (← g) :: (← repeatGen g n)

mutual

/-- A value of a type; the hint is the name of the property it is for. -/
def generate (hint : Option String) : TypeShape → Gen Value
  | ⟨_, _, _, some items, _, _⟩ => do
    let count ← Gen.between 1 5
    return .list (← repeatGen (generate hint items) count)
  | ⟨_, _, _, none, _, some members⟩ => do mockForType (← Gen.element members)
  | ⟨_, _, _, none, some properties, none⟩ => do
    return .map (ofFields (← generateFields properties))
  | ⟨text, _, _, none, none, none⟩ => mockLeaf text hint

/-- Values for properties, an optional one only if the next draw says so. -/
def generateFields : List (String × TypeShape) → Gen (List (String × Value))
  | [] => return []
  | (name, t) :: r => do
    let present ← if t.isOptional then Gen.bool else pure true
    if present then
      let v ← generate (some name) t
      return (name, v) :: (← generateFields r)
    else generateFields r

end

/-- Runs a generator: the value or fault, and the source after it. -/
def Gen.runFrom {α : Type} (g : Gen α) (s : Source) : Except MockFault α × Source := g.run.run s

end RouteAtlas.Mock
