import RouteAtlas.Document.Moment
import RouteAtlas.Text.SurrogateText

/-!
# Document values

`Value` is what documents and configuration data are made of: scalars, lists, and maps that keep the
order of their fields. Moments and bytes occur in configuration only; a foreign value is one that no
document can hold. `setField` and `ofFields` write a map as repeated assignment does: a later value of
a field replaces the earlier one in its place. `Value.allLeaves` tests the values that are neither list
nor map, wherever they stand.
-/

namespace RouteAtlas.Document

open RouteAtlas.Text

/-- A document value. -/
inductive Value where
  | null
  | bool (b : Bool)
  | int (n : Int)
  | float (x : Float)
  | str (s : String)
  /-- A text with surrogates. -/
  | surrogate (t : SurrogateText)
  | list (items : List Value)
  | map (fields : List (String × Value))
  | moment (m : Moment)
  | bytes (bs : List UInt8)
  /-- A value of the named kind that has no text. -/
  | foreign (kind : String)
deriving Inhabited, BEq, Repr

/-- Sets a field of an ordered map: in its place if it is there, else at the end. -/
def setField {α : Type} (name : String) (v : α) : List (String × α) → List (String × α)
  | [] => [(name, v)]
  | (k, w) :: r => if k = name then (k, v) :: r else (k, w) :: setField name v r

/-- The ordered map that a sequence of assignments leaves. -/
def ofFields {α : Type} (fields : List (String × α)) : List (String × α) :=
  fields.foldl (fun m f => setField f.1 f.2 m) []

/-- The value of a field. -/
def field? {α : Type} (name : String) (fields : List (String × α)) : Option α :=
  (fields.find? (·.1 == name)).map (·.2)

namespace Value

/-- The value of a map's field; other values have no fields. -/
def get? (name : String) : Value → Option Value
  | .map fields => field? name fields
  | _ => none

/-- The fields of a map. -/
def fields? : Value → Option (List (String × Value))
  | .map fields => some fields
  | _ => none

/-- The text of these code points. -/
def ofCodes (codes : List Nat) : Value :=
  match SurrogateText.ofCodes? codes with
  | some t => .surrogate t
  | none => .str (String.ofList (codes.map Char.ofNat))

/-- A list of texts. -/
def strings (xs : List String) : Value := .list (xs.map .str)

/-- The value counts as absent: null, false, zero or empty. -/
def isEmpty : Value → Bool
  | .null => true
  | .bool b => !b
  | .int n => n == 0
  | .float x => x == 0.0
  | .str s => s.isEmpty
  | .surrogate _ => false
  | .list items => items.isEmpty
  | .map fields => fields.isEmpty
  | .moment _ => false
  | .bytes bs => bs.isEmpty
  | .foreign _ => false

mutual

/-- Every value inside that is neither a list nor a map passes the test. -/
def allLeaves (test : Value → Bool) : Value → Bool
  | .list items => allLeavesOf test items
  | .map fields => allLeavesIn test fields
  | v => test v

/-- Every such value inside the items passes the test. -/
def allLeavesOf (test : Value → Bool) : List Value → Bool
  | [] => true
  | v :: r => allLeaves test v && allLeavesOf test r

/-- Every such value inside the fields passes the test. -/
def allLeavesIn (test : Value → Bool) : List (String × Value) → Bool
  | [] => true
  | (_, v) :: r => allLeaves test v && allLeavesIn test r

end

/-- The value is a finite number or no float. -/
def isFiniteLeaf : Value → Bool
  | .float x => x.isFinite
  | _ => true

/-- The value is no integer of too many digits. -/
def isShortLeaf : Value → Bool
  | .int n => !isLongInteger n
  | _ => true

/-- The value is no text with surrogates. -/
def isEncodableLeaf : Value → Bool
  | .surrogate _ => false
  | _ => true

/-- Every number is finite. -/
def isFinite (v : Value) : Bool := v.allLeaves isFiniteLeaf

/-- Some integer is too long to be written. -/
def hasLongInteger (v : Value) : Bool := !v.allLeaves isShortLeaf

/-- Some text has surrogates, so that UTF-8 has no bytes for it. -/
def hasSurrogate (v : Value) : Bool := !v.allLeaves isEncodableLeaf

end Value

end RouteAtlas.Document
