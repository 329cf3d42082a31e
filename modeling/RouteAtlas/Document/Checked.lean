import RouteAtlas.Document.Value
import RouteAtlas.Number.Binary
import RouteAtlas.Text.Cut
import RouteAtlas.Text.Utf8

/-!
# Checked data

Reading typed records out of document values. A check is lenient where the meaning is clear: `"yes"`
and `1` are truth values, `"5"` and `5.0` are integers. All faults of a record are collected, each with
its location, in the order in which the record declares its fields.
-/

namespace RouteAtlas.Document

open RouteAtlas.Number RouteAtlas.Text

/-- What is wrong with a value. -/
inductive FieldFault where
  | missing
  | notText
  /-- The bytes of a text are not UTF-8, or a text that is to be read has surrogates. -/
  | undecodable
  /-- The value is neither a truth value nor of a kind that can spell one. -/
  | notBool
  | unknownBool
  | notInt
  | unreadableInt
  | intTooLong
  | fractional
  | infinite
  | notList
  | notRecord
  | notListed
deriving Repr, DecidableEq, Inhabited

/-- The code of a fault in reports. -/
def FieldFault.code : FieldFault → String
  | .missing => "missing"
  | .notText => "string_type"
  | .undecodable => "string_unicode"
  | .notBool => "bool_type"
  | .unknownBool => "bool_parsing"
  | .notInt => "int_type"
  | .unreadableInt => "int_parsing"
  | .intTooLong => "int_parsing_size"
  | .fractional => "int_from_float"
  | .infinite => "finite_number"
  | .notList => "list_type"
  | .notRecord => "model_type"
  | .notListed => "literal_error"

/-- A fault at a location inside a record. -/
structure LocatedFault where
  location : List String
  fault : FieldFault
deriving Repr, DecidableEq, Inhabited

/-- The location as one text. -/
def LocatedFault.place (f : LocatedFault) : String := ".".intercalate f.location

/-- A value that was checked, or all its faults. -/
inductive Checked (α : Type) where
  | valid (a : α)
  | invalid (faults : List LocatedFault)
deriving Repr, Inhabited

namespace Checked

variable {α β : Type}

/-- Applies a checked function; the faults of both sides are kept in order. -/
def apply (f : Checked (α → β)) (a : Checked α) : Checked β :=
  match f, a with
  | .valid f, .valid a => .valid (f a)
  | .valid _, .invalid faults => .invalid faults
  | .invalid faults, .valid _ => .invalid faults
  | .invalid faults, .invalid more => .invalid (faults ++ more)

instance : Applicative Checked where
  pure := .valid
  seq f a := apply f (a ())

/-- A single fault of the value itself. -/
def fault (f : FieldFault) : Checked α := .invalid [⟨[], f⟩]

/-- The faults are those of a part with this name. -/
def within (name : String) : Checked α → Checked α
  | .valid a => .valid a
  | .invalid faults => .invalid (faults.map fun f => { f with location := name :: f.location })

/-- A field of a record that may be absent. -/
def optionalField (name : String) (fallback : α) (check : Value → Checked α)
    (fields : List (String × Value)) : Checked α :=
  match field? name fields with
  | some v => (check v).within name
  | none => .valid fallback

/-- A field that a record must have. -/
def requiredField (name : String) (check : Value → Checked α) (fields : List (String × Value)) :
    Checked α :=
  match field? name fields with
  | some v => (check v).within name
  | none => (fault .missing).within name

/-- A value or null. -/
def nullable (check : Value → Checked α) : Value → Checked (Option α)
  | .null => .valid none
  | v => some <$> check v

/-- Items from a position on, each located by its number. -/
def itemsFrom (check : Value → Checked α) (i : Nat) : List Value → Checked (List α)
  | [] => .valid []
  | v :: r => List.cons <$> (check v).within (toString i) <*> itemsFrom check (i + 1) r

/-- A list of checked items. -/
def list (check : Value → Checked α) : Value → Checked (List α)
  | .list items => itemsFrom check 0 items
  | _ => fault .notList

/-- A text; bytes are decoded. Of a text with surrogates the readable one is kept. -/
def text : Value → Checked String
  | .str s => .valid s
  | .surrogate t => .valid (readableText t.codes)
  | .bytes bs =>
    match Utf8.decode bs with
    | .ok s => .valid s
    | .error _ => fault .undecodable
  | _ => fault .notText

/-- One of the listed names. -/
def listed (ofName? : String → Option α) : Value → Checked α
  | .str s =>
    match ofName? s with
    | some a => .valid a
    | none => fault .notListed
  | .surrogate _ => fault .undecodable
  | _ => fault .notListed

/-- The spellings of truth values, in any case. -/
def boolWords : List (String × Bool) :=
  [("0", false), ("f", false), ("n", false), ("no", false), ("off", false), ("false", false),
    ("1", true), ("t", true), ("y", true), ("yes", true), ("on", true), ("true", true)]

/-- A truth value from its spelling. -/
def boolOfText (s : String) : Checked Bool :=
  match field? (s.map Char.toLower) boolWords with
  | some b => .valid b
  | none => fault .unknownBool

/-- The magnitude from which integers are too large for a machine word. -/
def wordBound : Int := Nat.pow 2 63

/-- A truth value from the numbers zero and one. -/
def boolOfInt (n : Int) : Checked Bool :=
  if n = 0 then .valid false else if n = 1 then .valid true else fault .unknownBool

/-- The integer that a floating-point number is. -/
def intOfFloat (x : Float) : Checked Int :=
  match BinaryFraction.ofFloat? x with
  | none => fault .infinite
  | some b =>
    match b.toInt? with
    | none => fault .fractional
    | some n => if n.natAbs < wordBound.natAbs then .valid n else fault .intTooLong

/-- A truth value. -/
def bool : Value → Checked Bool
  | .bool b => .valid b
  | .str s => boolOfText s
  | .surrogate _ => fault .undecodable
  | .bytes bs =>
    match Utf8.decode bs with
    | .ok s => boolOfText s
    | .error _ => fault .unknownBool
  | .int n => if -wordBound ≤ n ∧ n < wordBound then boolOfInt n else fault .notBool
  | .float x =>
    match intOfFloat x with
    | .valid n => boolOfInt n
    | .invalid _ => fault .notBool
  | _ => fault .notBool

/-! ## Integers in texts -/

/-- An integer in its plain spelling: a minus sign or none, then digits without a leading zero. -/
def plainInt? (cs : List Char) : Option Int :=
  let (negative, ds) := match cs with
    | '-' :: r => (true, r)
    | r => (false, r)
  if ds.length > 1 && ds.head? == some '0' then none
  else (ofDigits? 10 ds).map fun n => if negative then -(n : Int) else n

/-- Zeros and underscores at the front of a number are dropped, up to its last zero; a text that begins
with anything but a digit or a minus sign is no number. -/
def withoutLeadingZeros (cs : List Char) : Option (List Char) :=
  match cs with
  | '0' :: r =>
    let skipped := r.takeWhile fun c => c == '0' || c == '_'
    match r.drop skipped.length with
    | [] => some [('0' :: skipped).getLastD '0']
    | '.' :: t => some (('0' :: skipped).getLastD '0' :: '.' :: t)
    | c :: t => if isAsciiDigit c then some (c :: t) else none
  | c :: _ => if isAsciiDigit c || c == '-' then some cs else none
  | [] => none

/-- A point with zeros only after it is dropped. -/
def withoutZeroFraction (cs : List Char) : List Char :=
  let whole := cs.takeWhile (· != '.')
  match cs.drop whole.length with
  | _ :: fraction => if fraction.all (· == '0') then whole else cs
  | [] => cs

/-- Single underscores between other characters are dropped. -/
def withoutUnderscores (cs : List Char) : List Char :=
  if cs.head? == some '_' || cs.getLast? == some '_' || hasInfix ['_', '_'] cs then cs
  else cs.filter (· != '_')

/-- Blanks as numbers in texts may have around them. -/
def isNumberBlank (c : Char) : Bool := isBlank c && !(28 ≤ c.toNat && c.toNat < 32)

/-- A spelling of an integer made plain: no outer blanks, plus sign, leading zeros, zero fraction and
underscores. -/
def plainSpelling (cs : List Char) : Option (List Char) :=
  let cs := trim isNumberBlank cs
  let cs := match cs with
    | '+' :: '-' :: _ => []
    | '+' :: r => r
    | r => r
  (withoutLeadingZeros cs).map fun cs => withoutUnderscores (withoutZeroFraction cs)

/-- An integer from its spelling. -/
def intOfText (s : String) : Checked Int :=
  match plainSpelling s.toList with
  | none => fault .unreadableInt
  | some cs =>
    if cs.length > maxDecimalDigits && (plainInt? cs).isSome then fault .intTooLong
    else match plainInt? cs with
      | some n => .valid n
      | none => fault .unreadableInt

/-- An integer. -/
def int : Value → Checked Int
  | .int n => .valid n
  | .bool b => .valid (if b then 1 else 0)
  | .float x => intOfFloat x
  | .str s => intOfText s
  | .surrogate _ => fault .undecodable
  | .bytes bs =>
    match Utf8.decode bs with
    | .ok s => intOfText s
    | .error _ => fault .unreadableInt
  | _ => fault .notInt

end Checked

end RouteAtlas.Document
