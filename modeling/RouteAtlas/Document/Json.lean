import RouteAtlas.Document.Value
import RouteAtlas.Number.FloatText

/-!
# Writing JSON

`Value.json` writes a value in one of three layouts, with or without escapes for characters beyond
ASCII. `Value.firstForeign?` finds what cannot be written, in the order of writing. An integer of too many
digits cannot be written either, a strict writer refuses numbers that are not finite, and surrogates that
are not escaped have no bytes: `Value.hasLongInteger`, `Value.isFinite` and `Value.hasSurrogate` tell.
-/

namespace RouteAtlas.Document

open RouteAtlas.Text RouteAtlas.Number

/-- Where a JSON text breaks its lines and sets its blanks. -/
inductive JsonLayout where
  /-- Members on lines of their own, two blanks deeper for each level. -/
  | indented
  /-- One line, a blank after each comma and colon. -/
  | spaced
  /-- One line without blanks. -/
  | compact
deriving Repr, DecidableEq, Inhabited

/-- A way to write JSON. -/
structure JsonStyle where
  layout : JsonLayout
  /-- Characters beyond ASCII are escaped. -/
  ascii : Bool
deriving Repr, DecidableEq, Inhabited

/-- The content type of JSON. -/
def jsonContentType : String := "application/json"

/-- An escape by code unit. -/
def jsonUnit (n : Nat) : List Char := '\\' :: 'u' :: hexText 4 n

/-- One code point inside a JSON string. A surrogate is escaped in either style, since no character could
stand for it. -/
def jsonCode (ascii : Bool) (n : Nat) : List Char :=
  if n = '"'.toNat then ['\\', '"']
  else if n = '\\'.toNat then ['\\', '\\']
  else if n = 10 then ['\\', 'n']
  else if n = 13 then ['\\', 'r']
  else if n = 9 then ['\\', 't']
  else if n = 12 then ['\\', 'f']
  else if n = 8 then ['\\', 'b']
  else if n < 32 then jsonUnit n
  else if isSurrogate n then jsonUnit n
  else if !ascii || n < 127 then [Char.ofNat n]
  else if n < 0x10000 then jsonUnit n
  else jsonUnit (0xd800 + (n - 0x10000) / 1024) ++ jsonUnit (0xdc00 + (n - 0x10000) % 1024)

/-- A JSON string by its code points. -/
def jsonCodes (ascii : Bool) (codes : List Nat) : String :=
  "\"" ++ String.ofList (codes.flatMap (jsonCode ascii)) ++ "\""

/-- A JSON string. -/
def jsonString (ascii : Bool) (s : String) : String := jsonCodes ascii (codePoints s)

namespace JsonStyle

/-- The start of a new line at a depth, where the layout breaks lines. -/
def lineBreak (style : JsonStyle) (depth : Nat) : String :=
  match style.layout with
  | .indented => "\n" ++ String.ofList (List.replicate (2 * depth) ' ')
  | _ => ""

/-- What stands between two members. -/
def separator (style : JsonStyle) (depth : Nat) : String :=
  match style.layout with
  | .indented => "," ++ style.lineBreak depth
  | .spaced => ", "
  | .compact => ","

/-- What stands between a name and its value. -/
def colon (style : JsonStyle) : String :=
  match style.layout with
  | .compact => ":"
  | _ => ": "

/-- Written members between brackets. -/
def enclose (style : JsonStyle) (depth : Nat) (opening closing : String) (members : List String) :
    String :=
  if members.isEmpty then opening ++ closing
  else opening ++ style.lineBreak (depth + 1) ++
    (style.separator (depth + 1)).intercalate members ++ style.lineBreak depth ++ closing

end JsonStyle

namespace Value

mutual

/-- The JSON text of a value at a depth. What JSON cannot hold is left out; see `firstForeign?`. -/
def jsonAt (style : JsonStyle) (depth : Nat) : Value → String
  | .null => "null"
  | .bool b => if b then "true" else "false"
  | .int n => toString n
  | .float x => FloatText.json.write x
  | .str s => jsonString style.ascii s
  | .surrogate t => jsonCodes style.ascii t.codes
  | .list items => style.enclose depth "[" "]" (jsonItems style (depth + 1) items)
  | .map fields => style.enclose depth "\x7b" "\x7d" (jsonFields style (depth + 1) fields)
  | .moment _ => ""
  | .bytes _ => ""
  | .foreign _ => ""

/-- The JSON texts of the items of a list. -/
def jsonItems (style : JsonStyle) (depth : Nat) : List Value → List String
  | [] => []
  | v :: r => jsonAt style depth v :: jsonItems style depth r

/-- The JSON texts of the fields of a map. -/
def jsonFields (style : JsonStyle) (depth : Nat) : List (String × Value) → List String
  | [] => []
  | (k, v) :: r =>
    (jsonString style.ascii k ++ style.colon ++ jsonAt style depth v) :: jsonFields style depth r

end

/-- The JSON text of a value. -/
def json (style : JsonStyle) (v : Value) : String := v.jsonAt style 0

mutual

/-- The kind of the first value, in the order of writing, that JSON cannot hold. -/
def firstForeign? : Value → Option String
  | .list items => firstForeignItem? items
  | .map fields => firstForeignField? fields
  | .moment (.date _) => some "date"
  | .moment (.time _) => some "time"
  | .moment (.dateTime _ _) => some "datetime"
  | .bytes _ => some "bytes"
  | .foreign kind => some kind
  | _ => none

/-- The first item that JSON cannot hold. -/
def firstForeignItem? : List Value → Option String
  | [] => none
  | v :: r => (firstForeign? v).or (firstForeignItem? r)

/-- The first field that JSON cannot hold. -/
def firstForeignField? : List (String × Value) → Option String
  | [] => none
  | (_, v) :: r => (firstForeign? v).or (firstForeignField? r)

end

end Value

end RouteAtlas.Document
