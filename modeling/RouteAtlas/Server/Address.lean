import RouteAtlas.Text.CharClass
import RouteAtlas.Text.Pattern

/-!
# Addresses

Where the server answers. An address is a path that may leave parts open: `{name}` stands for one
segment, and `{name:kind}` for a text of some other kind. It answers for the paths that its pattern
accepts.
-/

namespace RouteAtlas.Server

open RouteAtlas.Text

/-- A part of an address that is left open. -/
structure AddressHole where
  name : String
  kind : String
deriving Repr, DecidableEq, Inhabited

/-- A character of an address, or an open part. -/
inductive AddressPart where
  | char (c : Char)
  | hole (h : AddressHole)
deriving Repr, DecidableEq, Inhabited

/-- Why an address cannot be used. -/
inductive AddressFault where
  | unknownKind (kind : String)
  | repeatedName (name : String)
deriving Repr, DecidableEq, Inhabited

/-- The character starts a name in an address. -/
def startsAddressName (c : Char) : Bool := isAsciiLetter c || c == '_'

/-- The character continues a name in an address. -/
def continuesAddressName (c : Char) : Bool := startsAddressName c || isAsciiDigit c

/-- A name at the start of a text. -/
def addressName? (cs : List Char) : Option (List Char) :=
  if cs.head?.any startsAddressName then some (cs.takeWhile continuesAddressName) else none

/-- The kind of an open part that names none. -/
def defaultHoleKind : String := "str"

/-- An open part at the start of a text, and how many characters it has. -/
def addressHole? : List Char → Option (AddressHole × Nat)
  | '\x7b' :: r => do
    let name ← addressName? r
    match r.drop name.length with
    | '\x7d' :: _ => some (⟨String.ofList name, defaultHoleKind⟩, name.length + 2)
    | ':' :: t =>
      let kind ← addressName? t
      if (t.drop kind.length).head? == some '\x7d' then
        some (⟨String.ofList name, String.ofList kind⟩, name.length + kind.length + 3)
      else none
    | _ => none
  | _ => none

/-- The parts of an address, after as many characters as belong to an open part before. -/
def addressParts : Nat → List Char → List AddressPart
  | _, [] => []
  | n + 1, _ :: r => addressParts n r
  | 0, c :: r =>
    match addressHole? (c :: r) with
    | some (h, length) => .hole h :: addressParts (length - 1) r
    | none => .char c :: addressParts 0 r

/-- A hexadecimal digit of either case. -/
def hexDigit : Pattern := .one fun c => isDigitIn 16 c

/-- As many hexadecimal digits. -/
def hexDigits (n : Nat) : Pattern := .all (List.replicate n hexDigit)

/-- The texts that an open part of a kind stands for. -/
def holePattern? : String → Option Pattern
  | "str" => some (.some (.one (· != '/')))
  | "path" => some (.many (.one (· != '\n')))
  | "int" => some (.some .digit)
  | "float" => some (.seq (.some .digit) (.optional (.seq (.text ".") (.some .digit))))
  | "uuid" =>
    let dash := Pattern.optional (.text "-")
    some (.all [hexDigits 8, dash, hexDigits 4, dash, hexDigits 4, dash, hexDigits 4, dash,
      hexDigits 12])
  | _ => none

/-- The paths that a part of an address stands for. -/
def AddressPart.pattern : AddressPart → Except AddressFault Pattern
  | .char c => .ok (.one (· == c))
  | .hole h =>
    match holePattern? h.kind with
    | some p => .ok p
    | none => .error (.unknownKind h.kind)

/-- The first name that occurs once more after its place. -/
def repeated? : List String → Option String
  | [] => none
  | name :: r => if r.contains name then some name else repeated? r

/-- The paths that an address answers for; a line end after the path does not count. -/
def addressPattern (address : String) : Except AddressFault Pattern := do
  let parts := addressParts 0 address.toList
  let patterns ← parts.mapM AddressPart.pattern
  let names := parts.filterMap fun
    | .hole h => some h.name
    | .char _ => none
  match repeated? names with
  | some name => throw (.repeatedName name)
  | none => return .seq (.all patterns) (.optional (.text "\n"))

end RouteAtlas.Server
