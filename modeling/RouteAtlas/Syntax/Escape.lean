import RouteAtlas.Syntax.Token
import RouteAtlas.Text.CharName
import RouteAtlas.Text.Digits

/-!
# Escapes in text literals

`decodeEscapes` gives the code points that the inside of a text literal stands for, `decodeByteEscapes`
the bytes. A backslash that begins no escape stands for itself; an escape that is cut short, or that
names no code point, makes the literal invalid. An escape may name a surrogate.
-/

namespace RouteAtlas.Syntax

open RouteAtlas.Text

/-- The escapes of one letter that both kinds of literals know, by the code they stand for. -/
def letterEscape? (c : Char) : Option Nat :=
  match c with
  | '\\' => some 92
  | '\'' => some 39
  | '"' => some 34
  | 'a' => some 7
  | 'b' => some 8
  | 'f' => some 12
  | 'n' => some 10
  | 'r' => some 13
  | 't' => some 9
  | 'v' => some 11
  | _ => none

/-- Up to three octal digits at the start of a text. -/
def octalRun (cs : List Char) : List Char := (cs.take 3).takeWhile (isDigitIn 8)

/-- Exactly `n` hexadecimal digits at the start of a text, read as a number. -/
def hexRun? (n : Nat) (cs : List Char) : Option Nat :=
  if (cs.take n).length = n then ofDigits? 16 (cs.take n) else none

/-- A name between braces at the start of a text: the code point, and how many characters it takes. -/
def namedEscape? : List Char → Option (Nat × Nat)
  | '\x7b' :: r =>
    let name := r.takeWhile (· != '\x7d')
    if name.length < r.length then (codeOfName? name).map fun n => (n, name.length + 2) else none
  | _ => none

/-- One step of decoding the text after a backslash: the code points it stands for and how many
characters it takes. Nothing for an invalid escape. -/
def escapeAt (c : Char) (r : List Char) : Option (List Nat × Nat) :=
  match letterEscape? c with
  | some n => some ([n], 1)
  | none =>
    if c == '\n' then some ([], 1)
    else if isDigitIn 8 c then
      let ds := octalRun (c :: r)
      some ([ofDigits 8 ds], ds.length)
    else if c == 'x' then (hexRun? 2 r).map fun n => ([n], 3)
    else if c == 'u' then (hexRun? 4 r).map fun n => ([n], 5)
    else if c == 'U' then (hexRun? 8 r).bind fun n => if n < 0x110000 then some ([n], 9) else none
    else if c == 'N' then (namedEscape? r).map fun (n, length) => ([n], length + 1)
    else some ([92, c.toNat], 1)

/-- The code points that the inside of a text literal stands for. -/
def decodeEscapes : List Char → Option (List Nat)
  | [] => some []
  | '\\' :: c :: r =>
    match escapeAt c r with
    | none => none
    | some (codes, n) => (decodeEscapes (r.drop (n - 1))).map (codes ++ ·)
  | c :: r => (decodeEscapes r).map (c.toNat :: ·)
termination_by cs => cs.length
decreasing_by all_goals (simp only [List.length_drop, List.length_cons]; omega)

/-- One step of decoding bytes after a backslash: the byte codes it stands for and how many characters
it takes. -/
def byteEscapeAt (c : Char) (r : List Char) : Option (List Nat × Nat) :=
  match letterEscape? c with
  | some n => some ([n], 1)
  | none =>
    if c == '\n' then some ([], 1)
    else if isDigitIn 8 c then
      let ds := octalRun (c :: r)
      some ([ofDigits 8 ds % 256], ds.length)
    else if c == 'x' then (hexRun? 2 r).map fun n => ([n], 3)
    else some ([92, c.toNat], 1)

/-- The bytes that the inside of a byte literal stands for. -/
def decodeByteEscapes : List Char → Option (List UInt8)
  | [] => some []
  | '\\' :: c :: r =>
    match byteEscapeAt c r with
    | none => none
    | some (codes, n) => (decodeByteEscapes (r.drop (n - 1))).map (codes.map Nat.toUInt8 ++ ·)
  | c :: r => (decodeByteEscapes r).map (c.toNat.toUInt8 :: ·)
termination_by cs => cs.length
decreasing_by all_goals (simp only [List.length_drop, List.length_cons]; omega)

/-- The code points of a literal's inside, or of a stretch of it. -/
def TextLiteral.decodeText (raw : Bool) (cs : List Char) : Option (List Nat) :=
  if raw then some (cs.map Char.toNat) else decodeEscapes cs

/-- The bytes of a byte literal, which holds ASCII only. -/
def TextLiteral.decodeBytes (literal : TextLiteral) : Option (List UInt8) :=
  if literal.body.any (128 ≤ ·.toNat) then none
  else if literal.raw then some (literal.body.map (·.toNat.toUInt8))
  else decodeByteEscapes literal.body

end RouteAtlas.Syntax
