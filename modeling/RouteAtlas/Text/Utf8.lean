import RouteAtlas.Text.Digits

/-!
# Reading UTF-8

`Utf8.decode` turns bytes into characters or says which byte is wrong and how. A wrong sequence is
blamed on the byte it starts with.
-/

namespace RouteAtlas.Text

/-- What is wrong with a byte sequence. -/
inductive Utf8Fault where
  /-- No sequence starts with this byte. -/
  | start
  /-- The byte after this one, or one later in the sequence, does not continue it. -/
  | continuation
  /-- The text ends inside a sequence. -/
  | truncated
deriving Repr, DecidableEq, Inhabited

/-- A run of bytes from `position` up to `last` that is not UTF-8. -/
structure Utf8Error where
  fault : Utf8Fault
  byte : UInt8
  position : Nat
  last : Nat
deriving Repr, DecidableEq, Inhabited

/-- The wording of a decoding error. -/
def Utf8Error.message (e : Utf8Error) : String :=
  let reason := match e.fault with
    | .start => "invalid start byte"
    | .continuation => "invalid continuation byte"
    | .truncated => "unexpected end of data"
  let place :=
    if e.position = e.last then
      s!"byte 0x{String.ofList (hexText 2 e.byte.toNat)} in position {e.position}"
    else s!"bytes in position {e.position}-{e.last}"
  s!"'utf-8' codec can't decode {place}: {reason}"

namespace Utf8

/-- How many bytes a sequence has that starts with this byte, and the admissible second bytes. -/
def shape? (b : Nat) : Option (Nat × Nat × Nat) :=
  if b < 0x80 then some (1, 0, 0)
  else if b < 0xc2 then none
  else if b < 0xe0 then some (2, 0x80, 0xbf)
  else if b = 0xe0 then some (3, 0xa0, 0xbf)
  else if b = 0xed then some (3, 0x80, 0x9f)
  else if b < 0xf0 then some (3, 0x80, 0xbf)
  else if b = 0xf0 then some (4, 0x90, 0xbf)
  else if b < 0xf4 then some (4, 0x80, 0xbf)
  else if b = 0xf4 then some (4, 0x80, 0x8f)
  else none

/-- `b` continues a sequence. -/
def isTail (b : Nat) : Bool := 0x80 ≤ b && b ≤ 0xbf

/-- Decodes the bytes that stand at `pos`, after the characters `done`, held in reverse. -/
def decodeFrom (pos : Nat) (done : List Char) : List UInt8 → Except Utf8Error (List Char)
  | [] => .ok done.reverse
  | b :: r =>
    match shape? b.toNat with
    | none => .error ⟨.start, b, pos, pos⟩
    | some (1, _, _) => decodeFrom (pos + 1) (Char.ofNat b.toNat :: done) r
    | some (size, low, high) =>
      match r with
      | [] => .error ⟨.truncated, b, pos, pos⟩
      | b₂ :: r₂ =>
        if b₂.toNat < low ∨ high < b₂.toNat then .error ⟨.continuation, b, pos, pos⟩
        else if size = 2 then
          decodeFrom (pos + 2) (Char.ofNat ((b.toNat - 0xc0) * 64 + (b₂.toNat - 0x80)) :: done) r₂
        else match r₂ with
          | [] => .error ⟨.truncated, b, pos, pos + 1⟩
          | b₃ :: r₃ =>
            if !isTail b₃.toNat then .error ⟨.continuation, b, pos, pos + 1⟩
            else if size = 3 then
              decodeFrom (pos + 3) (Char.ofNat ((b.toNat - 0xe0) * 4096 + (b₂.toNat - 0x80) * 64 +
                (b₃.toNat - 0x80)) :: done) r₃
            else match r₃ with
              | [] => .error ⟨.truncated, b, pos, pos + 2⟩
              | b₄ :: r₄ =>
                if !isTail b₄.toNat then .error ⟨.continuation, b, pos, pos + 2⟩
                else
                  decodeFrom (pos + 4) (Char.ofNat ((b.toNat - 0xf0) * 262144 +
                    (b₂.toNat - 0x80) * 4096 + (b₃.toNat - 0x80) * 64 + (b₄.toNat - 0x80)) :: done) r₄

/-- Decodes bytes as UTF-8. -/
def decode (bytes : List UInt8) : Except Utf8Error String :=
  (decodeFrom 0 [] bytes).map String.ofList

end Utf8

end RouteAtlas.Text
