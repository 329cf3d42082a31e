import RouteAtlas.Text.Digits

/-!
# Regular patterns

Regular expressions over characters, matched by derivatives: `p.after c` accepts what may follow `c`
in a text that `p` accepts, so `p.accepts` is one pass over the text.
-/

namespace RouteAtlas.Text

/-- A regular expression over characters. -/
inductive Pattern where
  /-- No text. -/
  | none
  /-- The empty text. -/
  | done
  /-- One character of a class. -/
  | one (p : Char → Bool)
  /-- One pattern, then the other. -/
  | seq (p q : Pattern)
  /-- One pattern or the other. -/
  | alt (p q : Pattern)
  /-- Any number of texts of the pattern. -/
  | many (p : Pattern)

namespace Pattern

/-- The pattern accepts the empty text. -/
def acceptsEmpty : Pattern → Bool
  | .none => false
  | .done => true
  | .one _ => false
  | .seq p q => p.acceptsEmpty && q.acceptsEmpty
  | .alt p q => p.acceptsEmpty || q.acceptsEmpty
  | .many _ => true

/-- Sequence, with the trivial cases removed. -/
def andThen : Pattern → Pattern → Pattern
  | .none, _ => .none
  | .done, q => q
  | _, .none => .none
  | p, q => .seq p q

/-- Choice, with the trivial cases removed. -/
def orElse : Pattern → Pattern → Pattern
  | .none, q => q
  | p, .none => p
  | p, q => .alt p q

/-- What may follow the character `c`. -/
def after (c : Char) : Pattern → Pattern
  | .none => .none
  | .done => .none
  | .one p => if p c then .done else .none
  | .seq p q =>
    if p.acceptsEmpty then orElse (andThen (p.after c) q) (q.after c) else andThen (p.after c) q
  | .alt p q => orElse (p.after c) (q.after c)
  | .many p => andThen (p.after c) (.many p)

/-- The pattern accepts the whole text. -/
def accepts (p : Pattern) : List Char → Bool
  | [] => p.acceptsEmpty
  | c :: r => (p.after c).accepts r

/-- Exactly this text. -/
def text (s : String) : Pattern := s.toList.foldr (fun c p => .seq (.one (· == c)) p) .done

/-- One of these texts. -/
def oneOf (ss : List String) : Pattern := ss.foldr (fun s p => .alt (text s) p) .none

/-- One of these characters. -/
def chars (s : String) : Pattern := let cs := s.toList; .one cs.contains

/-- All of these, in order. -/
def all (ps : List Pattern) : Pattern := ps.foldr .seq .done

/-- Any of these. -/
def any (ps : List Pattern) : Pattern := ps.foldr .alt .none

/-- The pattern, or nothing. -/
def optional (p : Pattern) : Pattern := .alt p .done

/-- The pattern, once or more. -/
def some (p : Pattern) : Pattern := .seq p (.many p)

/-- A decimal digit. -/
def digit : Pattern := .one (isDigitIn 10)

/-- Exactly `n` decimal digits. -/
def digits (n : Nat) : Pattern := all (List.replicate n digit)

end Pattern

end RouteAtlas.Text
