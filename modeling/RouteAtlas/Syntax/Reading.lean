import RouteAtlas.Syntax.Token

/-!
# Reading tokens

A reading takes tokens from the front of a list and gives a result, or fails; a failed alternative
leaves the tokens to the next one. The combinators here cover what the grammar of expressions and
statements has in common.
-/

namespace RouteAtlas.Syntax

/-- A reading of tokens. -/
abbrev Reading := StateT (List Token) Option

namespace Reading

variable {α : Type}

/-- The next token, left in place. -/
def peek : Reading (Option Token) := do return (← get).head?

/-- Takes the next token. -/
def take : Reading Token := do
  match ← get with
  | t :: r => set r; return t
  | [] => failure

/-- The next token is this one. -/
def sees (t : Token) : Reading Bool := do return (← get).head? == some t

/-- Takes this token if it is next. -/
def accepts (t : Token) : Reading Bool := do
  match ← get with
  | u :: r => if u == t then set r; return true else return false
  | [] => return false

/-- Takes this token, which must be next. -/
def expect (t : Token) : Reading Unit := do
  if !(← accepts t) then failure

/-- The next token is this mark. -/
def seesMark (s : String) : Reading Bool := sees (.mark s)

/-- The next token is this keyword. -/
def seesWord (s : String) : Reading Bool := sees (.keyword s)

/-- Takes this mark if it is next. -/
def acceptsMark (s : String) : Reading Bool := accepts (.mark s)

/-- Takes this keyword if it is next. -/
def acceptsWord (s : String) : Reading Bool := accepts (.keyword s)

/-- Takes this mark, which must be next. -/
def mark (s : String) : Reading Unit := expect (.mark s)

/-- Takes this keyword, which must be next. -/
def word (s : String) : Reading Unit := expect (.keyword s)

/-- Takes a name. -/
def name : Reading String := do
  match ← take with
  | .name id => return id
  | _ => failure

/-- As many results as there are, at most `n`. -/
def many (p : Reading α) : Nat → Reading (List α)
  | 0 => return []
  | n + 1 => do
    match ← optional p with
    | none => return []
    | some a => return a :: (← many p n)

/-- The number of tokens left, which bounds every repetition. -/
def left : Reading Nat := do return (← get).length

/-- Further results, each after the mark; the mark after the last one stays if nothing follows it. -/
def moreAfter (separator : String) (p : Reading α) : Reading (List α) := do
  many (do mark separator; p) (← left)

/-- Results apart by commas, and whether a comma ends them. -/
def commaList (p : Reading α) : Reading (List α × Bool) := do
  let first ← p
  let rest ← moreAfter "," p
  return (first :: rest, ← acceptsMark ",")

/-- Operands apart by operators that group to the left. -/
def chain {ο : Type} (operator? : Token → Option ο) (combine : ο → α → α → α) (operand : Reading α) :
    Reading α := do
  let first ← operand
  let step : Reading (ο × α) := do
    match operator? (← take) with
    | none => failure
    | some o => return (o, ← operand)
  let rest ← many step (← left)
  return rest.foldl (fun a (o, b) => combine o a b) first

end Reading

end RouteAtlas.Syntax
