import RouteAtlas.Syntax.ExprGrammar
import RouteAtlas.Syntax.Stmt

/-!
# The grammar of match patterns

A pattern is kept by its parts: the values it compares with, group by group.
-/

namespace RouteAtlas.Syntax

open Reading

/-- The next token continues a dotted name, a call or a keyword. -/
def seesNameTail : Reading Bool := do
  return (← seesMark ".") || (← seesMark "(") || (← seesMark "=")

/-- A name that a pattern binds. -/
def captureName : Reading String := do
  let id ← name
  if id == "_" || (← seesNameTail) then failure
  return id

/-- A number literal, imaginary or not. -/
def numberToken (imaginary : Bool) : Reading Expr := do
  match ← take with
  | .number c =>
    match c with
    | .imaginary x => if imaginary then return .constant (.imaginary x) else failure
    | c => if imaginary then failure else return .constant c
  | _ => failure

/-- A number with an optional minus, or a sum of a real and an imaginary one. -/
def patternNumber : Reading Expr := do
  let negative ← acceptsMark "-"
  let signed (e : Expr) : Expr := if negative then .unary .minus e else e
  let complex : Reading Expr := do
    let real ← numberToken false
    let op ← if ← acceptsMark "+" then pure BinaryOp.add else do
      mark "-"
      pure BinaryOp.sub
    return .binary op (signed real) (← numberToken true)
  complex <|> do
    let e ← numberToken true <|> numberToken false
    if (← seesMark "+") || (← seesMark "-") then failure
    return signed e

/-- A literal in a pattern. The texts of a formatted literal take a bound on their depth. -/
def patternLiteral (fuel : Nat) : Reading Part := do
  match ← peek with
  | some (.text _) =>
    let literals ← many (do
      match ← take with
      | .text literal => return literal
      | _ => failure) (← left)
    return .group [.expr (← texts fuel literals)]
  | some (.keyword w) =>
    if w == "None" || w == "True" || w == "False" then
      let _ ← take
      return .group []
    else failure
  | _ => return .group [.expr (← patternNumber)]

/-- A dotted name. -/
def dottedValue : Reading Expr := do
  let first ← name
  let rest ← many (do mark "."; name) (← left)
  return rest.foldl .attribute (.name first)

/-- A dotted name of two or more components that nothing continues. -/
def patternValue : Reading Expr := do
  match ← dottedValue with
  | .name _ => failure
  | e => if ← seesNameTail then failure else return e

mutual

/-- Alternatives, bound to a name or not. -/
def pattern : Nat → Reading Part
  | 0 => failure
  | fuel + 1 => do
    let first ← closedPattern fuel
    let rest ← many (do mark "|"; closedPattern fuel) (← left)
    let body : Part := if rest.isEmpty then first else .group (first :: rest)
    if ← acceptsWord "as" then
      let _ ← captureName
      return .group [body]
    else return body

/-- A pattern that is no alternative. -/
def closedPattern : Nat → Reading Part
  | 0 => failure
  | fuel + 1 =>
    patternLiteral fuel <|>
    (do let _ ← captureName; return .group []) <|>
    (do expect (.name "_"); return .group []) <|>
    (do return .group [.expr (← patternValue)]) <|>
    (do
      mark "("
      if ← acceptsMark ")" then return .group []
      let (items, comma) ← commaList (maybeStar fuel)
      mark ")"
      match items, comma with
      | [(p, false)], false => return p
      | [(_, true)], false => failure
      | items, _ => return .group (items.map (·.1))) <|>
    (do
      mark "["
      if ← acceptsMark "]" then return .group []
      let (items, _) ← commaList (maybeStar fuel)
      mark "]"
      return .group (items.map (·.1))) <|>
    mappingPattern fuel <|>
    (do
      let e ← dottedValue
      mark "("
      if ← acceptsMark ")" then return .group [.expr e]
      let keyword : Reading (Part × Bool) := do
        let _ ← name
        mark "="
        return (← pattern fuel, true)
      let item : Reading (Part × Bool) := keyword <|> (do return (← pattern fuel, false))
      let (items, _) ← commaList item
      mark ")"
      if (items.dropWhile (!·.2)).any (!·.2) then failure
      return .group (.expr e :: items.map (·.1)))

/-- A pattern of a sequence, with whether it takes the rest of it. -/
def maybeStar : Nat → Reading (Part × Bool)
  | 0 => failure
  | fuel + 1 => do
    if ← acceptsMark "*" then
      if ← accepts (.name "_") then return (.group [], true)
      let _ ← captureName
      return (.group [], true)
    else return (← pattern fuel, false)

/-- A pattern of a mapping: keys with patterns, then at most one name for the rest. -/
def mappingPattern : Nat → Reading Part
  | 0 => failure
  | fuel + 1 => do
    mark "\x7b"
    if ← acceptsMark "\x7d" then return .group []
    let rest : Reading (List Part × Bool) := do
      mark "**"
      let _ ← captureName
      return ([], true)
    let pair : Reading (List Part × Bool) := do
      let key ← (do
          match ← patternLiteral fuel with
          | .group parts => return parts
          | p => return [p]) <|> (do return [.expr (← patternValue)])
      mark ":"
      return (key ++ [← pattern fuel], false)
    let (items, _) ← commaList (rest <|> pair)
    mark "\x7d"
    if items.dropLast.any (·.2) then failure
    return .group (items.flatMap (·.1))

end

/-- The patterns of a case: a pattern, or a sequence without brackets. -/
def casePatterns (fuel : Nat) : Reading Part := do
  let (items, comma) ← commaList (maybeStar fuel)
  match items, comma with
  | [(p, false)], false => return p
  | [(_, true)], false => failure
  | items, _ => return .group (items.map (·.1))

end RouteAtlas.Syntax
