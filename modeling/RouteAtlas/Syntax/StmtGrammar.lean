import RouteAtlas.Syntax.PatternGrammar

/-!
# The grammar of statements

Simple statements, compound statements and blocks. As for expressions, every function takes a bound on
the depth of the syntax tree.
-/

namespace RouteAtlas.Syntax

open Reading

/-- The marks that assign after an operation. -/
def augmentedMarks : List String :=
  ["+=", "-=", "*=", "/=", "//=", "%=", "@=", "&=", "|=", "^=", ">>=", "<<=", "**="]

/-- A `yield` expression, or one or more expressions. -/
def assignedValue (fuel : Nat) : Reading Expr := do
  if ← seesWord "yield" then yieldExpression fuel else starExpressions fuel

/-- The rest of a chain of assignments after the first target. -/
def assignments (fuel : Nat) : Nat → List Expr → Expr → Reading Stmt
  | 0, _, _ => failure
  | n + 1, targets, e => do
    if ← acceptsMark "=" then
      if !e.isTarget then failure
      assignments fuel n (targets ++ [e]) (← assignedValue fuel)
    else if targets.isEmpty then return .expr e
    else return .assign targets e

/-- An assignment, or an expression as a statement. -/
def expressionStatement (fuel : Nat) : Reading Stmt := do
  let first ← assignedValue fuel
  match ← peek with
  | some (.mark ":") =>
    if !first.isPlace then failure
    mark ":"
    let hint ← expression fuel
    let value ← if ← acceptsMark "=" then some <$> assignedValue fuel else pure none
    return .annAssign first hint value
  | some (.mark s) =>
    if augmentedMarks.contains s then
      if !first.isPlace then failure
      mark s
      return .other [.expr first, .expr (← assignedValue fuel)]
    else assignments fuel (← left) [] first
  | _ => assignments fuel (← left) [] first

/-- A dotted name as text. -/
def dottedName : Reading String := do
  let first ← name
  let rest ← many (do mark "."; name) (← left)
  return ".".intercalate (first :: rest)

/-- A name under which something is imported, if it is another one. -/
def importAlias : Reading (Option String) := do
  if ← acceptsWord "as" then some <$> name else return none

/-- What follows `import`. -/
def importNames : Reading Stmt := do
  let one : Reading (String × Option String) := do
    let id ← dottedName
    return (id, ← importAlias)
  let first ← one
  return .importNames (first :: (← moreAfter "," one))

/-- What follows `from`. -/
def importFrom : Reading Stmt := do
  let dots ← many (do
    match ← take with
    | .mark "." => return 1
    | .mark "..." => return 3
    | _ => failure) (← left)
  let module ← if ← seesWord "import" then pure none else some <$> dottedName
  if dots.isEmpty && module.isNone then failure
  word "import"
  let one : Reading (String × Option String) := do
    let id ← name
    return (id, ← importAlias)
  if ← acceptsMark "*" then return .importFrom module [("*", none)]
  else if ← acceptsMark "(" then
    let (names, _) ← commaList one
    mark ")"
    return .importFrom module names
  else
    let first ← one
    return .importFrom module (first :: (← moreAfter "," one))

/-- The end of a simple statement comes next. -/
def seesEnd : Reading Bool := do
  return (← sees .newline) || (← seesMark ";")

/-- A statement that fits on one line. -/
def simpleStatement (fuel : Nat) : Reading Stmt := do
  match ← peek with
  | some (.keyword w) =>
    let parts (es : List Expr) : Stmt := .other (es.map .expr)
    if w == "pass" || w == "break" || w == "continue" then
      let _ ← take
      return .other []
    else if w == "return" then
      let _ ← take
      if ← seesEnd then return .other [] else return parts [← starExpressions fuel]
    else if w == "raise" then
      let _ ← take
      if ← seesEnd then return .other []
      let e ← expression fuel
      if ← acceptsWord "from" then return parts [e, ← expression fuel] else return parts [e]
    else if w == "global" || w == "nonlocal" then
      let _ ← take
      let _ ← name
      let _ ← moreAfter "," name
      return .other []
    else if w == "del" then
      let _ ← take
      let (items, _) ← commaList (primary fuel)
      if !areDeletable items then failure
      if !(← seesEnd) then failure
      return parts items
    else if w == "assert" then
      let _ ← take
      let e ← expression fuel
      if ← acceptsMark "," then return parts [e, ← expression fuel] else return parts [e]
    else if w == "import" then
      let _ ← take
      importNames
    else if w == "from" then
      let _ ← take
      importFrom
    else expressionStatement fuel
  | _ => expressionStatement fuel

/-- Simple statements on one line. -/
def simpleStatements (fuel : Nat) : Reading (List Stmt) := do
  let first ← simpleStatement fuel
  let rest ← moreAfter ";" (simpleStatement fuel)
  let _ ← acceptsMark ";"
  expect .newline
  return first :: rest

/-- An item of a `with` statement. -/
def withItem (fuel : Nat) : Reading Part := do
  let e ← expression fuel
  if ← acceptsWord "as" then
    let t ← target fuel
    if !((← seesMark ",") || (← seesMark ")") || (← seesMark ":")) then failure
    return .group [.expr e, .expr t]
  else return .group [.expr e]

/-- The items of a `with` statement up to its colon, in brackets or not. -/
def withItems (fuel : Nat) : Reading (List Part) :=
  (do
    mark "("
    let (items, _) ← commaList (withItem fuel)
    mark ")"
    mark ":"
    return items) <|>
  (do
    let first ← withItem fuel
    let rest ← moreAfter "," (withItem fuel)
    mark ":"
    return first :: rest)

/-- The subject of a `match` statement. -/
def matchSubject (fuel : Nat) : Reading Expr := do
  let (items, comma) ← commaList (starNamed fuel)
  match items, comma with
  | [e], false => if e.isStarred then failure else return e
  | items, _ => return .tuple items

/-- The parts of a block. -/
def partsOf (body : List Stmt) : List Part := body.map .stmt

mutual

/-- A block: indented statements, or simple statements on the same line. -/
def block : Nat → Reading (List Stmt)
  | 0 => failure
  | fuel + 1 => do
    if ← accepts .newline then
      expect .indent
      let body ← statements fuel
      expect .dedent
      return body
    else simpleStatements fuel

/-- One or more statements. -/
def statements : Nat → Reading (List Stmt)
  | 0 => failure
  | fuel + 1 => do
    let first ← statement fuel
    match ← peek with
    | none => return first
    | some .dedent => return first
    | _ => return first ++ (← statements fuel)

/-- A statement, or the simple statements of a line. -/
def statement : Nat → Reading (List Stmt)
  | 0 => failure
  | fuel + 1 => do
    match ← peek with
    | some (.mark "@") =>
      let decorators ← many (do
        mark "@"
        let e ← namedExpression fuel
        expect .newline
        return e) (← left)
      if ← acceptsWord "class" then return [← classDefinition fuel decorators]
      let _ ← acceptsWord "async"
      word "def"
      return [← functionDefinition fuel decorators]
    | some (.keyword w) =>
      if w == "def" then
        let _ ← take
        return [← functionDefinition fuel []]
      else if w == "class" then
        let _ ← take
        return [← classDefinition fuel []]
      else if w == "async" then
        let _ ← take
        if ← acceptsWord "def" then return [← functionDefinition fuel []]
        else if ← acceptsWord "for" then return [← forStatement fuel]
        else
          word "with"
          return [← withStatement fuel]
      else if w == "if" then
        let _ ← take
        return [← ifStatement fuel]
      else if w == "while" then
        let _ ← take
        let test ← namedExpression fuel
        mark ":"
        let body ← block fuel
        return [.other (.expr test :: partsOf body ++ partsOf (← elseBlock fuel))]
      else if w == "for" then
        let _ ← take
        return [← forStatement fuel]
      else if w == "with" then
        let _ ← take
        return [← withStatement fuel]
      else if w == "try" then
        let _ ← take
        return [← tryStatement fuel]
      else simpleStatements fuel
    | some (.name "match") => (List.singleton <$> matchStatement fuel) <|> simpleStatements fuel
    | _ => simpleStatements fuel

/-- A function after `def`. -/
def functionDefinition : Nat → List Expr → Reading Stmt
  | 0, _ => failure
  | fuel + 1, decorators => do
    let id ← name
    mark "("
    let signature ← parameters fuel true ")"
    mark ")"
    let returns ← if ← acceptsMark "->" then some <$> expression fuel else pure none
    mark ":"
    return .function id signature (← block fuel) decorators returns

/-- A class after `class`. -/
def classDefinition : Nat → List Expr → Reading Stmt
  | 0, _ => failure
  | fuel + 1, decorators => do
    let id ← name
    let (bases, keywords) ←
      if ← acceptsMark "(" then arguments fuel false .positional [] [] else pure ([], [])
    mark ":"
    return .classDef id bases keywords (← block fuel) decorators

/-- A condition with its blocks, after `if` or `elif`. -/
def ifStatement : Nat → Reading Stmt
  | 0 => failure
  | fuel + 1 => do
    let test ← namedExpression fuel
    mark ":"
    let body ← block fuel
    let orelse ← if ← acceptsWord "elif" then pure [← ifStatement fuel] else elseBlock fuel
    return .other (.expr test :: partsOf body ++ partsOf orelse)

/-- An `else` block, or nothing. -/
def elseBlock : Nat → Reading (List Stmt)
  | 0 => failure
  | fuel + 1 => do
    if ← acceptsWord "else" then
      mark ":"
      block fuel
    else return []

/-- A loop after `for`. -/
def forStatement : Nat → Reading Stmt
  | 0 => failure
  | fuel + 1 => do
    let target ← targets fuel
    word "in"
    let source ← starExpressions fuel
    mark ":"
    let body ← block fuel
    return .other (.expr target :: .expr source :: partsOf body ++ partsOf (← elseBlock fuel))

/-- A managed block after `with`. -/
def withStatement : Nat → Reading Stmt
  | 0 => failure
  | fuel + 1 => do
    let items ← withItems fuel
    return .other (items ++ partsOf (← block fuel))

/-- Handlers after `try`: all of one kind, or only a final block. -/
def tryStatement : Nat → Reading Stmt
  | 0 => failure
  | fuel + 1 => do
    mark ":"
    let body ← block fuel
    let handler (starred : Bool) : Reading Part := do
      word "except"
      if starred then mark "*"
      let caught ← if ← seesMark ":" then (if starred then failure else pure []) else do
        let e ← expression fuel
        if ← acceptsWord "as" then
          let _ ← name
        pure [Part.expr e]
      mark ":"
      return .group (caught ++ partsOf (← block fuel))
    let starred : Bool := match ← get with
      | .keyword "except" :: .mark "*" :: _ => true
      | _ => false
    let handlers ← many (handler starred) (← left)
    let orelse ← if handlers.isEmpty then pure [] else elseBlock fuel
    let final ← if ← acceptsWord "finally" then do
        mark ":"
        some <$> block fuel
      else pure none
    if handlers.isEmpty && final.isNone then failure
    return .other (partsOf body ++ handlers ++ partsOf orelse ++ partsOf (final.getD []))

/-- A `match` statement. -/
def matchStatement : Nat → Reading Stmt
  | 0 => failure
  | fuel + 1 => do
    expect (.name "match")
    let subject ← matchSubject fuel
    mark ":"
    expect .newline
    expect .indent
    let case : Reading Part := do
      expect (.name "case")
      let p ← casePatterns fuel
      let guard ← if ← acceptsWord "if" then some <$> namedExpression fuel else pure none
      mark ":"
      return .group (p :: (guard.toList.map .expr) ++ partsOf (← block fuel))
    let first ← case
    let rest ← many case (← left)
    expect .dedent
    return .other (.expr subject :: first :: rest)

end

end RouteAtlas.Syntax
