import RouteAtlas.Syntax.Reading
import RouteAtlas.Syntax.Formatted
import RouteAtlas.Syntax.Lexer

/-!
# The grammar of expressions

Expressions, parameter lists, comprehension clauses, call arguments and formatted texts. Every function
takes a bound on the depth of the syntax tree; `RouteAtlas.Syntax.Source` supplies one that no source
reaches.
-/

namespace RouteAtlas.Syntax

open Reading

/-- The left-grouping operators, loosest first. -/
def binaryLevels : List (List (String × BinaryOp)) :=
  [[("|", .bitOr)], [("^", .bitXor)], [("&", .bitAnd)],
    [("<<", .leftShift), (">>", .rightShift)],
    [("+", .add), ("-", .sub)],
    [("*", .mult), ("/", .div), ("//", .floorDiv), ("%", .mod), ("@", .matMult)]]

/-- The operator of a level that a token is. -/
def operatorOf? (level : List (String × BinaryOp)) : Token → Option BinaryOp
  | .mark s => level.lookup s
  | _ => none

/-- Operands joined by the operators of these levels. -/
def levelled (operand : Reading Expr) : List (List (String × BinaryOp)) → Reading Expr
  | [] => operand
  | level :: tighter => chain (operatorOf? level) .binary (levelled operand tighter)

/-- A comparison operator. -/
def compareOp : Reading CompareOp := do
  match ← take with
  | .mark "==" => return .eq
  | .mark "!=" => return .notEq
  | .mark "<" => return .less
  | .mark "<=" => return .lessEq
  | .mark ">" => return .greater
  | .mark ">=" => return .greaterEq
  | .keyword "in" => return .isIn
  | .keyword "not" => word "in"; return .notIn
  | .keyword "is" => return if ← acceptsWord "not" then .isNot else .is
  | _ => failure

mutual

/-- An expression that can be assigned to, inside a list of targets. -/
def Expr.isTarget : Expr → Bool
  | .name _ => true
  | .attribute _ _ => true
  | .subscript _ _ => true
  | .starred value => value.isTarget && !value.isStarred
  | .tuple items => areTargets items
  | .list items => areTargets items
  | _ => false

/-- All of these can be assigned to. -/
def areTargets : List Expr → Bool
  | [] => true
  | e :: r => e.isTarget && areTargets r

/-- An unpacked expression. -/
def Expr.isStarred : Expr → Bool
  | .starred _ => true
  | _ => false

end

/-- An assignment target that is one place: a name, an attribute or a subscript. -/
def Expr.isPlace : Expr → Bool
  | .name _ => true
  | .attribute _ _ => true
  | .subscript _ _ => true
  | _ => false

mutual

/-- An expression that can be deleted. -/
def Expr.isDeletable : Expr → Bool
  | .name _ => true
  | .attribute _ _ => true
  | .subscript _ _ => true
  | .tuple items => areDeletable items
  | .list items => areDeletable items
  | _ => false

/-- All of these can be deleted. -/
def areDeletable : List Expr → Bool
  | [] => true
  | e :: r => e.isDeletable && areDeletable r

end

/-- One item alone, or the tuple of several; a comma at the end makes a tuple of one. -/
def tupleOf (items : List Expr) (comma : Bool) : Expr :=
  match items, comma with
  | [e], false => e
  | es, _ => .tuple es

/-- A parameter as declared, in source order. -/
inductive DeclaredParam where
  | positional (p : Param Expr) (default? : Option Expr)
  /-- The slash after positional-only parameters. -/
  | slash
  | rest (p : Param Expr)
  /-- The star before keyword-only parameters. -/
  | star
  | keywordRest (p : Param Expr)

/-- Adds a declared parameter to a parameter list; `afterStar` tells that a star stands before. Nothing
where the parameter may not stand. -/
def Signature.add? (s : Signature Expr) (afterStar : Bool) : DeclaredParam → Option (Signature Expr)
  | .positional p none =>
    if s.keywordRest.isSome then none
    else if afterStar then
      some { s with keywordOnly := s.keywordOnly ++ [p], keywordDefaults := s.keywordDefaults ++ [none] }
    else if s.defaults.isEmpty then some { s with ordinary := s.ordinary ++ [p] }
    else none
  | .positional p (some d) =>
    if s.keywordRest.isSome then none
    else if afterStar then
      some { s with
        keywordOnly := s.keywordOnly ++ [p], keywordDefaults := s.keywordDefaults ++ [some d] }
    else some { s with ordinary := s.ordinary ++ [p], defaults := s.defaults ++ [d] }
  | .slash =>
    if afterStar || s.keywordRest.isSome || s.ordinary.isEmpty || !s.positionalOnly.isEmpty then none
    else some { s with positionalOnly := s.ordinary, ordinary := [] }
  | .rest p =>
    if afterStar || s.keywordRest.isSome then none else some { s with rest := some p }
  | .star => if afterStar || s.keywordRest.isSome then none else some s
  | .keywordRest p => if s.keywordRest.isSome then none else some { s with keywordRest := some p }

/-- The parameter list that declarations make; a bare star needs a parameter after it. -/
def Signature.ofDeclared (s : Signature Expr) (afterStar bareStar : Bool) :
    List DeclaredParam → Option (Signature Expr)
  | [] => if bareStar then none else some s
  | d :: r =>
    match s.add? afterStar d with
    | none => none
    | some s =>
      match d with
      | .star => ofDeclared s true true r
      | .rest _ => ofDeclared s true false r
      | .positional _ _ => ofDeclared s afterStar false r
      | .keywordRest _ => if bareStar then none else ofDeclared s afterStar false r
      | .slash => ofDeclared s afterStar bareStar r

/-- How far the arguments of a call have come. -/
inductive ArgumentStage where
  | positional
  /-- A keyword argument stands before. -/
  | keyword
  /-- An unpacked mapping stands before. -/
  | mapping
deriving Repr, DecidableEq, Inhabited

/-- A piece of a formatted text: a literal stretch or a replacement field. -/
inductive Piece where
  | literal (codes : List Nat)
  | field (e : Expr)

/-- The parts of a formatted text: neighbouring literal stretches become one, empty ones none. -/
def joinPieces (marked : Bool) (held : List Nat) : List Piece → List Expr
  | [] => if held.isEmpty then [] else [.constant (.ofCodes held marked)]
  | .literal codes :: r => joinPieces marked (held ++ codes) r
  | .field e :: r =>
    (if held.isEmpty then [] else [.constant (.ofCodes held marked)]) ++
      e :: joinPieces marked [] r

/-- A walrus assignment comes next. -/
def seesWalrus : Reading Bool := do
  match ← get with
  | .name _ :: .mark ":=" :: _ => return true
  | _ => return false

/-- A comprehension clause comes next. -/
def seesClause : Reading Bool := do
  return (← seesWord "for") || (← seesWord "async")

mutual

/-- An expression or a walrus assignment. -/
def namedExpression : Nat → Reading Expr
  | 0 => failure
  | fuel + 1 => do
    if ← seesWalrus then
      let id ← name
      mark ":="
      return .named (.name id) (← expression fuel)
    else expression fuel

/-- An expression. -/
def expression : Nat → Reading Expr
  | 0 => failure
  | fuel + 1 => do
    if ← acceptsWord "lambda" then
      let signature ← parameters fuel false ":"
      mark ":"
      return .lambda signature (← expression fuel)
    else
      let body ← disjunction fuel
      let tail : Reading Expr := do
        word "if"
        let test ← disjunction fuel
        word "else"
        return .conditional test body (← expression fuel)
      tail <|> pure body

/-- Conjunctions joined by `or`. -/
def disjunction : Nat → Reading Expr
  | 0 => failure
  | fuel + 1 => do
    let first ← conjunction fuel
    let rest ← many (do word "or"; conjunction fuel) (← left)
    return match rest with
      | [] => first
      | second :: rest => .boolean .or first second rest

/-- Inversions joined by `and`. -/
def conjunction : Nat → Reading Expr
  | 0 => failure
  | fuel + 1 => do
    let first ← inversion fuel
    let rest ← many (do word "and"; inversion fuel) (← left)
    return match rest with
      | [] => first
      | second :: rest => .boolean .and first second rest

/-- A comparison, or `not` before one. -/
def inversion : Nat → Reading Expr
  | 0 => failure
  | fuel + 1 => do
    if ← acceptsWord "not" then return .unary .not (← inversion fuel)
    else
      let first ← bitwiseOr fuel
      let rest ← many (do let op ← compareOp; return (op, ← bitwiseOr fuel)) (← left)
      return match rest with
        | [] => first
        | (op, second) :: rest => .compare first op second rest

/-- Operands joined by arithmetic and bitwise operators. -/
def bitwiseOr : Nat → Reading Expr
  | 0 => failure
  | fuel + 1 => levelled (factor fuel) binaryLevels

/-- A power, or a sign before one. -/
def factor : Nat → Reading Expr
  | 0 => failure
  | fuel + 1 => do
    if ← acceptsMark "+" then return .unary .plus (← factor fuel)
    else if ← acceptsMark "-" then return .unary .minus (← factor fuel)
    else if ← acceptsMark "~" then return .unary .invert (← factor fuel)
    else
      let base ← if ← acceptsWord "await" then .await <$> primary fuel else primary fuel
      if ← acceptsMark "**" then return .binary .pow base (← factor fuel)
      else return base

/-- An atom with its attributes, calls and subscripts. -/
def primary : Nat → Reading Expr
  | 0 => failure
  | fuel + 1 => do trailers fuel (← atom fuel)

/-- The attributes, calls and subscripts that follow an expression. -/
def trailers : Nat → Expr → Reading Expr
  | 0, _ => failure
  | fuel + 1, e => do
    if ← acceptsMark "." then trailers fuel (.attribute e (← name))
    else if ← acceptsMark "(" then
      let (args, keywords) ← arguments fuel true .positional [] []
      trailers fuel (.call e args keywords)
    else if ← acceptsMark "[" then
      let (items, comma) ← commaList (subscriptItem fuel)
      mark "]"
      let index := match items, comma with
        | [.starred v], false => .tuple [.starred v]
        | items, comma => tupleOf items comma
      trailers fuel (.subscript e index)
    else return e

/-- An item of a subscript: a slice, an unpacked expression or an expression. -/
def subscriptItem : Nat → Reading Expr
  | 0 => failure
  | fuel + 1 => do
    if ← acceptsMark "*" then return .starred (← expression fuel)
    else if ← seesWalrus then namedExpression fuel
    else
      let lower ← if ← seesMark ":" then pure none else some <$> expression fuel
      if ← acceptsMark ":" then
        let upper ← optional (expression fuel)
        let step ← if ← acceptsMark ":" then optional (expression fuel) else pure none
        return .slice lower upper step
      else match lower with
        | some e => return e
        | none => failure

/-- The arguments of a call up to the closing bracket. `generators` allows a bare generator as the only
argument. -/
def arguments : Nat → Bool → ArgumentStage → List Expr → List (Option String × Expr) →
    Reading (List Expr × List (Option String × Expr))
  | 0, _, _, _, _ => failure
  | fuel + 1, generators, stage, args, keywords => do
    if ← acceptsMark ")" then return (args, keywords)
    else
      let proceed (stage : ArgumentStage) (args : List Expr) (keywords : List (Option String × Expr)) :
          Reading (List Expr × List (Option String × Expr)) := do
        if ← acceptsMark "," then arguments fuel false stage args keywords
        else
          mark ")"
          return (args, keywords)
      if ← acceptsMark "**" then
        let e ← expression fuel
        proceed .mapping args (keywords ++ [(none, e)])
      else if ← acceptsMark "*" then
        if stage = .mapping then failure
        let e ← expression fuel
        proceed stage (args ++ [.starred e]) keywords
      else
        match ← get with
        | .name id :: .mark "=" :: r =>
          set r
          let e ← expression fuel
          let stage := if stage = .positional then .keyword else stage
          proceed stage args (keywords ++ [(some id, e)])
        | _ =>
          if stage ≠ .positional then failure
          let e ← namedExpression fuel
          if ← seesClause then
            if !generators then failure
            let clauses ← clauses fuel
            mark ")"
            return ([.generator e clauses], [])
          else proceed stage (args ++ [e]) keywords

/-- An atom. -/
def atom : Nat → Reading Expr
  | 0 => failure
  | fuel + 1 => do
    match ← take with
    | .name id => return .name id
    | .keyword "True" => return .constant (.bool true)
    | .keyword "False" => return .constant (.bool false)
    | .keyword "None" => return .constant .none
    | .number c => return .constant c
    | .mark "..." => return .constant .ellipsis
    | .text literal =>
      let rest ← many (do
        match ← take with
        | .text literal => return literal
        | _ => failure) (← left)
      texts fuel (literal :: rest)
    | .mark "(" => parenthesized fuel
    | .mark "[" =>
      if ← acceptsMark "]" then return .list []
      else
        let first ← starNamed fuel
        if (← seesClause) && !first.isStarred then
          let clauses ← clauses fuel
          mark "]"
          return .listComp first clauses
        else
          let items ← moreAfter "," (starNamed fuel)
          let _ ← acceptsMark ","
          mark "]"
          return .list (first :: items)
    | .mark "\x7b" => braced fuel
    | _ => failure

/-- What follows an opening parenthesis. -/
def parenthesized : Nat → Reading Expr
  | 0 => failure
  | fuel + 1 => do
    if ← acceptsMark ")" then return .tuple []
    else if ← seesWord "yield" then
      let e ← yieldExpression fuel
      mark ")"
      return e
    else
      let first ← starNamed fuel
      if (← seesClause) && !first.isStarred then
        let clauses ← clauses fuel
        mark ")"
        return .generator first clauses
      else
        let items ← moreAfter "," (starNamed fuel)
        let comma ← acceptsMark ","
        mark ")"
        if first.isStarred && items.isEmpty && !comma then failure
        return tupleOf (first :: items) comma

/-- What follows an opening brace. -/
def braced : Nat → Reading Expr
  | 0 => failure
  | fuel + 1 => do
    if ← acceptsMark "\x7d" then return .dict []
    else if ← seesMark "**" then dictRest fuel []
    else
      let walrus ← seesWalrus
      let first ← starNamed fuel
      if (← seesMark ":") && !walrus && !first.isStarred then
        mark ":"
        let value ← expression fuel
        if ← seesClause then
          let clauses ← clauses fuel
          mark "\x7d"
          return .dictComp first value clauses
        else if ← acceptsMark "," then dictRest fuel [(some first, value)]
        else
          mark "\x7d"
          return .dict [(some first, value)]
      else if (← seesClause) && !first.isStarred then
        let clauses ← clauses fuel
        mark "\x7d"
        return .setComp first clauses
      else
        let items ← moreAfter "," (starNamed fuel)
        let _ ← acceptsMark ","
        mark "\x7d"
        return .set (first :: items)

/-- The entries of a dictionary from here to its closing brace. -/
def dictRest : Nat → List (Option Expr × Expr) → Reading Expr
  | 0, _ => failure
  | fuel + 1, entries => do
    let entry : Reading (Option Expr × Expr) := do
      if ← acceptsMark "**" then return (none, ← bitwiseOr fuel)
      else
        let key ← expression fuel
        mark ":"
        return (some key, ← expression fuel)
    if ← acceptsMark "\x7d" then return .dict entries
    else
      let (more, _) ← commaList entry
      mark "\x7d"
      return .dict (entries ++ more)

/-- An unpacked expression, an expression or a walrus assignment. -/
def starNamed : Nat → Reading Expr
  | 0 => failure
  | fuel + 1 => do
    if ← acceptsMark "*" then return .starred (← bitwiseOr fuel) else namedExpression fuel

/-- An unpacked expression or an expression. -/
def starExpression : Nat → Reading Expr
  | 0 => failure
  | fuel + 1 => do
    if ← acceptsMark "*" then return .starred (← bitwiseOr fuel) else expression fuel

/-- One or more expressions, a tuple if there are commas. -/
def starExpressions : Nat → Reading Expr
  | 0 => failure
  | fuel + 1 => do
    let (items, comma) ← commaList (starExpression fuel)
    return tupleOf items comma

/-- A `yield` expression. -/
def yieldExpression : Nat → Reading Expr
  | 0 => failure
  | fuel + 1 => do
    word "yield"
    if ← acceptsWord "from" then return .yieldFrom (← expression fuel)
    else return .yield (← optional (starExpressions fuel))

/-- One target of a `for` clause or a `with` item. -/
def target : Nat → Reading Expr
  | 0 => failure
  | fuel + 1 => do
    let e ← if ← acceptsMark "*" then .starred <$> primary fuel else primary fuel
    if e.isTarget then return e else failure

/-- The targets of a `for` clause. -/
def targets : Nat → Reading Expr
  | 0 => failure
  | fuel + 1 => do
    let (items, comma) ← commaList (target fuel)
    return tupleOf items comma

/-- The `for` clauses of a comprehension, one or more. -/
def clauses : Nat → Reading (List (Clause Expr))
  | 0 => failure
  | fuel + 1 => do
    let one : Reading (Clause Expr) := do
      let isAsync ← acceptsWord "async"
      word "for"
      let target ← targets fuel
      word "in"
      let source ← disjunction fuel
      let conditions ← many (do word "if"; disjunction fuel) (← left)
      return ⟨isAsync, target, source, conditions⟩
    return (← one) :: (← many one (← left))

/-- A parameter list up to the mark that ends it, which stays. -/
def parameters : Nat → Bool → String → Reading (Signature Expr)
  | 0, _, _ => failure
  | fuel + 1, annotated, ending => do
    let hint (starred : Bool) : Reading (Option Expr) := do
      if !annotated then return none
      if ← acceptsMark ":" then
        some <$> (if starred then starExpression fuel else expression fuel)
      else return none
    let one : Reading DeclaredParam := do
      if ← acceptsMark "/" then return .slash
      else if ← acceptsMark "**" then
        let id ← name
        return .keywordRest ⟨id, ← hint false⟩
      else if ← acceptsMark "*" then
        if ← seesMark "," then return .star
        else
          let id ← name
          return .rest ⟨id, ← hint true⟩
      else
        let id ← name
        let note ← hint false
        let default? ← if ← acceptsMark "=" then some <$> expression fuel else pure none
        return .positional ⟨id, note⟩ default?
    let declared ← if ← seesMark ending then pure [] else do
      let (items, _) ← commaList one
      pure items
    if !(← seesMark ending) then failure
    match Signature.ofDeclared .empty false false declared with
    | some s => return s
    | none => failure

/-- Neighbouring text literals: one text, one byte string, or one formatted text. -/
def texts : Nat → List TextLiteral → Reading Expr
  | 0, _ => failure
  | fuel + 1, literals => do
    let marked := literals.head?.any (·.marked)
    if literals.all (·.bytes) then
      match literals.mapM (·.decodeBytes) with
      | some parts => return .constant (.bytes parts.flatten)
      | none => failure
    else if literals.any (·.bytes) then failure
    else if literals.any (·.formatted) then
      match piecesOf fuel literals with
      | some pieces => return .joined (joinPieces marked [] pieces)
      | none => failure
    else
      match literals.mapM fun l => TextLiteral.decodeText l.raw l.body with
      | some parts => return .constant (.ofCodes parts.flatten marked)
      | none => failure

/-- The pieces of neighbouring literals, formatted or not. -/
def piecesOf : Nat → List TextLiteral → Option (List Piece)
  | 0, _ => none
  | _ + 1, [] => some []
  | fuel + 1, l :: r =>
    if l.formatted then
      match pieces fuel l.raw 0 l.body with
      | some (own, []) => (piecesOf fuel r).map (own ++ ·)
      | _ => none
    else
      match TextLiteral.decodeText l.raw l.body with
      | some codes => (piecesOf fuel r).map (.literal codes :: ·)
      | none => none

/-- The pieces of a formatted text, and what is left: nothing at the top level, the closing brace of the
field in a format specification. -/
def pieces : Nat → Bool → Nat → List Char → Option (List Piece × List Char)
  | 0, _, _, _ => none
  | fuel + 1, raw, level, cs =>
    match Formatted.literal raw (level == 0) [] cs with
    | none => none
    | some (stretch, again, r) =>
      match TextLiteral.decodeText raw stretch with
      | none => none
      | some stretch =>
        let own : List Piece := [.literal stretch]
        if again then (pieces fuel raw level r).map fun (more, rest) => (own ++ more, rest)
        else
          match r with
          | '\x7b' :: r =>
            match field fuel raw level r with
            | none => none
            | some (shown, e, r) =>
              (pieces fuel raw level r).map fun (more, rest) =>
                (own ++ .literal (shown.map Char.toNat) :: .field e :: more, rest)
          | r => some (own, r)

/-- A replacement field after its opening brace: the text it shows of itself, the field, and the rest. -/
def field : Nat → Bool → Nat → List Char → Option (List Char × Expr × List Char)
  | 0, _, _, _ => none
  | fuel + 1, raw, level, cs =>
    if 2 ≤ level then none
    else match Formatted.fieldText none [] [] cs with
      | none => none
      | some (source, r) =>
        if Formatted.isBlankField source then none
        else match Token.scan ('(' :: source ++ [')', '\n']) with
          | none => none
          | some tokens =>
            match (starExpressions fuel).run tokens with
            | none => none
            | some (value, _) =>
              let (shown, r) := match r with
                | '=' :: t =>
                  let blanks := t.takeWhile Formatted.isFieldBlank
                  (source ++ '=' :: blanks, t.drop blanks.length)
                | r => ([], r)
              match (match r with
                | '!' :: c :: t =>
                  if c == 's' || c == 'r' || c == 'a' then some (some c, t) else none
                | '!' :: [] => none
                | r => some (none, r)) with
              | none => none
              | some (conversion, r) =>
                match (match r with
                  | ':' :: t =>
                    match pieces fuel raw (level + 1) t with
                    | some (own, rest) => some (some (Expr.joined (joinPieces false [] own)), rest)
                    | none => none
                  | r => some (none, r)) with
                | none => none
                | some (spec, r) =>
                  match r with
                  | '\x7d' :: r =>
                    let conversion :=
                      if !shown.isEmpty && spec.isNone && conversion.isNone then some 'r'
                      else conversion
                    some (shown, .replacement value conversion spec, r)
                  | _ => none

end

end RouteAtlas.Syntax
