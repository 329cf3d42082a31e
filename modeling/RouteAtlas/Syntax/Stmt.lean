import RouteAtlas.Syntax.Expr
import RouteAtlas.Text.Cut

/-!
# Statements of Python source

Declarations, assignments and imports keep their structure; any other statement keeps the outline of
its expressions and blocks. `Module.callLevels` lists every call of a module level by level, from the
outside in and left to right within a level.
-/

namespace RouteAtlas.Syntax

mutual

/-- A statement. -/
inductive Stmt where
  | classDef (name : String) (bases : List Expr) (keywords : List (Option String × Expr))
      (body : List Stmt) (decorators : List Expr)
  | function (name : String) (signature : Signature Expr) (body : List Stmt)
      (decorators : List Expr) (returns : Option Expr)
  | assign (targets : List Expr) (value : Expr)
  | annAssign (target hint : Expr) (value : Option Expr)
  | importNames (names : List (String × Option String))
  | importFrom (module : Option String) (names : List (String × Option String))
  | expr (value : Expr)
  /-- Any other statement, by its parts in order. -/
  | other (parts : List Part)

/-- A part of a statement. -/
inductive Part where
  | expr (e : Expr)
  | stmt (s : Stmt)
  /-- Parts that belong to one clause. -/
  | group (parts : List Part)

end

deriving instance Repr for Stmt, Part
deriving instance BEq for Stmt, Part

instance : Inhabited Stmt := ⟨.other []⟩

/-- A source file: its statements. -/
structure Module where
  body : List Stmt
deriving Repr, BEq, Inhabited

/-- A call: what is called, its positional arguments and its keyword arguments. -/
structure Call where
  func : Expr
  args : List Expr
  keywords : List (Option String × Expr)
deriving Repr, BEq, Inhabited

/-- Two lists of levels side by side. -/
def mergeLevels {α : Type} : List (List α) → List (List α) → List (List α)
  | [], ys => ys
  | xs, [] => xs
  | x :: xs, y :: ys => (x ++ y) :: mergeLevels xs ys

mutual

/-- The calls of an expression by level; the expression itself is the first level. -/
def Expr.callLevels : Expr → List (List Call)
  | .constant _ => [[]]
  | .name _ => [[]]
  | .attribute value _ => [] :: value.callLevels
  | .subscript value index => [] :: mergeLevels value.callLevels index.callLevels
  | .call func args keywords =>
    [⟨func, args, keywords⟩] :: mergeLevels func.callLevels
      (mergeLevels (callLevelsAll args) (callLevelsKeywords keywords))
  | .binary _ left right => [] :: mergeLevels left.callLevels right.callLevels
  | .unary _ operand => [] :: operand.callLevels
  | .boolean _ first second rest =>
    [] :: mergeLevels first.callLevels (mergeLevels second.callLevels (callLevelsAll rest))
  | .compare first _ second rest =>
    [] :: mergeLevels first.callLevels (mergeLevels second.callLevels (callLevelsCompared rest))
  | .conditional test body orelse =>
    [] :: mergeLevels test.callLevels (mergeLevels body.callLevels orelse.callLevels)
  | .lambda signature body => [] :: mergeLevels (callLevelsSignature signature) body.callLevels
  | .tuple items => [] :: callLevelsAll items
  | .list items => [] :: callLevelsAll items
  | .set items => [] :: callLevelsAll items
  | .dict entries => [] :: mergeLevels (callLevelsKeys entries) (callLevelsValues entries)
  | .listComp item clauses => [] :: mergeLevels item.callLevels (callLevelsClauses clauses)
  | .setComp item clauses => [] :: mergeLevels item.callLevels (callLevelsClauses clauses)
  | .generator item clauses => [] :: mergeLevels item.callLevels (callLevelsClauses clauses)
  | .dictComp key value clauses =>
    [] :: mergeLevels key.callLevels (mergeLevels value.callLevels (callLevelsClauses clauses))
  | .await value => [] :: value.callLevels
  | .yield value => [] :: callLevelsOption value
  | .yieldFrom value => [] :: value.callLevels
  | .named target value => [] :: mergeLevels target.callLevels value.callLevels
  | .starred value => [] :: value.callLevels
  | .slice lower upper step =>
    [] :: mergeLevels (callLevelsOption lower)
      (mergeLevels (callLevelsOption upper) (callLevelsOption step))
  | .joined parts => [] :: callLevelsAll parts
  | .replacement value _ spec => [] :: mergeLevels value.callLevels (callLevelsOption spec)

/-- The calls of expressions side by side. -/
def callLevelsAll : List Expr → List (List Call)
  | [] => []
  | e :: r => mergeLevels e.callLevels (callLevelsAll r)

/-- The calls of an expression that may be absent. -/
def callLevelsOption : Option Expr → List (List Call)
  | none => []
  | some e => e.callLevels

/-- The calls of keyword arguments, each a level further in. -/
def callLevelsKeywords : List (Option String × Expr) → List (List Call)
  | [] => []
  | (_, e) :: r => mergeLevels ([] :: e.callLevels) (callLevelsKeywords r)

/-- The calls of compared operands. -/
def callLevelsCompared : List (CompareOp × Expr) → List (List Call)
  | [] => []
  | (_, e) :: r => mergeLevels e.callLevels (callLevelsCompared r)

/-- The calls of the keys of a dictionary. -/
def callLevelsKeys : List (Option Expr × Expr) → List (List Call)
  | [] => []
  | (k, _) :: r => mergeLevels (callLevelsOption k) (callLevelsKeys r)

/-- The calls of the values of a dictionary. -/
def callLevelsValues : List (Option Expr × Expr) → List (List Call)
  | [] => []
  | (_, v) :: r => mergeLevels v.callLevels (callLevelsValues r)

/-- The calls of comprehension clauses, each a level further in. -/
def callLevelsClauses : List (Clause Expr) → List (List Call)
  | [] => []
  | ⟨_, target, source, conditions⟩ :: r =>
    mergeLevels
      ([] :: mergeLevels target.callLevels
        (mergeLevels source.callLevels (callLevelsAll conditions)))
      (callLevelsClauses r)

/-- The calls of a parameter list, which is a level of its own. -/
def callLevelsSignature : Signature Expr → List (List Call)
  | ⟨positionalOnly, ordinary, rest, keywordOnly, keywordDefaults, keywordRest, defaults⟩ =>
    [] :: mergeLevels (callLevelsParams positionalOnly)
      (mergeLevels (callLevelsParams ordinary)
        (mergeLevels (callLevelsParam? rest)
          (mergeLevels (callLevelsParams keywordOnly)
            (mergeLevels (callLevelsOptions keywordDefaults)
              (mergeLevels (callLevelsParam? keywordRest) (callLevelsAll defaults))))))

/-- The calls in the annotations of parameters, each a level further in. -/
def callLevelsParams : List (Param Expr) → List (List Call)
  | [] => []
  | ⟨_, hint⟩ :: r =>
    mergeLevels ([] :: callLevelsOption hint) (callLevelsParams r)

/-- The calls in the annotation of a parameter that may be absent. -/
def callLevelsParam? : Option (Param Expr) → List (List Call)
  | none => []
  | some ⟨_, hint⟩ => [] :: callLevelsOption hint

/-- The calls of expressions that may be absent. -/
def callLevelsOptions : List (Option Expr) → List (List Call)
  | [] => []
  | e :: r => mergeLevels (callLevelsOption e) (callLevelsOptions r)

end

mutual

/-- The calls of a statement by level; the statement itself is the first level. -/
def Stmt.callLevels : Stmt → List (List Call)
  | .classDef _ bases keywords body decorators =>
    [] :: mergeLevels (callLevelsAll bases)
      (mergeLevels (callLevelsKeywords keywords)
        (mergeLevels (callLevelsBlock body) (callLevelsAll decorators)))
  | .function _ signature body decorators returns =>
    [] :: mergeLevels (callLevelsSignature signature)
      (mergeLevels (callLevelsBlock body)
        (mergeLevels (callLevelsAll decorators) (callLevelsOption returns)))
  | .assign targets value => [] :: mergeLevels (callLevelsAll targets) value.callLevels
  | .annAssign target hint value =>
    [] :: mergeLevels target.callLevels (mergeLevels hint.callLevels (callLevelsOption value))
  | .importNames _ => [[]]
  | .importFrom _ _ => [[]]
  | .expr value => [] :: value.callLevels
  | .other parts => [] :: callLevelsParts parts

/-- The calls of a block. -/
def callLevelsBlock : List Stmt → List (List Call)
  | [] => []
  | s :: r => mergeLevels s.callLevels (callLevelsBlock r)

/-- The calls of a part. -/
def Part.callLevels : Part → List (List Call)
  | .expr e => e.callLevels
  | .stmt s => s.callLevels
  | .group parts => [] :: callLevelsParts parts

/-- The calls of parts. -/
def callLevelsParts : List Part → List (List Call)
  | [] => []
  | p :: r => mergeLevels p.callLevels (callLevelsParts r)

end

/-- Every call of a module, level by level. -/
def Module.calls (m : Module) : List Call := (callLevelsBlock m.body).flatten

/-! ## Docstrings

The text that begins the body of a declaration, with its indentation taken off: tabs become blanks up
to the next column of eight, the margin that all later lines share is cut, and empty lines at both ends
are dropped. -/

section Docstring

open RouteAtlas.Text

/-- Tabs become blanks up to the next multiple of eight columns. -/
def expandTabs (column : Nat) : List Char → List Char
  | [] => []
  | c :: r =>
    if c == '\t' then List.replicate (8 - column % 8) ' ' ++ expandTabs (column + (8 - column % 8)) r
    else if c == '\n' || c == '\r' then c :: expandTabs 0 r
    else c :: expandTabs (column + 1) r

/-- The width of the blanks that begin a line; nothing for a blank line. -/
def lineMargin? (line : List Char) : Option Nat :=
  let content := line.dropWhile isBlank
  if content.isEmpty then none else some (line.length - content.length)

/-- The smallest margin of these lines. -/
def commonMargin? (lines : List (List Char)) : Option Nat := (lines.filterMap lineMargin?).min?

/-- A docstring without the indentation of the source around it. -/
def cleanDoc (s : String) : String :=
  match (expandTabs 0 s.toList).splitOn '\n' with
  | [] => ""
  | first :: rest =>
    let margin := (commonMargin? rest).getD 0
    let lines := first.dropWhile isBlank :: rest.map (·.drop margin)
    let lines := (dropTrailing (·.isEmpty) lines).dropWhile (·.isEmpty)
    String.ofList (['\n'].intercalate lines)
where
  /-- Drops a trailing run of lines in the class. -/
  dropTrailing (p : List Char → Bool) (lines : List (List Char)) : List (List Char) :=
    (lines.reverse.dropWhile p).reverse

/-- The docstring of a body, if it begins with one. -/
def docstring? (body : List Stmt) : Option String :=
  match body with
  | .expr e :: _ => e.stringConstant?.map cleanDoc
  | _ => none

end Docstring

end RouteAtlas.Syntax
