import RouteAtlas.Syntax.StmtGrammar
import RouteAtlas.Text.Cut

/-!
# Reading source text

`readModule` reads a source file and `readExpr` a single expression. Both refuse text that is not
well-formed, and a null character before anything else. `literalValue?` reads a text as a literal: a
string, an integer, a float or a truth value, numbers with an optional sign.
-/

namespace RouteAtlas.Syntax

open RouteAtlas.Text Reading

/-- Why a source text has no syntax tree. -/
inductive SyntaxFault where
  /-- The text holds a null character. -/
  | nullCharacter
  /-- The text follows no rule of the grammar. -/
  | malformed
deriving Repr, DecidableEq, Inhabited

/-- A bound on the depth of the syntax tree of a text; each character deepens it by less than sixteen. -/
def depthBound (cs : List Char) : Nat := 16 * (cs.length + 8)

/-- A reading of a whole token list. -/
def readAll {α : Type} (p : Reading α) (tokens : List Token) : Except SyntaxFault α :=
  match p.run tokens with
  | some (a, []) => .ok a
  | _ => .error .malformed

/-- Reads source text with the given grammar, after its line ends are unified. -/
def readSource {α : Type} (p : Nat → Reading α) (cs : List Char) : Except SyntaxFault α :=
  if cs.contains (Char.ofNat 0) then .error .nullCharacter
  else
    match Token.scan cs with
    | none => .error .malformed
    | some tokens => readAll (p (depthBound cs)) tokens

/-- The statements of a file; an empty file has none. -/
def moduleGrammar (fuel : Nat) : Reading Module := do
  if (← get).isEmpty then return ⟨[]⟩ else return ⟨← statements fuel⟩

/-- A single expression, or several that make a tuple, with line ends after it. -/
def expressionGrammar (fuel : Nat) : Reading Expr := do
  let (items, comma) ← commaList (expression fuel)
  let _ ← many (expect .newline) (← left)
  return tupleOf items comma

/-- Reads a source file. Its last line may lack a line end. -/
def readModule (s : String) : Except SyntaxFault Module :=
  let cs := sourceLines s.toList
  readSource moduleGrammar (if cs.getLast? = some '\n' then cs else cs ++ ['\n'])

/-- Reads an expression. -/
def readExpr (s : String) : Except SyntaxFault Expr :=
  readSource expressionGrammar (sourceLines s.toList)

/-! ## Literal values -/

/-- A literal value. -/
inductive Scalar where
  | str (s : String)
  | surrogate (t : SurrogateText)
  | int (n : Int)
  | float (x : Float)
  | bool (b : Bool)
deriving Repr, BEq, Inhabited

/-- The literal value of an expression. -/
def Expr.scalar? : Expr → Option Scalar
  | .constant (.str s _) => some (.str s)
  | .constant (.surrogate t _) => some (.surrogate t)
  | .constant (.int n) => some (.int n)
  | .constant (.float x) => some (.float x)
  | .constant (.bool b) => some (.bool b)
  | .unary .plus (.constant (.int n)) => some (.int n)
  | .unary .plus (.constant (.float x)) => some (.float x)
  | .unary .minus (.constant (.int n)) => some (.int (-n))
  | .unary .minus (.constant (.float x)) => some (.float (-x))
  | _ => none

/-- The literal value that a text spells. Blanks and tabs before it do not count. -/
def literalValue? (s : String) : Option Scalar :=
  let cs := s.toList.dropWhile fun c => c == ' ' || c == '\t'
  match readExpr (String.ofList cs) with
  | .ok e => e.scalar?
  | .error _ => none

end RouteAtlas.Syntax
