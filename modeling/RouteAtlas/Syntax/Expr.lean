import RouteAtlas.Text.SurrogateText

/-!
# Expressions of Python source

The syntax tree of an expression. Parameter lists keep their defaults apart and right-aligned, so that
only trailing positional parameters can have one; `Signature.bindings` pairs them up again.
-/

namespace RouteAtlas.Syntax

open RouteAtlas.Text

/-- A literal constant. -/
inductive Constant where
  | none
  | bool (b : Bool)
  | ellipsis
  | int (n : Nat)
  | float (x : Float)
  /-- An imaginary number, by its size. -/
  | imaginary (x : Float)
  /-- A text; `marked` where its literal begins with the letter `u`. -/
  | str (s : String) (marked : Bool)
  /-- A text with surrogates, marked likewise. -/
  | surrogate (t : SurrogateText) (marked : Bool)
  | bytes (bs : List UInt8)
deriving Repr, BEq, Inhabited

/-- The text constant of these code points. -/
def Constant.ofCodes (codes : List Nat) (marked : Bool) : Constant :=
  match SurrogateText.ofCodes? codes with
  | some t => .surrogate t marked
  | .none => .str (String.ofList (codes.map Char.ofNat)) marked

/-- Operators between two operands. -/
inductive BinaryOp where
  | add | sub | mult | matMult | div | mod | floorDiv | pow
  | leftShift | rightShift | bitOr | bitXor | bitAnd
deriving Repr, DecidableEq, Inhabited

/-- Operators before one operand. -/
inductive UnaryOp where
  | invert | not | plus | minus
deriving Repr, DecidableEq, Inhabited

/-- The connectives. -/
inductive BoolOp where
  | and | or
deriving Repr, DecidableEq, Inhabited

/-- Comparisons. -/
inductive CompareOp where
  | eq | notEq | less | lessEq | greater | greaterEq | is | isNot | isIn | notIn
deriving Repr, DecidableEq, Inhabited

/-- A parameter's name and annotation. -/
structure Param (ε : Type) where
  name : String
  hint : Option ε
deriving Repr, BEq, Inhabited

/-- A parameter list. `defaults` belong to the last positional parameters. -/
structure Signature (ε : Type) where
  positionalOnly : List (Param ε)
  ordinary : List (Param ε)
  /-- The parameter that takes further positional arguments. -/
  rest : Option (Param ε)
  keywordOnly : List (Param ε)
  /-- The defaults of the keyword-only parameters, one for each. -/
  keywordDefaults : List (Option ε)
  /-- The parameter that takes further keyword arguments. -/
  keywordRest : Option (Param ε)
  defaults : List ε
deriving Repr, BEq, Inhabited

namespace Signature

variable {ε : Type}

/-- The empty parameter list. -/
def empty : Signature ε := ⟨[], [], none, [], [], none, []⟩

/-- The parameters that can be filled by position. -/
def positional (s : Signature ε) : List (Param ε) := s.positionalOnly ++ s.ordinary

/-- The defaults of the positional parameters, one for each. -/
def positionalDefaults (s : Signature ε) : List (Option ε) :=
  List.replicate (s.positional.length - s.defaults.length) none ++ s.defaults.map some

/-- The parameters that take one argument each, in source order, with their defaults. -/
def bindings (s : Signature ε) : List (Param ε × Option ε) :=
  s.positional.zip s.positionalDefaults ++ s.keywordOnly.zip s.keywordDefaults

/-- The parameter list is empty. -/
def isEmpty (s : Signature ε) : Bool :=
  s.positional.isEmpty && s.rest.isNone && s.keywordOnly.isEmpty && s.keywordRest.isNone

end Signature

/-- A `for` clause of a comprehension with its conditions. -/
structure Clause (ε : Type) where
  isAsync : Bool
  target : ε
  source : ε
  conditions : List ε
deriving Repr, BEq, Inhabited

/-- An expression. -/
inductive Expr where
  | constant (c : Constant)
  | name (id : String)
  | attribute (value : Expr) (attr : String)
  | subscript (value index : Expr)
  | call (func : Expr) (args : List Expr) (keywords : List (Option String × Expr))
  | binary (op : BinaryOp) (left right : Expr)
  | unary (op : UnaryOp) (operand : Expr)
  | boolean (op : BoolOp) (first second : Expr) (rest : List Expr)
  | compare (first : Expr) (op : CompareOp) (second : Expr) (rest : List (CompareOp × Expr))
  | conditional (test body orelse : Expr)
  | lambda (signature : Signature Expr) (body : Expr)
  | tuple (items : List Expr)
  | list (items : List Expr)
  | set (items : List Expr)
  /-- An entry without a key unpacks its value. -/
  | dict (entries : List (Option Expr × Expr))
  | listComp (item : Expr) (clauses : List (Clause Expr))
  | setComp (item : Expr) (clauses : List (Clause Expr))
  | generator (item : Expr) (clauses : List (Clause Expr))
  | dictComp (key value : Expr) (clauses : List (Clause Expr))
  | await (value : Expr)
  | yield (value : Option Expr)
  | yieldFrom (value : Expr)
  | named (target value : Expr)
  | starred (value : Expr)
  | slice (lower upper step : Option Expr)
  /-- A formatted text: literal parts and replacement fields. -/
  | joined (parts : List Expr)
  /-- A replacement field of a formatted text. -/
  | replacement (value : Expr) (conversion : Option Char) (spec : Option Expr)
deriving Repr, BEq, Inhabited

namespace Expr

/-- The last component of a dotted name, also below subscripts and calls; empty for other shapes. -/
def simpleName : Expr → String
  | .name id => id
  | .attribute _ attr => attr
  | .subscript value _ => value.simpleName
  | .call func _ _ => func.simpleName
  | _ => ""

/-- The arguments of a subscript: the items of a tuple, or the index alone. -/
def subscriptArgs (index : Expr) : List Expr :=
  match index with
  | .tuple items => items
  | e => [e]

/-- The constant `None`. -/
def isNoneConstant : Expr → Bool
  | .constant .none => true
  | _ => false

/-- The constant `...`. -/
def isEllipsis : Expr → Bool
  | .constant .ellipsis => true
  | _ => false

/-- The constant `True`. -/
def isTrue : Expr → Bool
  | .constant (.bool true) => true
  | _ => false

/-- The text of a text constant, as far as it can be read. -/
def stringConstant? : Expr → Option String
  | .constant (.str s _) => some s
  | .constant (.surrogate t _) => some (readableText t.codes)
  | _ => none

end Expr

/-- The value of a call's first keyword argument of a name. -/
def keyword? (name : String) (keywords : List (Option String × Expr)) : Option Expr :=
  (keywords.find? (·.1 == some name)).map (·.2)

end RouteAtlas.Syntax
