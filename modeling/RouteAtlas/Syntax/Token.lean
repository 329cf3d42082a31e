import RouteAtlas.Syntax.Expr

/-!
# Tokens of Python source

A token is a keyword, a name, a number, a text literal, a mark, or a sign of the line structure: the end
of a logical line, a deeper block, the end of a block.
-/

namespace RouteAtlas.Syntax

/-- A text literal as written: its mark letters and what stands between its quotes. -/
structure TextLiteral where
  /-- Backslashes are ordinary characters. -/
  raw : Bool
  bytes : Bool
  formatted : Bool
  /-- The literal begins with the letter `u`. -/
  marked : Bool
  body : List Char
deriving Repr, DecidableEq, Inhabited

/-- A token. -/
inductive Token where
  | keyword (word : String)
  | name (id : String)
  | number (c : Constant)
  | text (literal : TextLiteral)
  | mark (symbol : String)
  | newline
  | indent
  | dedent
deriving Repr, BEq, Inhabited

/-- The reserved words. -/
def keywords : List String :=
  ["False", "None", "True", "and", "as", "assert", "async", "await", "break", "class", "continue",
    "def", "del", "elif", "else", "except", "finally", "for", "from", "global", "if", "import", "in",
    "is", "lambda", "nonlocal", "not", "or", "pass", "raise", "return", "try", "while", "with",
    "yield"]

/-- The marks of more than one character, longest first. -/
def longMarks : List String :=
  ["**=", "//=", "<<=", ">>=", "...", "!=", "%=", "&=", "**", "*=", "+=", "-=", "->", "//", "/=", ":=",
    "<<", "<=", "==", ">=", ">>", "@=", "^=", "|="]

/-- The marks of one character. -/
def shortMarks : List Char :=
  ['(', ')', '[', ']', '\x7b', '\x7d', ',', ':', ';', '.', '+', '-', '*', '/', '%', '&', '|', '^', '~',
    '<', '>', '=', '@']

/-- The mark that begins the text. -/
def markAt? (cs : List Char) : Option (String × List Char) :=
  match longMarks.find? fun m => m.toList.isPrefixOf cs with
  | some m => some (m, cs.drop m.length)
  | none =>
    match cs with
    | c :: r => if shortMarks.contains c then some (c.toString, r) else none
    | [] => none

end RouteAtlas.Syntax
