import RouteAtlas.Syntax.Expr
import RouteAtlas.Syntax.Quoting
import RouteAtlas.Number.FloatText

/-!
# Printing expressions

`Expr.print` writes an expression as source text with the fewest parentheses that its levels of
precedence call for. `Expr.isPrintable` tells which expressions have a text at all: one that holds an
integer of more than `maxDecimalDigits` digits has none, nor one with a replacement field that needs a
backslash.
-/

namespace RouteAtlas.Syntax

open RouteAtlas.Text RouteAtlas.Number

/-! ## Levels of precedence -/

namespace Level

/-- A walrus assignment. -/
def named : Nat := 1
/-- A tuple without parentheses. -/
def tuple : Nat := 2
/-- A `yield`. -/
def yield : Nat := 3
/-- A condition or a `lambda`; the level of whatever is set apart already. -/
def test : Nat := 4
/-- Operands of `or`. -/
def or : Nat := 5
/-- Operands of `and`. -/
def and : Nat := 6
/-- Operands of `not`. -/
def not : Nat := 7
/-- Comparisons. -/
def compare : Nat := 8
/-- Operands of a comparison. -/
def expr : Nat := 9
/-- Signs. -/
def factor : Nat := 15
/-- Powers. -/
def power : Nat := 16
/-- An `await`. -/
def await : Nat := 17
/-- Names, literals, calls and whatever has brackets of its own. -/
def atom : Nat := 18

end Level

/-- The mark of an operator and its level. -/
def BinaryOp.mark : BinaryOp → String × Nat
  | .bitOr => ("|", 9)
  | .bitXor => ("^", 10)
  | .bitAnd => ("&", 11)
  | .leftShift => ("<<", 12)
  | .rightShift => (">>", 12)
  | .add => ("+", 13)
  | .sub => ("-", 13)
  | .mult => ("*", 14)
  | .matMult => ("@", 14)
  | .div => ("/", 14)
  | .mod => ("%", 14)
  | .floorDiv => ("//", 14)
  | .pow => ("**", 16)

/-- The text of a comparison operator. -/
def CompareOp.text : CompareOp → String
  | .eq => "=="
  | .notEq => "!="
  | .less => "<"
  | .lessEq => "<="
  | .greater => ">"
  | .greaterEq => ">="
  | .is => "is"
  | .isNot => "is not"
  | .isIn => "in"
  | .notIn => "not in"

/-- The text of a connective and its level. -/
def BoolOp.text : BoolOp → String × Nat
  | .and => ("and", Level.and)
  | .or => ("or", Level.or)

/-! ## Constants -/

/-- The text of a float. A literal is always a number, so one without digits has overflowed. -/
def floatSource (x : Float) : String :=
  match BinaryFraction.ofFloat? x with
  | none => if signBit x then "-1e309" else "1e309"
  | some b => FloatText.plain.writeFinite b

/-- The text of an imaginary number. -/
def imaginarySource (x : Float) : String :=
  match BinaryFraction.ofFloat? x with
  | none => "1e309j"
  | some b => FloatText.imaginary.writeFinite b ++ "j"

/-- The text of a constant in source; `spare` avoids backslashes. -/
def Constant.source (spare : Bool) : Constant → String
  | .none => "None"
  | .bool b => if b then "True" else "False"
  | .ellipsis => "..."
  | .int n => toString n
  | .float x => floatSource x
  | .imaginary x => imaginarySource x
  | .str s marked =>
    (if marked then "u" else "") ++ (if spare then spareLiteral (codePoints s) else quoted s)
  | .surrogate t marked =>
    (if marked then "u" else "") ++
      (if spare then spareLiteral t.codes else String.ofList (quotedCodes t.codes))
  | .bytes bs => quotedBytes bs

/-- The text that shows the value of a constant. -/
def Constant.shown : Constant → String
  | .ellipsis => "Ellipsis"
  | .float x => FloatText.plain.write x
  | .imaginary x => FloatText.imaginary.write x ++ "j"
  | .str s _ => quoted s
  | .surrogate t _ => String.ofList (quotedCodes t.codes)
  | c => c.source false

/-- The constant has a text. -/
def Constant.isPrintable : Constant → Bool
  | .int n => (Nat.toDigits 10 n).length ≤ maxDecimalDigits
  | _ => true

/-! ## Expressions -/

/-- A text in parentheses where the context binds tighter than it does. -/
def parenthesizedAbove (own context : Nat) (s : String) : String :=
  if own < context then "(" ++ s ++ ")" else s

/-- Items apart by commas, with a comma after a single one. -/
def itemsText (items : List String) : String :=
  match items with
  | [s] => s ++ ","
  | items => ", ".intercalate items

/-- The text of a parameter list from the texts of its parameters. -/
def signatureText (positionalOnly ordinary : List String) (rest : Option String)
    (keywordOnly : List String) (keywordRest : Option String) : String :=
  let slash := if positionalOnly.isEmpty then [] else ["/"]
  let star := match rest with
    | some s => ["*" ++ s]
    | none => if keywordOnly.isEmpty then [] else ["*"]
  let final := match keywordRest with
    | some s => ["**" ++ s]
    | none => []
  ", ".intercalate (positionalOnly ++ slash ++ ordinary ++ star ++ keywordOnly ++ final)

/-- Texts with the defaults of the last ones. -/
def withDefaults (params defaults : List String) : List String :=
  let bare := params.length - defaults.length
  params.take bare ++ List.zipWith (fun p d => p ++ "=" ++ d) (params.drop bare) defaults

/-- Braces doubled, as literal stretches of formatted texts have them. -/
def doubledBraces (codes : List Nat) : List Nat :=
  codes.flatMap fun n => if n = '\x7b'.toNat || n = '\x7d'.toNat then [n, n] else [n]

/-- A replacement field from the text of its value, which is kept apart from a brace. -/
def replacementText (value : String) (conversion : Option Char) (spec : Option (List Nat)) :
    List Nat :=
  let gap := if value.toList.head? = some '\x7b' then " " else ""
  let mark := match conversion with
    | some c => "!" ++ c.toString
    | none => ""
  let tail := match spec with
    | some codes => ':'.toNat :: codes
    | none => []
  codePoints ("\x7b" ++ gap ++ value ++ mark) ++ tail ++ ['\x7d'.toNat]

mutual

/-- The text of an expression in a context of the given level; `spare` avoids backslashes. -/
def Expr.printAt (spare : Bool) (context : Nat) : Expr → String
  | .constant c => c.source spare
  | .name id => id
  | .attribute value attr =>
    let gap := match value with
      | .constant (.int _) => " "
      | .constant (.bool _) => " "
      | _ => ""
    value.printAt spare Level.atom ++ gap ++ "." ++ attr
  | .subscript value (.tuple (item :: items)) =>
    value.printAt spare Level.atom ++ "[" ++ itemsText (printAll spare Level.test (item :: items)) ++
      "]"
  | .subscript value index =>
    value.printAt spare Level.atom ++ "[" ++ index.printAt spare Level.test ++ "]"
  | .call func args keywords =>
    func.printAt spare Level.atom ++ "(" ++
      ", ".intercalate (printAll spare Level.test args ++ printKeywords spare keywords) ++ ")"
  | .binary op left right =>
    let (mark, level) := op.mark
    let (l, r) := if op = .pow then (level + 1, level) else (level, level + 1)
    parenthesizedAbove level context
      (left.printAt spare l ++ " " ++ mark ++ " " ++ right.printAt spare r)
  | .unary .not operand =>
    parenthesizedAbove Level.not context ("not " ++ operand.printAt spare Level.not)
  | .unary .invert operand =>
    parenthesizedAbove Level.factor context ("~" ++ operand.printAt spare Level.factor)
  | .unary .plus operand =>
    parenthesizedAbove Level.factor context ("+" ++ operand.printAt spare Level.factor)
  | .unary .minus operand =>
    parenthesizedAbove Level.factor context ("-" ++ operand.printAt spare Level.factor)
  | .boolean op first second rest =>
    let (word, level) := op.text
    parenthesizedAbove level context
      ((" " ++ word ++ " ").intercalate (first.printAt spare (level + 1) ::
        second.printAt spare (level + 2) :: printRising spare (level + 3) rest))
  | .compare first op second rest =>
    parenthesizedAbove Level.compare context
      (first.printAt spare Level.expr ++ " " ++ op.text ++ " " ++ second.printAt spare Level.expr ++
        printCompared spare rest)
  | .conditional test body orelse =>
    parenthesizedAbove Level.test context
      (body.printAt spare Level.or ++ " if " ++ test.printAt spare Level.or ++ " else " ++
        orelse.printAt spare Level.test)
  | .lambda ⟨positionalOnly, ordinary, rest, keywordOnly, keywordDefaults, keywordRest, defaults⟩
      body =>
    let own := printParams spare positionalOnly
    let all := withDefaults (own ++ printParams spare ordinary) (printAll spare Level.test defaults)
    let params := signatureText (all.take own.length) (all.drop own.length) (printParam? spare rest)
      (List.zipWith (fun p d => p ++ d) (printParams spare keywordOnly)
        (printDefaults spare keywordDefaults))
      (printParam? spare keywordRest)
    parenthesizedAbove Level.test context
      ("lambda" ++ (if params.isEmpty then "" else " " ++ params) ++ ": " ++
        body.printAt spare Level.test)
  | .tuple items =>
    let s := itemsText (printAll spare Level.test items)
    if items.isEmpty then "()" else parenthesizedAbove Level.tuple context s
  | .list items => "[" ++ ", ".intercalate (printAll spare Level.test items) ++ "]"
  | .set items =>
    if items.isEmpty then "\x7b*()\x7d"
    else "\x7b" ++ ", ".intercalate (printAll spare Level.test items) ++ "\x7d"
  | .dict entries => "\x7b" ++ ", ".intercalate (printEntries spare entries) ++ "\x7d"
  | .listComp item clauses =>
    "[" ++ item.printAt spare Level.test ++ printClauses spare clauses ++ "]"
  | .setComp item clauses =>
    "\x7b" ++ item.printAt spare Level.test ++ printClauses spare clauses ++ "\x7d"
  | .generator item clauses =>
    "(" ++ item.printAt spare Level.test ++ printClauses spare clauses ++ ")"
  | .dictComp key value clauses =>
    "\x7b" ++ key.printAt spare Level.test ++ ": " ++ value.printAt spare Level.test ++
      printClauses spare clauses ++ "\x7d"
  | .await value =>
    parenthesizedAbove Level.await context ("await " ++ value.printAt spare Level.atom)
  | .yield none => parenthesizedAbove Level.yield context "yield"
  | .yield (some value) =>
    parenthesizedAbove Level.yield context ("yield " ++ value.printAt spare Level.atom)
  | .yieldFrom value =>
    parenthesizedAbove Level.yield context ("yield from " ++ value.printAt spare Level.atom)
  | .named target value =>
    parenthesizedAbove Level.named context
      (target.printAt spare Level.atom ++ " := " ++ value.printAt spare Level.atom)
  | .starred value => "*" ++ value.printAt spare Level.expr
  | .slice lower upper step =>
    let last := match printOption? spare step with
      | some s => ":" ++ s
      | none => ""
    (printOption? spare lower).getD "" ++ ":" ++ (printOption? spare upper).getD "" ++ last
  | .joined parts =>
    if spare then "f" ++ spareLiteral (printPieces parts).flatten
    else joinedLiteral ((printPieces parts).zip (areLiteral parts))
  | .replacement value conversion spec =>
    readableText (replacementText (value.printAt true Level.or) conversion (printSpec? spec))

/-- The code points of a format specification that may be absent. -/
def printSpec? : Option Expr → Option (List Nat)
  | none => none
  | some spec => some spec.pieceText

/-- The code points of a piece of a formatted text, before quotes are chosen. -/
def Expr.pieceText : Expr → List Nat
  | .constant (.str s _) => doubledBraces (codePoints s)
  | .constant (.surrogate t _) => doubledBraces t.codes
  | .joined parts => (printPieces parts).flatten
  | .replacement value conversion spec =>
    replacementText (value.printAt true Level.or) conversion (printSpec? spec)
  | _ => []

/-- The pieces of a formatted text. -/
def printPieces : List Expr → List (List Nat)
  | [] => []
  | e :: r => e.pieceText :: printPieces r

/-- Which pieces are literal stretches. -/
def areLiteral : List Expr → List Bool
  | [] => []
  | e :: r => (match e with | .constant _ => true | _ => false) :: areLiteral r

/-- The texts of expressions in one context. -/
def printAll (spare : Bool) (context : Nat) : List Expr → List String
  | [] => []
  | e :: r => e.printAt spare context :: printAll spare context r

/-- The texts of operands, each in a tighter context than the one before. -/
def printRising (spare : Bool) (context : Nat) : List Expr → List String
  | [] => []
  | e :: r => e.printAt spare (min context Level.atom) :: printRising spare (context + 1) r

/-- The texts of keyword arguments. -/
def printKeywords (spare : Bool) : List (Option String × Expr) → List String
  | [] => []
  | (some id, e) :: r => (id ++ "=" ++ e.printAt spare Level.test) :: printKeywords spare r
  | (none, e) :: r => ("**" ++ e.printAt spare Level.test) :: printKeywords spare r

/-- The text of comparison operators with their right operands. -/
def printCompared (spare : Bool) : List (CompareOp × Expr) → String
  | [] => ""
  | (op, e) :: r => " " ++ op.text ++ " " ++ e.printAt spare Level.expr ++ printCompared spare r

/-- The texts of dictionary entries. -/
def printEntries (spare : Bool) : List (Option Expr × Expr) → List String
  | [] => []
  | (some k, v) :: r =>
    (k.printAt spare Level.test ++ ": " ++ v.printAt spare Level.test) :: printEntries spare r
  | (none, v) :: r => ("**" ++ v.printAt spare Level.expr) :: printEntries spare r

/-- The text of comprehension clauses. -/
def printClauses (spare : Bool) : List (Clause Expr) → String
  | [] => ""
  | ⟨isAsync, target, source, conditions⟩ :: r =>
    (if isAsync then " async for " else " for ") ++ target.printAt spare Level.tuple ++ " in " ++
      source.printAt spare Level.or ++ printConditions spare conditions ++ printClauses spare r

/-- The text of the conditions of a clause. -/
def printConditions (spare : Bool) : List Expr → String
  | [] => ""
  | e :: r => " if " ++ e.printAt spare Level.or ++ printConditions spare r

/-- The text of an expression that may be absent. -/
def printOption? (spare : Bool) : Option Expr → Option String
  | none => none
  | some e => some (e.printAt spare Level.test)

/-- The text of an annotation with its colon. -/
def printAnnotation (spare : Bool) : Option Expr → String
  | none => ""
  | some e => ": " ++ e.printAt spare Level.test

/-- The texts of parameters. -/
def printParams (spare : Bool) : List (Param Expr) → List String
  | [] => []
  | ⟨id, hint⟩ :: r => (id ++ printAnnotation spare hint) :: printParams spare r

/-- The text of a parameter that may be absent. -/
def printParam? (spare : Bool) : Option (Param Expr) → Option String
  | none => none
  | some ⟨id, hint⟩ => some (id ++ printAnnotation spare hint)

/-- The texts of defaults with their equals sign, empty where there is none. -/
def printDefaults (spare : Bool) : List (Option Expr) → List String
  | [] => []
  | none :: r => "" :: printDefaults spare r
  | some e :: r => ("=" ++ e.printAt spare Level.test) :: printDefaults spare r

end

/-- The source text of an expression. -/
def Expr.print (e : Expr) : String := e.printAt false Level.test

mutual

/-- The expression has a source text. -/
def Expr.isPrintable : Expr → Bool
  | .constant c => c.isPrintable
  | .name _ => true
  | .attribute value _ => value.isPrintable
  | .subscript value index => value.isPrintable && index.isPrintable
  | .call func args keywords =>
    func.isPrintable && arePrintable args && areKeywordsPrintable keywords
  | .binary _ left right => left.isPrintable && right.isPrintable
  | .unary _ operand => operand.isPrintable
  | .boolean _ first second rest => first.isPrintable && second.isPrintable && arePrintable rest
  | .compare first _ second rest =>
    first.isPrintable && second.isPrintable && areComparedPrintable rest
  | .conditional test body orelse => test.isPrintable && body.isPrintable && orelse.isPrintable
  | .lambda ⟨_, _, _, _, keywordDefaults, _, defaults⟩ body =>
    areOptionsPrintable keywordDefaults && arePrintable defaults && body.isPrintable
  | .tuple items => arePrintable items
  | .list items => arePrintable items
  | .set items => arePrintable items
  | .dict entries => areEntriesPrintable entries
  | .listComp item clauses => item.isPrintable && areClausesPrintable clauses
  | .setComp item clauses => item.isPrintable && areClausesPrintable clauses
  | .generator item clauses => item.isPrintable && areClausesPrintable clauses
  | .dictComp key value clauses =>
    key.isPrintable && value.isPrintable && areClausesPrintable clauses
  | .await value => value.isPrintable
  | .yield value => isOptionPrintable value
  | .yieldFrom value => value.isPrintable
  | .named target value => target.isPrintable && value.isPrintable
  | .starred value => value.isPrintable
  | .slice lower upper step =>
    isOptionPrintable lower && isOptionPrintable upper && isOptionPrintable step
  | .joined parts => arePrintable parts
  | .replacement value _ spec =>
    value.isPrintable && !(value.printAt true Level.or).toList.contains '\\' &&
      isOptionPrintable spec

/-- All of these have a source text. -/
def arePrintable : List Expr → Bool
  | [] => true
  | e :: r => e.isPrintable && arePrintable r

/-- An expression that may be absent has a source text. -/
def isOptionPrintable : Option Expr → Bool
  | none => true
  | some e => e.isPrintable

/-- All of these that are present have a source text. -/
def areOptionsPrintable : List (Option Expr) → Bool
  | [] => true
  | e :: r => isOptionPrintable e && areOptionsPrintable r

/-- The keyword arguments have a source text. -/
def areKeywordsPrintable : List (Option String × Expr) → Bool
  | [] => true
  | (_, e) :: r => e.isPrintable && areKeywordsPrintable r

/-- The compared operands have a source text. -/
def areComparedPrintable : List (CompareOp × Expr) → Bool
  | [] => true
  | (_, e) :: r => e.isPrintable && areComparedPrintable r

/-- The entries have a source text. -/
def areEntriesPrintable : List (Option Expr × Expr) → Bool
  | [] => true
  | (k, v) :: r => isOptionPrintable k && v.isPrintable && areEntriesPrintable r

/-- The clauses have a source text. -/
def areClausesPrintable : List (Clause Expr) → Bool
  | [] => true
  | ⟨_, target, source, conditions⟩ :: r =>
    target.isPrintable && source.isPrintable && arePrintable conditions && areClausesPrintable r

end

/-- The source text of an expression that has one. -/
def Expr.print? (e : Expr) : Option String := if e.isPrintable then some e.print else none

end RouteAtlas.Syntax
