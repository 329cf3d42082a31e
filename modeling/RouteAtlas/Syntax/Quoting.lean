import RouteAtlas.Text.Quoted

/-!
# Choosing quotes

A text, by its code points, written between the quotes that need the fewest escapes. `enclosed` gives
the escaped text and the quotes that suit it, the best one first.
-/

namespace RouteAtlas.Syntax

open RouteAtlas.Text

/-- The quotes of text literals, in order of preference. -/
def allQuotes : List String := ["'", "\"", "\"\"\"", "'''"]

/-- A code point of a literal before quotes are chosen. Line ends and tabs stay unless asked otherwise. -/
def escapedCode (escapeLines : Bool) (n : Nat) : List Char :=
  let c := Char.ofNat n
  if isSurrogate n then hexEscape n
  else if !escapeLines && (c == '\n' || c == '\t') then [c]
  else if c == '\\' then ['\\', '\\']
  else if isPrintable c then [c]
  else if c == '\n' then ['\\', 'n']
  else if c == '\t' then ['\\', 't']
  else if c == '\r' then ['\\', 'r']
  else hexEscape n

/-- The escaped text and the quotes out of `quotes` that may stand around it. Where none may, the
quoted form of the text decides. -/
def enclosed (quotes : List String) (escapeLines : Bool) (codes : List Nat) : String × List String :=
  let escaped := codes.flatMap (escapedCode escapeLines)
  let open' := if escaped.contains '\n' then quotes.filter (·.length == 3) else quotes
  let open' := open'.filter fun q => !hasQuote q.toList escaped
  match open' with
  | [] =>
    let whole := quotedCodes codes
    let mark := whole.head?.getD '\''
    let quote := (quotes.find? (·.toList.contains mark)).getD mark.toString
    (String.ofList ((whole.drop 1).dropLast), [quote])
  | _ =>
    match escaped.getLast? with
    | none => ("", open')
    | some last =>
      let ends (q : String) : Bool := q.toList.head? == some last
      let sorted := open'.filter (!ends ·) ++ open'.filter ends
      if sorted.head?.any ends then
        (String.ofList (escaped.dropLast ++ ['\\', last]), sorted)
      else (String.ofList escaped, sorted)
where
  /-- The quote occurs in the text. -/
  hasQuote (q : List Char) : List Char → Bool
    | [] => q.isEmpty
    | c :: r => q.isPrefixOf (c :: r) || hasQuote q r

/-- A literal that needs no backslash if any quotes allow it. -/
def spareLiteral (codes : List Nat) : String :=
  let (body, quotes) := enclosed allQuotes false codes
  let q := quotes.head?.getD "'"
  q ++ body ++ q

/-- The literal of a formatted text from its parts, each with whether it is a literal stretch. One
quote must suit all parts; where none does, every part is escaped for three single quotes. -/
def joinedLiteral (parts : List (List Nat × Bool)) : String :=
  match choose allQuotes [] parts with
  | some (bodies, quotes) =>
    let q := quotes.head?.getD "'"
    "f" ++ q ++ String.join bodies ++ q
  | none => "f'''" ++ String.join (parts.map fun (codes, _) => forced codes) ++ "'''"
where
  /-- The bodies of the parts with the quotes that suit all of them. -/
  choose (quotes : List String) (bodies : List String) :
      List (List Nat × Bool) → Option (List String × List String)
    | [] => some (bodies.reverse, quotes)
    | (codes, isLiteral) :: r =>
      let (body, suited) := enclosed quotes isLiteral codes
      if suited.any quotes.contains then choose suited (body :: bodies) r else none
  /-- A part with the escapes of single quotes, whatever it holds. -/
  forced (codes : List Nat) : String := String.ofList (codes.flatMap (quotedCode '\''))

end RouteAtlas.Syntax
