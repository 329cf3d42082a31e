import RouteAtlas.Syntax.Escape

/-!
# The inside of formatted texts

Cutting the inside of a formatted text into literal stretches and replacement fields. Doubled braces
stand for themselves outside format specifications; the text of a field runs to the first `!`, `:`,
`}` or `=` that stands outside its brackets and quotes.
-/

namespace RouteAtlas.Syntax.Formatted

/-- How many characters at the start of a literal stretch are an escape, within which braces do not
count. A named character is taken up to its closing brace, and of an escaped brace only the backslash. -/
def escapeSpan (raw : Bool) (cs : List Char) : Nat :=
  match raw, cs with
  | false, '\\' :: 'N' :: '\x7b' :: r => (r.takeWhile (· != '\x7d')).length + 4
  | false, '\\' :: 'N' :: r => if r.isEmpty then 2 else 3
  | false, '\\' :: c :: _ => if c == '\x7b' || c == '\x7d' then 1 else 2
  | _, _ => 0

/-- A literal stretch, whether scanning goes on with another one, and the rest. Inside a format
specification (`top = false`) braces are never doubled. Nothing for a closing brace that stands alone. -/
def literal (raw top : Bool) (done cs : List Char) : Option (List Char × Bool × List Char) :=
  match cs with
  | [] => some (done.reverse, false, [])
  | c :: r =>
    let n := escapeSpan raw (c :: r)
    if 0 < n then literal raw top (((c :: r).take n).reverse ++ done) (r.drop (n - 1))
    else if c == '\x7b' || c == '\x7d' then
      if top && r.head? = some c then some ((c :: done).reverse, true, r.drop 1)
      else if top && c == '\x7d' then none
      else some (done.reverse, false, c :: r)
    else literal raw top (c :: done) r
termination_by cs.length
decreasing_by all_goals (simp only [List.length_drop, List.length_cons]; omega)

/-- The bracket that closes an opening one. -/
def closes (o c : Char) : Bool :=
  (o == '(' && c == ')') || (o == '[' && c == ']') || (o == '\x7b' && c == '\x7d')

/-- The text of a replacement field after its opening brace, and the rest from the character that ends
it. `quote` is the quote that is open, with whether it is tripled; `brackets` are the open brackets. -/
def fieldText (quote : Option (Char × Bool)) (brackets done : List Char) :
    List Char → Option (List Char × List Char)
  | [] => none
  | '\\' :: _ => none
  | c :: r =>
    let tripled := [c, c].isPrefixOf r
    match quote with
    | some (q, long) =>
      if c == q && long && tripled then fieldText none brackets (c :: c :: c :: done) (r.drop 2)
      else if c == q && !long then fieldText none brackets (c :: done) r
      else fieldText quote brackets (c :: done) r
    | none =>
      if c == '\'' || c == '"' then
        if tripled then fieldText (some (c, true)) brackets (c :: c :: c :: done) (r.drop 2)
        else fieldText (some (c, false)) brackets (c :: done) r
      else if c == '(' || c == '[' || c == '\x7b' then fieldText none (c :: brackets) (c :: done) r
      else if c == '#' then none
      else if brackets.isEmpty && ['!', ':', '\x7d', '=', '<', '>'].contains c then
        if ['!', '=', '<', '>'].contains c && r.head? = some '=' then
          fieldText none brackets ('=' :: c :: done) (r.drop 1)
        else if c == '<' || c == '>' then fieldText none brackets (c :: done) r
        else some (done.reverse, c :: r)
      else if c == ')' || c == ']' || c == '\x7d' then
        match brackets with
        | [] => none
        | o :: outer => if closes o c then fieldText none outer (c :: done) r else none
      else fieldText none brackets (c :: done) r
termination_by cs => cs.length
decreasing_by all_goals (simp only [List.length_drop, List.length_cons]; omega)

/-- A field needs more than blanks. -/
def isBlankField (cs : List Char) : Bool :=
  cs.all fun c => c == ' ' || c == '\t' || c == '\n' || c == '\x0c'

/-- The blanks that may follow the `=` of a field. -/
def isFieldBlank (c : Char) : Bool :=
  c == ' ' || (9 ≤ c.toNat && c.toNat ≤ 13)

end RouteAtlas.Syntax.Formatted
