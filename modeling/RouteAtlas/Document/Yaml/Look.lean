import RouteAtlas.Document.Yaml.Scalar

/-!
# How a text may be written in YAML

`ScalarLook.of` surveys a text once: which indicators, breaks, blanks and special characters it holds,
and where. `ScalarStyle.choose` picks the first of plain, single-quoted and double-quoted that keeps
the text.
-/

namespace RouteAtlas.Document.Yaml

/-- A character that ends a line. -/
def isBreak (c : Char) : Bool :=
  let n := c.toNat
  n == 10 || n == 0x85 || n == 0x2028 || n == 0x2029

/-- A character after which an indicator counts: blank, tab, line end or null. -/
def isGap (c : Char) : Bool :=
  let n := c.toNat
  n == 0 || n == 32 || n == 9 || n == 13 || isBreak c

/-- A character that quotes without escapes may hold. -/
def isPlainPrintable (c : Char) : Bool :=
  let n := c.toNat
  n == 10 || (0x20 ≤ n && n ≤ 0x7e) || n == 0x85 || (0xa0 ≤ n && n ≤ 0xd7ff) ||
    (0xe000 ≤ n && n ≤ 0xfffd && n != 0xfeff) || (0x10000 ≤ n && n < 0x10ffff)

/-- A character that double quotes show without an escape. -/
def isShownInDouble (c : Char) : Bool :=
  let n := c.toNat
  ((0x20 ≤ n && n ≤ 0x7e) || (0xa0 ≤ n && n ≤ 0xd7ff) || (0xe000 ≤ n && n ≤ 0xfffd)) &&
    !(c == '"' || c == '\\' || n == 0x2028 || n == 0x2029 || n == 0xfeff)

/-- What a survey of a text finds. -/
structure ScalarLook where
  /-- A character or pair of characters that a plain scalar outside brackets may not hold. -/
  indicator : Bool
  multiline : Bool
  /-- A character that needs an escape. -/
  special : Bool
  /-- A blank or line end at either end. -/
  outerGap : Bool
  /-- A blank right after a line end. -/
  breakSpace : Bool
  /-- A line end right after a blank. -/
  spaceBreak : Bool
deriving Repr, DecidableEq, Inhabited

namespace ScalarLook

/-- The text holds, from here on, an indicator; `afterGap` tells what the character before was. -/
def hasIndicator (first afterGap : Bool) : List Char → Bool
  | [] => false
  | c :: r =>
    let beforeGap := match r with
      | [] => true
      | d :: _ => isGap d
    let here :=
      if first then
        "#,[]\x7b\x7d&*!|>'\"%@\x60".toList.contains c ||
          ((c == '?' || c == ':' || c == '-') && beforeGap)
      else (c == ':' && beforeGap) || (c == '#' && afterGap)
    here || hasIndicator false (isGap c) r

/-- Two neighbours of the text are of these classes. -/
def hasPair (p q : Char → Bool) : List Char → Bool
  | c :: d :: r => (p c && q d) || hasPair p q (d :: r)
  | _ => false

/-- The survey of a text. -/
def of (cs : List Char) : ScalarLook :=
  let isSpace (c : Char) := c == ' '
  let isOuter (c : Char) := isSpace c || isBreak c
  { indicator := hasIndicator true true cs || "---".toList.isPrefixOf cs || "...".toList.isPrefixOf cs
    multiline := cs.any isBreak
    special := !cs.all isPlainPrintable
    outerGap := cs.head?.any isOuter || cs.getLast?.any isOuter
    breakSpace := hasPair isBreak isSpace cs
    spaceBreak := hasPair isSpace isBreak cs }

/-- The text may stand without quotes, as far as its characters go. -/
def allowsPlain (k : ScalarLook) : Bool :=
  !(k.indicator || k.multiline || k.special || k.outerGap || k.breakSpace || k.spaceBreak)

/-- The text may stand in single quotes. -/
def allowsSingle (k : ScalarLook) : Bool := !(k.special || k.breakSpace || k.spaceBreak)

end ScalarLook

/-- The styles of a scalar. -/
inductive ScalarStyle where
  | plain
  | single
  | double
deriving Repr, DecidableEq, Inhabited

/-- The style of a text; `asKey` where it is a key on one line with its value. -/
def ScalarStyle.choose (asKey : Bool) (s : String) : ScalarStyle :=
  let k := ScalarLook.of s.toList
  if ScalarKind.ofPlain s = .text ∧ k.allowsPlain ∧ !(asKey && (s.isEmpty || k.multiline)) then .plain
  else if k.allowsSingle ∧ !(asKey && k.multiline) then .single
  else .double

/-- A text is short and simple enough to be a key on one line with its value. -/
def isSimpleKey (s : String) : Bool :=
  !s.isEmpty && s.length + "!!str".length < 128 && !s.toList.any isBreak

end RouteAtlas.Document.Yaml
