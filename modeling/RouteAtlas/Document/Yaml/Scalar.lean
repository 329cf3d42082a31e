import RouteAtlas.Text.Pattern

/-!
# What a plain YAML scalar means

YAML 1.1 reads an unquoted scalar as null, a truth value, a number, a moment or a text by its shape
alone. `ScalarKind.ofPlain` is that rule; reading uses it to give values their type, and writing to see
which texts need quotes.
-/

namespace RouteAtlas.Document.Yaml

open RouteAtlas.Text

/-- The kinds of plain scalars. -/
inductive ScalarKind where
  | null
  | bool
  | int
  | float
  | moment
  /-- The key `<<` of merged maps. -/
  | merge
  /-- The key `=` of a default value. -/
  | default
  /-- One of the indicators that stand for YAML itself. -/
  | indicator
  | text
deriving Repr, DecidableEq, Inhabited

namespace ScalarKind

/-- An optional sign. -/
def sign : Pattern := .optional (.chars "-+")

/-- Digits and underscores after the first digit. -/
def moreDigits : Pattern := .many (.chars "0123456789_")

/-- One or more parts of sixty, each after a colon. -/
def sixtieths : Pattern :=
  .some (.all [.chars ":", .optional (.chars "012345"), .digit])

/-- The spellings of truth values. -/
def boolPattern : Pattern :=
  .oneOf ["yes", "Yes", "YES", "no", "No", "NO", "true", "True", "TRUE", "false", "False", "FALSE",
    "on", "On", "ON", "off", "Off", "OFF"]

/-- Integers: binary, octal, decimal, hexadecimal and base sixty. -/
def intPattern : Pattern :=
  .all [sign, .any [
    .all [.text "0b", .some (.chars "01_")],
    .all [.text "0", .some (.chars "01234567_")],
    .text "0",
    .all [.chars "123456789", moreDigits],
    .all [.text "0x", .some (.chars "0123456789abcdefABCDEF_")],
    .all [.chars "123456789", moreDigits, sixtieths]]]

/-- The exponent of a float, which has a sign. -/
def exponent : Pattern := .all [.chars "eE", .chars "-+", .some .digit]

/-- Floats: with a point, in base sixty, infinite, or not a number. -/
def floatPattern : Pattern :=
  .any [
    .all [sign, .digit, moreDigits, .text ".", moreDigits, .optional exponent],
    .all [.text ".", .digit, moreDigits, .optional exponent],
    .all [sign, .digit, moreDigits, sixtieths, .text ".", moreDigits],
    .all [sign, .oneOf [".inf", ".Inf", ".INF"]],
    .oneOf [".nan", ".NaN", ".NAN"]]

/-- The spellings of null. -/
def nullPattern : Pattern := .oneOf ["~", "null", "Null", "NULL", ""]

/-- Blanks between the parts of a moment. -/
def gap : Pattern := .chars " \t"

/-- One digit or two. -/
def shortNumber : Pattern := .all [.digit, .optional .digit]

/-- A day with a year of four digits. -/
def dayPattern : Pattern := .all [.digits 4, .text "-", shortNumber, .text "-", shortNumber]

/-- The time after a day. -/
def timePattern : Pattern :=
  .all [.alt (.chars "Tt") (.some gap), shortNumber, .text ":", .digits 2, .text ":", .digits 2,
    .optional (.all [.text ".", .many .digit]),
    .optional (.all [.many gap,
      .alt (.text "Z")
        (.all [.chars "-+", shortNumber, .optional (.all [.text ":", .digits 2])])])]

/-- Days with two digits for month and day, and days with a time. -/
def momentPattern : Pattern :=
  .any [.all [.digits 4, .text "-", .digits 2, .text "-", .digits 2], .all [dayPattern, timePattern]]

/-- What a scalar that is marked as a moment may be: a day, with a time or without. -/
def markedMomentPattern : Pattern := .all [dayPattern, .optional timePattern]

/-- The kind of a plain scalar. -/
def ofPlain (s : String) : ScalarKind :=
  let cs := s.toList
  if nullPattern.accepts cs then .null
  else if boolPattern.accepts cs then .bool
  else if floatPattern.accepts cs then .float
  else if intPattern.accepts cs then .int
  else if s = "<<" then .merge
  else if momentPattern.accepts cs then .moment
  else if s = "=" then .default
  else if ["!", "&", "*"].contains s then .indicator
  else .text

end ScalarKind

end RouteAtlas.Document.Yaml
