/-!
# Text in markup

A text that stands in markup has no character that markup gives a meaning: the five of them are
written by their names, everything else as it is.
-/

namespace RouteAtlas.Text

/-- A character as markup writes it. -/
def markupChar (c : Char) : List Char :=
  if c == '&' then "&amp;".toList
  else if c == '<' then "&lt;".toList
  else if c == '>' then "&gt;".toList
  else if c == '"' then "&quot;".toList
  else if c == '\'' then "&#x27;".toList
  else [c]

/-- A text as markup writes it, between quotes or outside. -/
def markupText (s : String) : String := String.ofList (s.toList.flatMap markupChar)

end RouteAtlas.Text
