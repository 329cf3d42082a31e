import RouteAtlas.Text.Cut

/-!
# Route paths

A route path is a sequence of segments between slashes; repeated, leading and trailing slashes do not
count. Inside the library a path parameter is a segment `:name`; sources declare it as `{name}` or
`{name:converter}`, and documents write it `{name}`.
-/

namespace RouteAtlas.Routing

open RouteAtlas.Text

/-- The segments of a path. -/
def segments (path : String) : List String := (splitAt '/' path).filter (· != "")

/-- The path of these segments. -/
def pathOf (parts : List String) : String := "/" ++ "/".intercalate parts

/-- A route below a path. -/
def joinPath (start route : String) : String := pathOf (segments start ++ segments route)

/-- The name of a parameter segment. -/
def parameterName? (segment : String) : Option String :=
  match segment.toList with
  | ':' :: name => some (String.ofList name)
  | _ => none

/-- A segment of a pattern accepts a segment of a path. -/
def segmentMatches (expected actual : String) : Bool :=
  (parameterName? expected).isSome || expected == actual

/-- Segments accept segments one by one. -/
def segmentsMatch : List String → List String → Bool
  | [], [] => true
  | e :: r, a :: s => segmentMatches e a && segmentsMatch r s
  | _, _ => false

/-- A pattern accepts a path. -/
def pathMatches (pattern path : String) : Bool := segmentsMatch (segments pattern) (segments path)

/-- A segment as documents write it. -/
def documentSegment (segment : String) : String :=
  match parameterName? segment with
  | some name => "\x7b" ++ name ++ "\x7d"
  | none => segment

/-- A path as documents write it. -/
def documentPath (path : String) : String := pathOf ((segments path).map documentSegment)

/-- The names of a path's parameters, in order. -/
def parameterNames (path : String) : List String := (segments path).filterMap parameterName?

/-! ## Declared placeholders -/

/-- A placeholder at the start of a text: its name and the rest. -/
def placeholder? (cs : List Char) : Option (List Char × List Char) :=
  match cs with
  | '\x7b' :: r =>
    let name := r.takeWhile isWordChar
    let converter? := match r.drop name.length with
      | ':' :: t =>
        let converter := t.takeWhile isWordChar
        if converter.isEmpty then none else some (t.drop converter.length)
      | t => some t
    match converter? with
    | some ('\x7d' :: t) => if name.isEmpty then none else some (name, t)
    | _ => none
  | _ => none

/-- A text cut into its placeholders, by name, and the characters between them. -/
def cutPlaceholders (fuel : Nat) (cs : List Char) : List (Char ⊕ List Char) :=
  match fuel with
  | 0 => []
  | fuel + 1 =>
    match placeholder? cs, cs with
    | some (name, r), _ => .inr name :: cutPlaceholders fuel r
    | none, c :: r => .inl c :: cutPlaceholders fuel r
    | none, [] => []

/-- The pieces of a declared path. -/
def declaredPieces (path : String) : List (Char ⊕ List Char) :=
  cutPlaceholders (path.toList.length + 1) path.toList

/-- The names of the placeholders in a declared path. -/
def placeholderNames (path : String) : List String :=
  (declaredPieces path).filterMap fun
    | .inl _ => none
    | .inr name => some (String.ofList name)

/-- A declared path with `:name` for each placeholder. -/
def normalizeRoute (path : String) : String :=
  String.ofList ((declaredPieces path).flatMap fun
    | .inl c => [c]
    | .inr name => ':' :: name)

end RouteAtlas.Routing
