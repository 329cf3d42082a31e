import RouteAtlas.Document.Value

/-!
# TOML tables under construction

The fields read so far, and which tables may still be changed: a table that was declared is not
declared again, and one that was written inline, or whose list was, is never changed. A table that
dotted keys opened counts as declared once the next header comes.
-/

namespace RouteAtlas.Document.Toml

/-- The names on the way to a table. -/
abbrev Key := List String

/-- The marks on tables. -/
structure TableMarks where
  /-- Tables that are complete with all that is in them. -/
  frozen : List Key := []
  /-- Tables that cannot be declared again. -/
  declared : List Key := []
  /-- Tables that the next header makes declared. -/
  pending : List Key := []
deriving Inhabited

namespace TableMarks

/-- The table, or one around it, is complete. -/
def isFrozen (m : TableMarks) (key : Key) : Bool := m.frozen.any (·.isPrefixOf key)

/-- The table cannot be declared again. -/
def isDeclared (m : TableMarks) (key : Key) : Bool := m.declared.contains key

/-- Marks a table as complete. -/
def freeze (m : TableMarks) (key : Key) : TableMarks := { m with frozen := key :: m.frozen }

/-- Marks a table as declared. -/
def declare (m : TableMarks) (key : Key) : TableMarks := { m with declared := key :: m.declared }

/-- A header makes the pending tables declared. -/
def settle (m : TableMarks) : TableMarks := ⟨m.frozen, m.pending ++ m.declared, []⟩

/-- Forgets the marks on a table and on all in it. -/
def forget (m : TableMarks) (key : Key) : TableMarks :=
  { m with
    frozen := m.frozen.filter (!key.isPrefixOf ·), declared := m.declared.filter (!key.isPrefixOf ·) }

end TableMarks

/-- The fields of a table. -/
abbrev Fields := List (String × Value)

/-- Changes the table that a key leads to, and makes the tables on the way that are missing. A list of
tables stands for its last one if `throughLists`. -/
def changeAt (throughLists : Bool) (f : Fields → Option Fields) : Key → Fields → Option Fields
  | [], fields => f fields
  | name :: r, fields =>
    match field? name fields with
    | none => (changeAt throughLists f r []).map fun t => setField name (.map t) fields
    | some (.map t) => (changeAt throughLists f r t).map fun t => setField name (.map t) fields
    | some (.list items) =>
      match items.getLast? with
      | some (.map t) =>
        if throughLists then
          (changeAt throughLists f r t).map fun t =>
            setField name (.list (items.dropLast ++ [.map t])) fields
        else none
      | _ => none
    | some _ => none

/-- Adds a field that must be new. -/
def addField (name : String) (v : Value) (fields : Fields) : Option Fields :=
  if (field? name fields).isSome then none else some (fields ++ [(name, v)])

/-- Adds an empty table to a list of tables. -/
def addTable (name : String) (fields : Fields) : Option Fields :=
  match field? name fields with
  | none => some (fields ++ [(name, .list [.map []])])
  | some (.list items) => some (setField name (.list (items ++ [.map []])) fields)
  | some _ => none

/-- The value is written as a whole. -/
def isCollection : Value → Bool
  | .list _ => true
  | .map _ => true
  | _ => false

/-- A document under construction. -/
structure Draft where
  fields : Fields := []
  marks : TableMarks := {}
  /-- The table that the last header opened. -/
  header : Key := []
deriving Inhabited

namespace Draft

/-- A header opens a table. -/
def openTable (d : Draft) (key : Key) : Option Draft :=
  if d.marks.isDeclared key || d.marks.isFrozen key then none
  else (changeAt true some key d.fields).map fun fields => ⟨fields, d.marks.declare key, key⟩

/-- A header adds a table to a list. -/
def openItem (d : Draft) (key : Key) : Option Draft :=
  if d.marks.isFrozen key then none
  else (changeAt true (addTable (key.getLast?.getD "")) key.dropLast d.fields).map fun fields =>
    ⟨fields, (d.marks.forget key).declare key, key⟩

/-- The tables that a dotted key goes through, as seen from the root. -/
def throughKeys (d : Draft) (key : Key) : List Key :=
  (List.range (key.length - 1)).map fun i => d.header ++ key.take (i + 1)

/-- A key with a value. -/
def assign (d : Draft) (key : Key) (v : Value) : Option Draft :=
  let parents := d.throughKeys key
  let place := d.header ++ key.dropLast
  if parents.any d.marks.isDeclared || d.marks.isFrozen place then none
  else
    (changeAt true (addField (key.getLast?.getD "") v) place d.fields).map fun fields =>
      let marks := { d.marks with pending := parents ++ d.marks.pending }
      { d with fields, marks := if isCollection v then marks.freeze (d.header ++ key) else marks }

end Draft

/-- A table inside braces under construction. -/
structure InlineDraft where
  fields : Fields := []
  frozen : List Key := []
deriving Inhabited

/-- A key with a value inside braces. -/
def InlineDraft.assign (d : InlineDraft) (key : Key) (v : Value) : Option InlineDraft :=
  if d.frozen.any (·.isPrefixOf key) then none
  else
    (changeAt false (addField (key.getLast?.getD "") v) key.dropLast d.fields).map fun fields =>
      ⟨fields, if isCollection v then key :: d.frozen else d.frozen⟩

end RouteAtlas.Document.Toml
