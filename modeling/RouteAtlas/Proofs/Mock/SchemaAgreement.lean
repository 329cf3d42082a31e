import RouteAtlas.Proofs.Document.OrderedMap
import RouteAtlas.Proofs.Mock.Draws
import RouteAtlas.Proofs.Text.LetterCase
import RouteAtlas.Schema.TypeSchema

/-!
# Where the ladders of words agree

The schema and the mock value of a type that is known by its name alone come from two ladders of words
in different orders. `LaddersAgree` says for which names both lead to the same JSON type. The value of a
name is accepted by its schema for these names, for literals, and for the names of any value, and for no
others (`mockForType_accepted_iff`).
-/

namespace RouteAtlas.Text

/-! ## Words in a text -/

/-- The test for a part of a text finds exactly its parts. -/
theorem hasInfix_iff {sub cs : List Char} : hasInfix sub cs = true ↔ sub <:+: cs := by
  induction cs with
  | nil => rw [hasInfix, List.isEmpty_iff, List.infix_nil]
  | cons c cs ih =>
    rw [hasInfix, Bool.or_eq_true, List.isPrefixOf_iff_prefix, ih, List.infix_cons_iff]

/-- A text that has a word has every word within it. -/
theorem mentions_of_infix {s word part : String} (h : part.toList <:+: word.toList)
    (hword : mentions s word = true) : mentions s part = true :=
  hasInfix_iff.2 (h.trans (hasInfix_iff.1 hword))

end RouteAtlas.Text

namespace RouteAtlas.Schema

open RouteAtlas.Document RouteAtlas.Syntax RouteAtlas.Text

/-! ## Accepted values -/

/-- The JSON types of a value. A whole number is a number as well. -/
def jsonTypes : Value → List String
  | .null => ["null"]
  | .bool _ => ["boolean"]
  | .int _ => ["integer", "number"]
  | .float _ => ["number"]
  | .str _ | .surrogate _ => ["string"]
  | .list _ => ["array"]
  | .map _ => ["object"]
  | .moment _ | .bytes _ | .foreign _ => []

/-- The written schema accepts the value by its type and its choices, where it has them. A format says
nothing. -/
structure Accepts (schema v : Value) : Prop where
  type : ∀ name, schema.get? "type" = some (.str name) → name ∈ jsonTypes v
  choices : ∀ choices, schema.get? "enum" = some (.list choices) → v ∈ choices

/-- The schema of anything accepts every value. -/
theorem accepts_any (v : Value) : Accepts TypeSchema.any.toValue v := ⟨nofun, nofun⟩

/-- The schema of a leaf accepts the values of its type. -/
theorem accepts_leaf_iff {type : String} {format : Option String} {v : Value} :
    Accepts (TypeSchema.leaf type format).toValue v ↔ type ∈ jsonTypes v := by
  have htype : (TypeSchema.leaf type format).toValue.get? "type" = some (.str type) := by
    cases format <;> rfl
  have henum : (TypeSchema.leaf type format).toValue.get? "enum" = none := by
    cases format <;> rfl
  refine ⟨fun h => h.type type htype, fun h => ⟨fun name hname => ?_, fun choices hchoices => ?_⟩⟩
  · rw [htype] at hname
    cases hname
    exact h
  · rw [henum] at hchoices
    cases hchoices

/-- A literal value has the type that is written for it. -/
theorem scalarType_mem_jsonTypes (x : Scalar) : scalarType x ∈ jsonTypes (.ofScalar x) := by
  cases x <;> exact List.mem_cons_self

/-- The schema of a literal accepts its value. -/
theorem accepts_literal (x : Scalar) : Accepts (TypeSchema.literal x).toValue (.ofScalar x) := by
  constructor
  · rintro name ⟨⟩
    exact scalarType_mem_jsonTypes x
  · rintro choices ⟨⟩
    exact List.mem_singleton_self _

/-! ## The ladder of schemas -/

/-- The JSON type that the ladder of schemas leads to, for a name in lower case. -/
def ladderType (lower : String) : String :=
  if mentionsAny lower ["dict", "mapping"] then "object"
  else if mentions lower "str" then "string"
  else if mentions lower "bool" then "boolean"
  else if mentionsAny lower ["uuid", "date"] then "string"
  else if mentions lower "int" then "integer"
  else if mentionsAny lower ["float", "decimal", "number"] then "number"
  else "string"

/-- A list of one word is mentioned as the word is. -/
theorem mentionsAny_singleton (s word : String) : mentionsAny s [word] = mentions s word :=
  Bool.or_false _

/-- A name that spells a literal is described as the literal. -/
theorem ofTypeName_of_literal {typeName : String} {x : Scalar} (h : literalValue? typeName = some x) :
    ofTypeName typeName = .literal x := by
  rw [ofTypeName, h]

/-- A name that stands for anything is described so. -/
theorem ofTypeName_of_mem_anyNames {typeName : String} (h : literalValue? typeName = none)
    (hany : lowercase typeName ∈ anyNames) : ofTypeName typeName = .any := by
  rw [ofTypeName, h]
  exact if_pos (List.contains_iff_mem.2 hany)

/-- Any other name is described by its place on the ladder. -/
theorem ofTypeName_of_ladder {typeName : String} (h : literalValue? typeName = none)
    (hany : lowercase typeName ∉ anyNames) :
    ∃ format, ofTypeName typeName = .leaf (ladderType (lowercase typeName)) format := by
  rw [ofTypeName, h]
  dsimp only
  rw [if_neg (mt List.contains_iff_mem.1 hany)]
  generalize lowercase typeName = lower
  -- a date with time mentions a date too, so its rung leads where the rung of dates does
  have hdate : mentionsAny lower ["uuid", "date"] =
      (mentions lower "uuid" || (mentions lower "datetime" || mentions lower "date")) := by
    have hpart : mentions lower "datetime" = true → mentions lower "date" = true :=
      mentions_of_infix (by decide)
    rw [Bool.or_eq_right_iff_imp.2 hpart]
    exact congrArg _ (Bool.or_false _)
  unfold ladderType leafLadder
  simp only [List.find?_cons, mentionsAny_singleton, hdate]
  cases mentionsAny lower ["dict", "mapping"] with
  | true => exact ⟨none, rfl⟩
  | false =>
  cases mentions lower "str" with
  | true => exact ⟨none, rfl⟩
  | false =>
  cases mentions lower "bool" with
  | true => exact ⟨none, rfl⟩
  | false =>
  cases mentions lower "uuid" with
  | true => exact ⟨some "uuid", rfl⟩
  | false =>
  cases mentions lower "datetime" with
  | true => exact ⟨some "date-time", rfl⟩
  | false =>
  cases mentions lower "date" with
  | true => exact ⟨some "date", rfl⟩
  | false =>
  cases mentions lower "int" with
  | true => exact ⟨none, rfl⟩
  | false => cases mentionsAny lower ["float", "decimal", "number"] <;> exact ⟨none, rfl⟩

end RouteAtlas.Schema

namespace RouteAtlas.Mock

open RouteAtlas.Document RouteAtlas.Schema RouteAtlas.Syntax RouteAtlas.Text

/-! ## The ladder of values -/

/-- The JSON types that the values of the ladder have, for a name in lower case. -/
def mockedTypes (lower : String) : List String :=
  if lower = "none" then ["null"]
  else if mentions lower "str" then ["string"]
  else if mentions lower "bool" then ["boolean"]
  else if mentionsAny lower numberWords then ["integer", "number"]
  else ["string"]

/-- A name that spells a literal is mocked by it. -/
theorem mockForType_of_literal {typeName : String} {x : Scalar} (h : literalValue? typeName = some x) :
    mockForType typeName = pure (.ofScalar x) := by
  rw [mockForType, h]

/-- Any other name is mocked by values of the types that its place on the ladder says. -/
theorem gives_mockForType_types {typeName : String} (h : literalValue? typeName = none) :
    Gen.Gives (mockForType typeName) fun v => jsonTypes v = mockedTypes (lowercase typeName) := by
  have hmoment : Gen.Gives mockMoment fun v => jsonTypes v = ["string"] :=
    Gen.produces_nextText.1.bind fun _ _ => Gen.gives_pure rfl
  have htext (kind : String) : Gen.Gives (mockText kind) fun v => jsonTypes v = ["string"] :=
    (Gen.produces_numbered kind).1.bind fun _ _ => Gen.gives_pure rfl
  -- the test for numbers lower-cases the name again
  rw [mockForType, h]
  dsimp only
  rw [isNumeric, lowercase_lowercase, mockedTypes]
  split_ifs
  · exact Gen.gives_pure rfl
  · exact (Gen.produces_several _ _).1.bind fun _ _ => Gen.gives_pure rfl
  · exact Gen.produces_bool.1.bind fun _ _ => Gen.gives_pure rfl
  · exact (Gen.produces_between (by decide)).1.bind fun _ _ => Gen.gives_pure rfl
  · exact hmoment
  · exact htext "uuid4"
  · exact htext "word"

/-! ## Agreement -/

/-- For a name in lower case both ladders lead to one JSON type. -/
def LaddersAgree (lower : String) : Prop :=
  lower ≠ "none" ∧ ¬ mentionsAny lower ["dict", "mapping"] ∧
    ¬ (¬ mentionsAny lower ["str", "bool"] ∧ mentionsAny lower ["uuid", "date"] ∧
      mentionsAny lower numberWords)

/-- The described type is one of the mocked ones exactly if the ladders agree. -/
theorem ladderType_mem_mockedTypes_iff {lower : String} :
    ladderType lower ∈ mockedTypes lower ↔ LaddersAgree lower := by
  by_cases hnone : lower = "none"
  · rw [hnone]
    exact iff_of_false (by decide) fun h => h.1 rfl
  · have hnumber : mentionsAny lower numberWords =
        (mentions lower "int" || mentionsAny lower ["float", "decimal", "number"]) := rfl
    have hword : mentionsAny lower ["str", "bool"] = (mentions lower "str" || mentions lower "bool") :=
      congrArg _ (Bool.or_false _)
    rw [LaddersAgree, ladderType, mockedTypes, if_neg hnone, hnumber, hword]
    simp only [ne_eq, hnone, not_false_eq_true, true_and]
    generalize mentionsAny lower ["dict", "mapping"] = isMap
    generalize mentions lower "str" = isText
    generalize mentions lower "bool" = isTruth
    generalize mentionsAny lower ["uuid", "date"] = isFormat
    generalize mentions lower "int" = isWhole
    generalize mentionsAny lower ["float", "decimal", "number"] = isReal
    revert isMap isText isTruth isFormat isWhole isReal
    decide

/-- From every state of the source the value of a name is accepted by the name's schema where the ladders
agree, for a literal and where any value fits, and nowhere else. -/
theorem mockForType_accepted_iff (typeName : String) (s : Source) :
    ∃ v s', (mockForType typeName).runFrom s = (.ok v, s') ∧
      (Accepts (ofTypeName typeName).toValue v ↔
        (literalValue? typeName).isSome ∨ lowercase typeName ∈ anyNames ∨
          LaddersAgree (lowercase typeName)) := by
  cases hliteral : literalValue? typeName with
  | some x =>
    rw [mockForType_of_literal hliteral, ofTypeName_of_literal hliteral]
    exact ⟨.ofScalar x, s, rfl, iff_of_true (accepts_literal x) (.inl rfl)⟩
  | none =>
    obtain ⟨v, s', hrun, hv⟩ := (gives_mockForType_types hliteral).exists_run s
    refine ⟨v, s', hrun, ?_⟩
    by_cases hany : lowercase typeName ∈ anyNames
    · rw [ofTypeName_of_mem_anyNames hliteral hany]
      exact iff_of_true (accepts_any v) (.inr (.inl hany))
    · obtain ⟨format, hschema⟩ := ofTypeName_of_ladder hliteral hany
      rw [hschema, accepts_leaf_iff, hv, ladderType_mem_mockedTypes_iff]
      exact ⟨fun h => .inr (.inr h), fun h => (h.resolve_left nofun).resolve_left hany⟩

end RouteAtlas.Mock
