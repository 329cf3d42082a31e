import RouteAtlas.Document.Json
import RouteAtlas.Proofs.Document.OrderedMap
import RouteAtlas.Proofs.Mock.Draws
import RouteAtlas.Proofs.Reflect.SettledRegistry
import RouteAtlas.Proofs.Text.Digits

/-!
# Which types have mock values

A generator fails where it chooses from nothing, and its value cannot be sent where it repeats a literal
that no strict JSON holds: an infinite number, an integer of too many digits, a text with surrogates.
`servable` computes whether a type is free of all these: then every source gives a plain value
(`gives_generate`), and otherwise some source gives none that can be sent (`follows_generate`).
-/

namespace RouteAtlas.Document.Value

open RouteAtlas.Text

/-! ## Plain values -/

/-- The value holds texts of characters, integers of not too many digits, finite numbers, truth values,
null, lists and maps only. -/
inductive IsPlain : Value → Prop
  | null : IsPlain .null
  | bool (b : Bool) : IsPlain (.bool b)
  | int {n : Int} (h : isLongInteger n = false) : IsPlain (.int n)
  | float {x : Float} (h : x.isFinite = true) : IsPlain (.float x)
  | str (s : String) : IsPlain (.str s)
  | list {items : List Value} (h : ∀ v ∈ items, IsPlain v) : IsPlain (.list items)
  | map {fields : List (String × Value)} (h : ∀ f ∈ fields, IsPlain f.2) : IsPlain (.map fields)

section Leaves

variable {test : Value → Bool}

/-- A list passes a test of leaves if its items do. -/
theorem allLeavesOf_eq_true_iff {items : List Value} :
    allLeavesOf test items = true ↔ ∀ v ∈ items, v.allLeaves test = true := by
  induction items with
  | nil => simp [allLeavesOf]
  | cons v items ih => simp [allLeavesOf, ih]

/-- A map passes a test of leaves if the values of its fields do. -/
theorem allLeavesIn_eq_true_iff {fields : List (String × Value)} :
    allLeavesIn test fields = true ↔ ∀ f ∈ fields, f.2.allLeaves test = true := by
  induction fields with
  | nil => simp [allLeavesIn]
  | cons f fields ih =>
    obtain ⟨name, v⟩ := f
    rw [allLeavesIn, Bool.and_eq_true, ih, List.forall_mem_cons]

/-- A plain value passes every test that the plain leaves pass. -/
theorem IsPlain.allLeaves {v : Value} (h : v.IsPlain) (hnull : test .null = true)
    (hbool : ∀ b, test (.bool b) = true)
    (hint : ∀ n, isLongInteger n = false → test (.int n) = true)
    (hfloat : ∀ x : Float, x.isFinite = true → test (.float x) = true)
    (hstr : ∀ s, test (.str s) = true) : v.allLeaves test = true := by
  induction h with
  | null => exact hnull
  | bool b => exact hbool b
  | int h => exact hint _ h
  | float h => exact hfloat _ h
  | str s => exact hstr s
  | list _ ih => exact allLeavesOf_eq_true_iff.2 ih
  | map _ ih => exact allLeavesIn_eq_true_iff.2 ih

end Leaves

mutual

/-- Two tests of leaves are passed together. -/
theorem allLeaves_and (p q : Value → Bool) (v : Value) :
    v.allLeaves (fun w => p w && q w) = (v.allLeaves p && v.allLeaves q) := by
  match v with
  | .list items => exact allLeavesOf_and p q items
  | .map fields => exact allLeavesIn_and p q fields
  | .null | .bool _ | .int _ | .float _ | .str _ | .surrogate _ | .moment _ | .bytes _ | .foreign _ => rfl

/-- The same for the items of a list. -/
theorem allLeavesOf_and (p q : Value → Bool) (items : List Value) :
    allLeavesOf (fun w => p w && q w) items = (allLeavesOf p items && allLeavesOf q items) := by
  match items with
  | [] => rfl
  | v :: r =>
    rw [allLeavesOf, allLeavesOf, allLeavesOf, allLeaves_and p q v, allLeavesOf_and p q r]
    ac_rfl

/-- The same for the fields of a map. -/
theorem allLeavesIn_and (p q : Value → Bool) (fields : List (String × Value)) :
    allLeavesIn (fun w => p w && q w) fields = (allLeavesIn p fields && allLeavesIn q fields) := by
  match fields with
  | [] => rfl
  | (_, v) :: r =>
    rw [allLeavesIn, allLeavesIn, allLeavesIn, allLeaves_and p q v, allLeavesIn_and p q r]
    ac_rfl

end

/-- Strict JSON has a text for the leaf, and UTF-8 has bytes for that. -/
def isSendableLeaf (v : Value) : Bool := v.isFiniteLeaf && (v.isShortLeaf && v.isEncodableLeaf)

/-- Strict JSON has a text for the value, and UTF-8 has bytes for that. -/
def isSendable (v : Value) : Bool := v.allLeaves isSendableLeaf

/-- A value that can be sent has finite and short numbers and no surrogates. -/
theorem isSendable_eq (v : Value) :
    v.isSendable = (v.isFinite && (!v.hasLongInteger && !v.hasSurrogate)) := by
  unfold isFinite hasLongInteger hasSurrogate
  rw [Bool.not_not, Bool.not_not, ← allLeaves_and isShortLeaf, ← allLeaves_and isFiniteLeaf]
  rfl

/-- A value cannot be sent for a number or for a surrogate. -/
theorem isSendable_eq_false_iff {v : Value} : v.isSendable = false ↔
    (v.isFinite = false ∨ v.hasLongInteger = true) ∨ v.hasSurrogate = true := by
  simp only [isSendable_eq, Bool.and_eq_false_iff, Bool.not_eq_false', or_assoc]

/-- A plain value can be sent. -/
theorem IsPlain.isSendable {v : Value} (h : v.IsPlain) : v.isSendable = true := by
  refine h.allLeaves rfl (fun _ => rfl) (fun n hn => ?_) (fun x hx => ?_) fun _ => rfl
  · simp [isSendableLeaf, isFiniteLeaf, isShortLeaf, isEncodableLeaf, hn]
  · simp [isSendableLeaf, isFiniteLeaf, isShortLeaf, isEncodableLeaf, hx]

end RouteAtlas.Document.Value

namespace RouteAtlas.Mock

open RouteAtlas.Api RouteAtlas.Document RouteAtlas.Document.Value RouteAtlas.Reflect
open RouteAtlas.Syntax RouteAtlas.Text

/-! ## Leaves -/

/-- The text spells no literal that cannot be sent. -/
def hasPlainLiteral (text : String) : Bool :=
  (literalValue? text).all fun x => (Value.ofScalar x).isSendable

/-- A literal that can be sent is a plain value. -/
theorem isPlain_ofScalar {x : Scalar} (h : (Value.ofScalar x).isSendable = true) :
    (Value.ofScalar x).IsPlain := by
  cases x with
  | str s => exact .str s
  | surrogate t => cases h
  | bool b => exact .bool b
  | int n =>
    refine .int ?_
    simpa [isSendable, Value.ofScalar, allLeaves, isSendableLeaf, isFiniteLeaf, isShortLeaf,
      isEncodableLeaf] using h
  | float x =>
    refine .float ?_
    simpa [isSendable, Value.ofScalar, allLeaves, isSendableLeaf, isFiniteLeaf, isShortLeaf,
      isEncodableLeaf] using h

/-- The words of property names that decide without the type. -/
def decidingWords : List String :=
  ["email", "name", "phone", "mobile", "tel", "address", "street", "city", "country", "url", "website",
    "date", "created", "updated", "description", "bio", "title"]

/-- The name of a property decides its value, whatever the type spells. -/
def nameDecides (name typeName : String) : Bool :=
  mentionsAny name decidingWords || mentionsAny name ["id", "age"] && isNumeric typeName

/-- A text of a kind is plain. -/
theorem produces_mockText (kind : String) : Gen.Produces (mockText kind) IsPlain :=
  (Gen.produces_numbered kind).map fun s _ => .str s

/-- A moment is a plain text. -/
theorem produces_mockMoment : Gen.Produces mockMoment IsPlain :=
  Gen.produces_nextText.map fun _ _ => .str _

/-- A number between small bounds is plain. -/
theorem produces_smallNumber {low high : Nat} (h : low ≤ high) (hhigh : high ≤ 1000) :
    Gen.Produces (do return Value.int (← Gen.between low high)) IsPlain :=
  (Gen.produces_between h).map fun _ hn => .int (isLongInteger_of_le (hn.2.trans hhigh))

/-- A type whose name spells no unfit literal gives plain values. -/
theorem produces_mockForType {text : String} (h : hasPlainLiteral text = true) :
    Gen.Produces (mockForType text) IsPlain := by
  unfold hasPlainLiteral at h
  unfold mockForType
  split
  · next x hx =>
    rw [hx] at h
    exact Gen.produces_pure (isPlain_ofScalar h)
  · dsimp only
    split_ifs
    · exact Gen.produces_pure .null
    · exact (Gen.produces_several _ _).map fun s _ => .str s
    · exact Gen.produces_bool.map fun b _ => .bool b
    · exact produces_smallNumber (by decide) (by decide)
    · exact produces_mockMoment
    · exact produces_mockText _
    · exact produces_mockText _

/-- A type whose name spells an unfit literal gives that. -/
theorem mockForType_of_not {text : String} (h : hasPlainLiteral text = false) :
    ∃ v, mockForType text = pure v ∧ v.isSendable = false := by
  unfold hasPlainLiteral at h
  unfold mockForType
  cases hx : literalValue? text with
  | none =>
    rw [hx] at h
    cases h
  | some x =>
    rw [hx] at h
    exact ⟨.ofScalar x, rfl, h⟩

/-- A name that does not decide has none of the words of the ladder. -/
theorem of_nameDecides_eq_false {name typeName : String} (h : nameDecides name typeName = false) :
    (∀ words, words ⊆ decidingWords → ¬ mentionsAny name words = true) ∧
      ∀ word ∈ ["id", "age"], ¬ (mentions name word && isNumeric typeName) = true := by
  obtain ⟨hwords, hnumeric⟩ := Bool.or_eq_false_iff.1 h
  have hnone : ∀ word ∈ decidingWords, ¬ mentions name word = true := List.any_eq_false.1 hwords
  constructor
  · intro words hsub hany
    obtain ⟨word, hword, hmentions⟩ := List.any_eq_true.1 hany
    exact hnone word (hsub hword) hmentions
  · intro word hword hboth
    obtain ⟨hmentions, hnumber⟩ := Bool.and_eq_true_iff.1 hboth
    have hany : mentionsAny name ["id", "age"] = true := List.any_eq_true.2 ⟨word, hword, hmentions⟩
    rw [hany, hnumber] at hnumeric
    cases hnumeric

/-- A name that does not decide leaves the value to the type. -/
theorem mockForName_eq {name typeName : String} (h : nameDecides name typeName = false) :
    mockForName name typeName = mockForType typeName := by
  obtain ⟨hwords, hnumeric⟩ := of_nameDecides_eq_false h
  have hword : ∀ word ∈ decidingWords, ¬ mentions name word = true := fun word hmem hmentions =>
    hwords [word] (by simpa using hmem) (by simpa [mentionsAny] using hmentions)
  unfold mockForName
  dsimp only
  rw [if_neg (hword _ (by decide)), if_neg (hword _ (by decide)), if_neg (hwords _ (by decide)),
    if_neg (hwords _ (by decide)), if_neg (hword _ (by decide)), if_neg (hword _ (by decide)),
    if_neg (hwords _ (by decide)), if_neg (hnumeric _ (by decide)), if_neg (hnumeric _ (by decide)),
    if_neg (hwords _ (by decide)), if_neg (hwords _ (by decide)), if_neg (hword _ (by decide))]

/-- A name gives a plain value if it decides, or else if the type does. -/
theorem produces_mockForName {name typeName : String}
    (h : nameDecides name typeName = false → hasPlainLiteral typeName = true) :
    Gen.Produces (mockForName name typeName) IsPlain := by
  unfold mockForName
  refine Gen.produces_ite (fun _ => produces_mockText _) fun hemail => ?_
  refine Gen.produces_ite (fun _ => Gen.produces_personName.map fun s _ => .str s) fun hname => ?_
  refine Gen.produces_ite (fun _ => produces_mockText _) fun hphone => ?_
  refine Gen.produces_ite (fun _ => produces_mockText _) fun haddress => ?_
  refine Gen.produces_ite (fun _ => produces_mockText _) fun hcity => ?_
  refine Gen.produces_ite (fun _ => produces_mockText _) fun hcountry => ?_
  refine Gen.produces_ite (fun _ => produces_mockText _) fun hurl => ?_
  refine Gen.produces_ite (fun _ => produces_smallNumber (by decide) (by decide)) fun hid => ?_
  refine Gen.produces_ite (fun _ => produces_smallNumber (by decide) (by decide)) fun hage => ?_
  refine Gen.produces_ite (fun _ => produces_mockMoment) fun hdate => ?_
  refine Gen.produces_ite (fun _ => (Gen.produces_several _ _).map fun s _ => .str s) fun hbio => ?_
  refine Gen.produces_ite (fun _ => (Gen.produces_several _ _).map fun s _ => .str s) fun htitle => ?_
  refine produces_mockForType (h ?_)
  simp only [mentionsAny, List.any_cons, List.any_nil, Bool.or_false, Bool.or_eq_true, not_or,
    Bool.not_eq_true] at hemail hname hphone haddress hcity hcountry hurl hid hage hdate hbio htitle
  unfold nameDecides mentionsAny decidingWords
  simp only [List.any_cons, List.any_nil, Bool.or_false, Bool.or_eq_false_iff, Bool.and_or_distrib_right]
  exact ⟨⟨hemail, hname, hphone.1, hphone.2.1, hphone.2.2, haddress.1, haddress.2, hcity, hcountry,
    hurl.1, hurl.2, hdate.1, hdate.2.1, hdate.2.2, hbio.1, hbio.2, htitle⟩, hid, hage⟩

/-- A leaf of this text, for a property of the hinted name, has plain values only. -/
def leafServable (hint : Option String) (text : String) : Bool :=
  hasPlainLiteral text ||
    hint.any fun name => !name.isEmpty && nameDecides (lowercase name) text

/-- A servable leaf gives plain values. -/
theorem produces_mockLeaf {hint : Option String} {text : String}
    (h : leafServable hint text = true) : Gen.Produces (mockLeaf text hint) IsPlain := by
  unfold leafServable at h
  unfold mockLeaf
  cases hint with
  | none => exact produces_mockForType (by simpa using h)
  | some name =>
    dsimp only
    by_cases hname : name.isEmpty = true
    · rw [if_pos hname]
      exact produces_mockForType (by simpa [hname] using h)
    · rw [if_neg hname]
      refine produces_mockForName fun hdecides => ?_
      simpa [hdecides] using h

/-- Any other leaf gives its unfit literal. -/
theorem mockLeaf_of_not {hint : Option String} {text : String} (h : leafServable hint text = false) :
    ∃ v, mockLeaf text hint = pure v ∧ v.isSendable = false := by
  unfold leafServable at h
  obtain ⟨hliteral, hname⟩ := Bool.or_eq_false_iff.1 h
  obtain ⟨v, hv, hunfit⟩ := mockForType_of_not hliteral
  refine ⟨v, ?_, hunfit⟩
  rw [← hv]
  unfold mockLeaf
  cases hint with
  | none => rfl
  | some name =>
    dsimp only
    split_ifs with hempty
    · rfl
    · exact mockForName_eq (by simpa [hempty] using hname)

/-! ## Types -/

mutual

/-- Every source gives a plain value of the type, for a property of the hinted name. -/
def servable (hint : Option String) : TypeShape → Bool
  | ⟨_, _, _, some items, _, _⟩ => servable hint items
  | ⟨_, _, _, none, _, some members⟩ => !members.isEmpty && members.all hasPlainLiteral
  | ⟨_, _, _, none, some properties, none⟩ => servableFields properties
  | ⟨text, _, _, none, none, none⟩ => leafServable hint text

/-- Every source gives plain values for the properties. -/
def servableFields : List (String × TypeShape) → Bool
  | [] => true
  | (name, t) :: r => servable (some name) t && servableFields r

end

/-- Properties are servable if each of them is, for its own name. -/
theorem servableFields_eq_true_iff {fields : List (String × TypeShape)} :
    servableFields fields = true ↔ ∀ f ∈ fields, servable (some f.1) f.2 = true := by
  induction fields with
  | nil => simp [servableFields]
  | cons f fields ih =>
    obtain ⟨name, t⟩ := f
    rw [servableFields, Bool.and_eq_true, ih, List.forall_mem_cons]

section Shapes

variable (hint : Option String) (text : String) (isOptional : Bool)

/-- A leaf is generated by its text and the hint. -/
theorem generate_leaf : generate hint (.leaf text isOptional) = mockLeaf text hint := by
  simp [TypeShape.leaf, generate]

/-- A union is generated as one of its members. -/
theorem generate_union (members : List String) : generate hint (.union text isOptional members) =
    (do mockForType (← Gen.element members)) := by
  simp [TypeShape.union, generate]

/-- An array is generated item by item. -/
theorem generate_array (items : TypeShape) : generate hint (.array text isOptional items) =
    (do
      let count ← Gen.between 1 5
      return .list (← repeatGen (generate hint items) count)) := by
  simp [TypeShape.array, generate]

/-- An object is generated property by property. -/
theorem generate_object (properties : List (String × TypeShape)) :
    generate hint (.object text isOptional properties) =
      (do return .map (ofFields (← generateFields properties))) := by
  simp [TypeShape.object, generate]

/-- A leaf is servable by its text and the hint. -/
@[simp] theorem servable_leaf : servable hint (.leaf text isOptional) = leafServable hint text := by
  simp [TypeShape.leaf, servable]

/-- A union is servable if it has members and all of them are. -/
@[simp] theorem servable_union (members : List String) : servable hint (.union text isOptional members) =
    (!members.isEmpty && members.all hasPlainLiteral) := by
  simp [TypeShape.union, servable]

/-- An array is servable as its items are. -/
@[simp] theorem servable_array (items : TypeShape) :
    servable hint (.array text isOptional items) = servable hint items := by
  simp [TypeShape.array, servable]

/-- An object is servable as its properties are. -/
@[simp] theorem servable_object (properties : List (String × TypeShape)) :
    servable hint (.object text isOptional properties) = servableFields properties := by
  simp [TypeShape.object, servable]

end Shapes

/-! ## Repeating and collecting -/

/-- Items keep what holds of every one. -/
theorem gives_repeatGen {g : Gen Value} {Q : Value → Prop} (hg : Gen.Gives g Q) (n : Nat) :
    Gen.Gives (repeatGen g n) fun vs => ∀ v ∈ vs, Q v := by
  induction n with
  | zero => exact Gen.gives_pure fun v hv => absurd hv List.not_mem_nil
  | succ n ih =>
    refine hg.bind fun v hv => ih.bind fun vs hvs => Gen.gives_pure ?_
    exact List.forall_mem_cons.2 ⟨hv, hvs⟩

/-- A single item is given from its own numbers. -/
theorem follows_repeatGen {g : Gen Value} {Q : Value → Prop} {ns : List Nat}
    (hg : Gen.Follows ns g Q) : Gen.Follows (ns ++ ([] ++ [])) (repeatGen g 1) fun vs =>
      ∃ v, Q v ∧ vs = [v] :=
  hg.bind fun v hv => (Gen.follows_pure (a := []) (Q := (· = [])) rfl).bind fun vs hvs =>
    Gen.follows_pure ⟨v, hv, by rw [hvs]⟩

/-- Properties keep what holds of every one. -/
theorem gives_generateFields {fields : List (String × TypeShape)} {Q : Value → Prop}
    (h : ∀ f ∈ fields, Gen.Gives (generate (some f.1) f.2) Q) :
    Gen.Gives (generateFields fields) fun vs => ∀ f ∈ vs, Q f.2 := by
  induction fields with
  | nil =>
    rw [generateFields]
    exact Gen.gives_pure fun f hf => absurd hf List.not_mem_nil
  | cons f fields ih =>
    obtain ⟨name, t⟩ := f
    obtain ⟨hfirst, hrest⟩ := List.forall_mem_cons.1 h
    have hpresent : Gen.Gives (if t.isOptional then Gen.bool else pure true) fun _ => True := by
      split
      · exact Gen.produces_bool.1
      · exact Gen.gives_pure trivial
    rw [generateFields_cons]
    refine hpresent.bind fun present _ => ?_
    split
    · refine hfirst.bind fun v hv => (ih hrest).bind fun vs hvs => Gen.gives_pure ?_
      exact List.forall_mem_cons.2 ⟨hv, hvs⟩
    · exact ih hrest

/-- With all properties present each can be given its value. -/
theorem follows_generateFields {fields : List (String × TypeShape)}
    {Q : String × TypeShape → Value → Prop}
    (h : ∀ f ∈ fields, ∃ ns, Gen.Follows ns (generate (some f.1) f.2) (Q f)) :
    ∃ ns, Gen.Follows ns (generateFields fields) fun vs =>
      List.Forall₂ (fun f v => v.1 = f.1 ∧ Q f v.2) fields vs := by
  induction fields with
  | nil =>
    refine ⟨[], ?_⟩
    rw [generateFields]
    exact Gen.follows_pure .nil
  | cons f fields ih =>
    obtain ⟨name, t⟩ := f
    obtain ⟨⟨ns, hfirst⟩, hrest⟩ := List.forall_mem_cons.1 h
    obtain ⟨ms, hrest⟩ := ih hrest
    have hpresent : ∃ ks, Gen.Follows ks (if t.isOptional then Gen.bool else pure true) (· = true) := by
      split
      · refine ⟨[1] ++ [], (Gen.follows_draw 1).bind fun n hn => Gen.follows_pure ?_⟩
        rw [hn]
        rfl
      · exact ⟨[], Gen.follows_pure rfl⟩
    obtain ⟨ks, hpresent⟩ := hpresent
    refine ⟨ks ++ (ns ++ (ms ++ [])), ?_⟩
    rw [generateFields_cons]
    refine hpresent.bind fun present hp => ?_
    rw [if_pos hp]
    exact hfirst.bind fun v hv => hrest.bind fun vs hvs => Gen.follows_pure (.cons ⟨rfl, hv⟩ hvs)

/-- Values under the names of the properties cannot all be sent if one cannot. -/
theorem names_and_sendable_of_forall₂ {fields : List (String × TypeShape)}
    {vs : List (String × Value)} (h : List.Forall₂ (fun f v => v.1 = f.1 ∧
      (servable (some f.1) f.2 = false → v.2.isSendable = false)) fields vs) :
    fieldNames vs = fieldNames fields ∧
      (servableFields fields = false → allLeavesIn isSendableLeaf vs = false) := by
  induction h with
  | nil => exact ⟨rfl, nofun⟩
  | @cons f v fields vs hv _ ih =>
    obtain ⟨name, t⟩ := f
    obtain ⟨name', v⟩ := v
    obtain ⟨rfl, hsendable⟩ := hv
    rw [fieldNames_cons, fieldNames_cons, ih.1, servableFields, allLeavesIn]
    refine ⟨rfl, fun hnot => ?_⟩
    rcases Bool.and_eq_false_iff.1 hnot with hfirst | hrest
    · rw [← isSendable, hsendable hfirst, Bool.false_and]
    · rw [ih.2 hrest, Bool.and_false]

/-! ## All types -/

/-- A leaf can be made to give a value that cannot be sent, unless its values are plain. -/
theorem follows_mockLeaf (hint : Option String) (text : String) :
    ∃ ns, Gen.Follows ns (mockLeaf text hint) fun v =>
      leafServable hint text = false → v.isSendable = false := by
  -- a servable leaf still has to use up some numbers, for the properties behind it
  by_cases h : leafServable hint text = true
  · obtain ⟨ns, hfollows⟩ := (produces_mockLeaf h).2
    exact ⟨ns, hfollows.mono fun v _ hnot => absurd (h.symm.trans hnot) nofun⟩
  · obtain ⟨v, hv, hunfit⟩ := mockLeaf_of_not (Bool.eq_false_iff.2 h)
    rw [hv]
    exact ⟨[], Gen.follows_pure fun _ => hunfit⟩

/-- The same for the name of a type. -/
theorem follows_mockForType (text : String) :
    ∃ ns, Gen.Follows ns (mockForType text) fun v =>
      hasPlainLiteral text = false → v.isSendable = false := by
  have h := follows_mockLeaf none text
  simpa [mockLeaf, leafServable] using h

/-- A union can be made to give such a value, or to choose from nothing, unless its values are plain. -/
theorem follows_union (members : List String) :
    ∃ ns, Gen.Follows ns (do mockForType (← Gen.element members)) fun v =>
      (!members.isEmpty && members.all hasPlainLiteral) = false → v.isSendable = false := by
  obtain ⟨n, hn⟩ : ∃ n, ∀ x, members[n % members.length]? = some x →
      members.all hasPlainLiteral = false → hasPlainLiteral x = false := by
    by_cases hall : members.all hasPlainLiteral = true
    · exact ⟨0, fun x _ hnot => absurd (hall.symm.trans hnot) nofun⟩
    · obtain ⟨x, hx, hliteral⟩ := List.all_eq_false.1 (Bool.eq_false_iff.2 hall)
      obtain ⟨i, hi, rfl⟩ := List.getElem_of_mem hx
      refine ⟨i, fun y hy _ => ?_⟩
      rw [Nat.mod_eq_of_lt hi, List.getElem?_eq_getElem hi] at hy
      rw [← Option.some.inj hy]
      exact Bool.eq_false_iff.2 hliteral
  obtain ⟨ns, hfollows⟩ := follows_mockForType (members[n % members.length]?.getD "")
  refine ⟨[n] ++ ns, (Gen.follows_element members n).bind fun x hx => ?_⟩
  rw [hx] at hfollows
  refine hfollows.mono fun v hv hnot => hv (hn x hx ?_)
  have hne : members.isEmpty = false := by
    cases members with
    | nil => cases hx
    | cons => rfl
  rwa [hne] at hnot

variable {index : ClassIndex} {active : List String} {t : TypeShape}

/-- From every source a type gives a plain value if it is servable. -/
theorem gives_generate (h : Reflected index active t) (hint : Option String)
    (hs : servable hint t = true) : Gen.Gives (generate hint t) IsPlain := by
  induction h generalizing hint with
  | leaf =>
    rw [servable_leaf] at hs
    rw [generate_leaf]
    exact (produces_mockLeaf hs).1
  | union text isOptional members =>
    rw [servable_union, Bool.and_eq_true, Bool.not_eq_true', List.isEmpty_eq_false_iff] at hs
    rw [generate_union]
    refine (Gen.gives_element hs.1).bind fun x hx => ?_
    exact (produces_mockForType (List.all_eq_true.1 hs.2 x hx)).1
  | array _ ih =>
    rw [servable_array] at hs
    rw [generate_array]
    refine (Gen.produces_between (by decide)).1.bind fun count _ => ?_
    exact (gives_repeatGen (ih hint hs) count).bind fun vs hvs => Gen.gives_pure (.list hvs)
  | object _ _ _ _ _ ih =>
    rw [servable_object, servableFields_eq_true_iff] at hs
    rw [generate_object]
    refine (gives_generateFields fun f hf => ih f hf (some f.1) (hs f hf)).bind fun vs hvs => ?_
    exact Gen.gives_pure (.map fun f hf => hvs f (mem_of_mem_ofFields hf))

/-- From some source a type that is not servable gives no value, or one that cannot be sent. -/
theorem follows_generate (h : Reflected index active t) (hint : Option String) :
    ∃ ns, Gen.Follows ns (generate hint t) fun v => servable hint t = false → v.isSendable = false := by
  induction h generalizing hint with
  | leaf =>
    rw [servable_leaf, generate_leaf]
    exact follows_mockLeaf hint _
  | union text isOptional members =>
    rw [servable_union, generate_union]
    exact follows_union members
  | array _ ih =>
    obtain ⟨ns, hitem⟩ := ih hint
    have hcount : Gen.Follows ([0] ++ []) (Gen.between 1 5) (· = 1) :=
      (Gen.follows_draw 0).bind fun n hn => Gen.follows_pure (by rw [hn])
    -- a first draw of zero asks for one item
    rw [servable_array, generate_array]
    refine ⟨([0] ++ []) ++ ((ns ++ ([] ++ [])) ++ []), hcount.bind fun count hone => ?_⟩
    rw [hone]
    refine (follows_repeatGen hitem).bind fun vs hvs => Gen.follows_pure fun hnot => ?_
    obtain ⟨v, hv, rfl⟩ := hvs
    rw [isSendable, allLeaves, allLeavesOf, ← isSendable, hv hnot, Bool.false_and]
  | @object _ _ _ fields _ _ _ hfields _ ih =>
    obtain ⟨ns, hvalues⟩ := follows_generateFields fun f hf => ih f hf (some f.1)
    rw [servable_object, generate_object]
    refine ⟨ns ++ [], hvalues.bind fun vs hvs => Gen.follows_pure fun hnot => ?_⟩
    -- the names of the fields are distinct, so no value takes the place of another
    obtain ⟨hnames, hunfit⟩ := names_and_sendable_of_forall₂ hvs
    rw [ofFields_of_nodup (hnames ▸ nodup_fieldNames_classFields hfields)]
    exact hunfit hnot

section Hints

variable {isOptional : Bool} {written : Option Expr}

/-- From every source a reflected annotation gives a plain value if it is servable. -/
theorem gives_generate_of_reflectHint (h : reflectHint index isOptional written = .ok t)
    (hint : Option String) (hs : servable hint t = true) : Gen.Gives (generate hint t) IsPlain := by
  cases written with
  | none =>
    obtain rfl := Except.ok.inj h
    rw [servable_leaf] at hs
    rw [generate_leaf]
    exact (produces_mockLeaf hs).1
  | some e => exact gives_generate (reflect_reflected h) hint hs

/-- From some source a reflected annotation that is not servable gives no value, or one that cannot be
sent. -/
theorem follows_generate_of_reflectHint (h : reflectHint index isOptional written = .ok t)
    (hint : Option String) : ∃ ns, Gen.Follows ns (generate hint t) fun v =>
      servable hint t = false → v.isSendable = false := by
  cases written with
  | none =>
    obtain rfl := Except.ok.inj h
    rw [servable_leaf, generate_leaf]
    exact follows_mockLeaf hint _
  | some e => exact follows_generate (reflect_reflected h) hint

end Hints

end RouteAtlas.Mock
