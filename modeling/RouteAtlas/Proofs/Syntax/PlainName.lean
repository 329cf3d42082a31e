import Mathlib.Data.List.TakeWhile
import RouteAtlas.Proofs.Syntax.ScanCost

/-!
# Names that spell themselves

The scanner gives a name in its compatible form, and some names in that form are reserved words: a class
can bear such a name, and no text spells it. `IsPlainName` holds of all other names, and the text of one
reads as the name itself.
-/

namespace RouteAtlas.Syntax

open RouteAtlas.Text Reading

/-- A name that its own text spells: an identifier in its compatible form that is not reserved. -/
structure IsPlainName (s : String) : Prop where
  isIdentifier : isIdentifier s.toList = true
  compatible : compatibleForm s = s
  not_keyword : s ∉ keywords

/-- The start of an identifier could continue a word. -/
theorem couldContinueWord_of_isIdentifierStart {c : Char} (h : isIdentifierStart c = true) :
    couldContinueWord c = true := by
  unfold isIdentifierStart at h
  unfold couldContinueWord
  split at h
  · rcases Bool.or_eq_true_iff.1 h with h | h <;> simp [h]
  · next hc => simp [Nat.le_of_not_lt hc]

/-- No identifier starts with a digit. -/
theorem isAsciiDigit_eq_false_of_isIdentifierStart {c : Char} (h : isIdentifierStart c = true) :
    isAsciiDigit c = false := by
  refine Bool.eq_false_iff.2 fun hd => ?_
  obtain ⟨hlow, hhigh⟩ : '0' ≤ c ∧ c ≤ '9' := by simpa [isAsciiDigit] using hd
  have hlow : 48 ≤ c.toNat := hlow
  have hhigh : c.toNat ≤ 57 := hhigh
  rw [isIdentifierStart, if_pos (by omega), Bool.or_eq_true_iff] at h
  rcases h with h | h
  · have hletter : ('a' ≤ c ∧ c ≤ 'z') ∨ ('A' ≤ c ∧ c ≤ 'Z') := by simpa [isAsciiLetter] using h
    rcases hletter with ⟨hl, _⟩ | ⟨hl, _⟩
    · have : 97 ≤ c.toNat := hl
      omega
    · have : 65 ≤ c.toNat := hl
      omega
  · rw [beq_iff_eq.1 h] at hhigh
    revert hhigh
    decide

/-- A part of an identifier could continue a word. -/
theorem couldContinueWord_of_isIdentifierPart {c : Char} (h : isIdentifierPart c = true) :
    couldContinueWord c = true := by
  unfold isIdentifierPart at h
  unfold couldContinueWord
  split at h
  · simp [h]
  · next hc => simp [Nat.le_of_not_lt hc]

/-- Every character of an identifier could stand inside a word. -/
theorem couldContinueWord_of_mem {cs : List Char} (h : isIdentifier cs = true) {c : Char}
    (hc : c ∈ cs) : couldContinueWord c = true := by
  cases cs with
  | nil => cases hc
  | cons d r =>
    obtain ⟨hstart, hparts⟩ := Bool.and_eq_true_iff.1 h
    rcases List.mem_cons.1 hc with rfl | hc
    · exact couldContinueWord_of_isIdentifierStart hstart
    · exact couldContinueWord_of_isIdentifierPart (List.all_eq_true.1 hparts c hc)

/-- A text with a character that stands inside no word is no identifier. -/
theorem isIdentifier_eq_false_of_mem {cs : List Char} {c : Char} (hc : c ∈ cs)
    (h : couldContinueWord c = false) : isIdentifier cs = false := by
  refine Bool.eq_false_iff.2 fun hid => ?_
  rw [couldContinueWord_of_mem hid hc] at h
  cases h

/-- What could continue a word is not what could not. -/
theorem ne_of_couldContinueWord {c d : Char} (hc : couldContinueWord c = true)
    (hd : couldContinueWord d = false) : c ≠ d := by
  rintro rfl
  rw [hc] at hd
  cases hd

/-! ## Scanning -/

/-- Without returns the lines of a source stay. -/
theorem sourceLines_eq_self {cs : List Char} (h : '\r' ∉ cs) : sourceLines cs = cs := by
  fun_induction sourceLines cs with
  | case1 r ih => simp at h
  | case2 r hne ih => simp at h
  | case3 c r hne hne' ih => rw [ih fun hr => h (List.mem_cons_of_mem c hr)]
  | case4 => rfl

/-- A plain name is read as one word. -/
theorem wordAt_of_isPlainName {s : String} (h : IsPlainName s) :
    wordAt s.toList = some (.name s, []) := by
  have hall : ∀ c ∈ s.toList, couldContinueWord c = true := fun c hc =>
    couldContinueWord_of_mem h.isIdentifier hc
  have hword : s.toList.takeWhile couldContinueWord = s.toList := List.takeWhile_eq_self_iff.2 hall
  have hkeyword : keywords.contains s = false := by
    simpa using h.not_keyword
  unfold wordAt
  simp only [hword, List.drop_length, List.head?_nil, Option.any_none, Bool.false_and,
    Bool.false_eq_true, if_false, String.ofList_toList, hkeyword, h.isIdentifier, if_true,
    h.compatible]

/-- At the start of a text a word is scanned without any sign of the line structure. -/
theorem scanFrom_start {fuel : Nat} {c : Char} {r : List Char} (hc : couldContinueWord c = true) :
    scanFrom (fuel + 1) ⟨[], [], true⟩ [] (c :: r) = scanFrom fuel ⟨[], [], false⟩ [] (c :: r) := by
  have hblank : indentation ((c :: r).length + 1) 0 0 0 (c :: r) = some (0, 0, c :: r) := by
    rw [indentation.eq_def]
    dsimp only
    split
    · next he => exact absurd (List.cons.inj he).1 (ne_of_couldContinueWord hc rfl)
    · next he => exact absurd (List.cons.inj he).1 (ne_of_couldContinueWord hc rfl)
    · next he => exact absurd (List.cons.inj he).1 (ne_of_couldContinueWord hc rfl)
    · next he => exact absurd (List.cons.inj he).1 (ne_of_couldContinueWord hc rfl)
    · rfl
  rw [scanFrom.eq_def]
  simp only [if_true, hblank]
  split
  · next he => exact absurd (List.cons.inj he).1 (ne_of_couldContinueWord hc rfl)
  · next he => exact absurd (List.cons.inj he).1 (ne_of_couldContinueWord hc rfl)
  · rfl

/-- Inside a line a word is scanned by `wordAt`. -/
theorem scanFrom_word {fuel : Nat} {st : ScanState} {done : List Token} {c : Char} {r rest : List Char}
    {t : Token} (hst : st.lineStart = false) (hc : isIdentifierStart c = true)
    (hword : wordAt (c :: r) = some (t, rest)) :
    scanFrom (fuel + 1) st done (c :: r) = scanFrom fuel st (t :: done) rest := by
  have hcc := couldContinueWord_of_isIdentifierStart hc
  have hne {d : Char} (hd : couldContinueWord d = false) : (c == d) = false :=
    beq_eq_false_iff_ne.2 (ne_of_couldContinueWord hcc hd)
  have hdigit := isAsciiDigit_eq_false_of_isIdentifierStart hc
  rw [scanFrom.eq_def]
  simp only [hst, Bool.false_eq_true, if_false]
  split
  · next he => cases he
  · next he => exact absurd (List.cons.inj he).1 (ne_of_couldContinueWord hcc rfl)
  · next he => exact absurd (List.cons.inj he).1 (ne_of_couldContinueWord hcc rfl)
  · next he => exact absurd (List.cons.inj he).1 (ne_of_couldContinueWord hcc rfl)
  · next c' r' _ _ _ he =>
    obtain ⟨rfl, rfl⟩ := List.cons.inj he
    rw [hne rfl, hne rfl, hne rfl, hne rfl, hne rfl, hne rfl, hdigit, hcc, hword]
    rfl

/-- A plain name is one token. -/
theorem scan_of_isPlainName {s : String} (h : IsPlainName s) : Token.scan s.toList = some [.name s] := by
  have hid := h.isIdentifier
  have hword := wordAt_of_isPlainName h
  unfold Token.scan
  cases hs : s.toList with
  | nil => simp [hs, Text.isIdentifier] at hid
  | cons c r =>
    rw [hs] at hid hword
    have hc : isIdentifierStart c = true := (Bool.and_eq_true_iff.1 hid).1
    rw [scanFrom_start (couldContinueWord_of_isIdentifierStart hc), scanFrom_word rfl hc hword]
    rfl

/-! ## Reading -/

/-- A text without line ends and null characters is read from its tokens. -/
theorem readExpr_of_scan {s : String} {tokens : List Token} {e : Expr} (hline : '\r' ∉ s.toList)
    (hnull : Char.ofNat 0 ∉ s.toList) (hscan : Token.scan s.toList = some tokens)
    (hread : (expressionGrammar (depthBound s.toList)).run tokens = some (e, [])) :
    readExpr s = .ok e := by
  have hnull : s.toList.contains (Char.ofNat 0) = false := by simpa using hnull
  unfold readExpr readSource
  rw [sourceLines_eq_self hline, hnull]
  simp only [Bool.false_eq_true, if_false, hscan]
  unfold readAll
  rw [hread]

/-- The depth of a tree is bounded by more than any level of the grammar. -/
theorem exists_depthBound_eq (cs : List Char) : ∃ n, depthBound cs = n + 40 :=
  ⟨_, (Nat.sub_add_cancel (by unfold depthBound; omega)).symm⟩

/-- A plain name reads as itself. -/
theorem readExpr_of_isPlainName {s : String} (h : IsPlainName s) : readExpr s = .ok (.name s) := by
  have hmem {d : Char} (hd : couldContinueWord d = false) : d ∉ s.toList := fun hin =>
    ne_of_couldContinueWord (couldContinueWord_of_mem h.isIdentifier hin) hd rfl
  obtain ⟨n, hbound⟩ := exists_depthBound_eq s.toList
  refine readExpr_of_scan (hmem rfl) (hmem rfl) (scan_of_isPlainName h) ?_
  -- on one token every level of the grammar hands down to the atom, whatever the bound
  rw [hbound]
  rfl

end RouteAtlas.Syntax
