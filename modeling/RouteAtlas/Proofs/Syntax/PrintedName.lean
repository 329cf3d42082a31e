import RouteAtlas.Proofs.Syntax.PlainName
import RouteAtlas.Syntax.Printer

/-!
# Only names print as names

The printed form of an expression other than a name holds a character that stands inside no word, begins
with a digit or a sign, or is a reserved word.
-/

namespace RouteAtlas.Syntax

open RouteAtlas.Text RouteAtlas.Number

/-- A text with a character that stands inside no word. -/
def Broken (s : String) : Prop := ∃ c ∈ s.toList, couldContinueWord c = false

/-- A broken text stays broken with more behind it. -/
theorem broken_append_left {s : String} (h : Broken s) (t : String) : Broken (s ++ t) := by
  obtain ⟨c, hc, hb⟩ := h
  exact ⟨c, by simp [hc], hb⟩

/-- A broken text stays broken with more before it. -/
theorem broken_append_right (s : String) {t : String} (h : Broken t) : Broken (s ++ t) := by
  obtain ⟨c, hc, hb⟩ := h
  exact ⟨c, by simp [hc], hb⟩

/-- A broken text stays broken in parentheses. -/
theorem broken_parenthesizedAbove {s : String} (h : Broken s) (own context : Nat) :
    Broken (parenthesizedAbove own context s) := by
  unfold parenthesizedAbove
  split
  · exact broken_append_left (broken_append_right _ h) _
  · exact h

/-- A broken text is no identifier. -/
theorem not_isIdentifier_of_broken {s : String} (h : Broken s) : isIdentifier s.toList = false := by
  obtain ⟨c, hc, hb⟩ := h
  exact isIdentifier_eq_false_of_mem hc hb

/-! ## Constants -/

/-- A text that begins with a digit or a minus sign. -/
def BeginsAsNumber (s : String) : Prop :=
  ∃ c r, s.toList = c :: r ∧ (isAsciiDigit c = true ∨ c = '-')

/-- What begins like a number is no identifier. -/
theorem not_isIdentifier_of_beginsAsNumber {s : String} (h : BeginsAsNumber s) :
    isIdentifier s.toList = false := by
  obtain ⟨c, r, hs, hc⟩ := h
  rw [hs]
  refine Bool.eq_false_iff.2 fun hid => ?_
  have hstart := (Bool.and_eq_true_iff.1 hid).1
  rcases hc with hc | rfl
  · rw [isAsciiDigit_eq_false_of_isIdentifierStart hstart] at hc
    cases hc
  · cases hstart

/-- What begins like a number does so with more behind it. -/
theorem beginsAsNumber_append {s : String} (h : BeginsAsNumber s) (t : String) :
    BeginsAsNumber (s ++ t) := by
  obtain ⟨c, r, hs, hc⟩ := h
  exact ⟨c, r ++ t.toList, by simp [hs], hc⟩

/-- Decimal digits are ASCII digits. -/
theorem isAsciiDigit_of_isDigit {c : Char} (h : c.isDigit = true) : isAsciiDigit c = true := by
  simpa [Char.isDigit, isAsciiDigit, Char.le_def] using h

/-- A number has a first digit. -/
theorem exists_toDigits_eq_cons (n : Nat) :
    ∃ c r, Nat.toDigits 10 n = c :: r ∧ isAsciiDigit c = true := by
  cases hn : Nat.toDigits 10 n with
  | nil => exact absurd hn Nat.toDigits_ne_nil
  | cons c r =>
    have hc : c ∈ Nat.toDigits 10 n := by simp [hn]
    exact ⟨c, r, rfl, isAsciiDigit_of_isDigit (Nat.isDigit_of_mem_toDigits (by omega) (by omega) hc)⟩

/-- A number begins like one. -/
theorem beginsAsNumber_toString (n : Nat) : BeginsAsNumber (toString n) := by
  obtain ⟨c, r, hn, hc⟩ := exists_toDigits_eq_cons n
  exact ⟨c, r, by rw [← hn]; exact Nat.toList_repr, Or.inl hc⟩

/-- Digits stay in front wherever the point or the exponent is put. -/
theorem exists_ofDigits_eq_cons (style : FloatText) {c : Char} (hc : isAsciiDigit c = true)
    (ds : List Char) (lead : Int) :
    ∃ d r, style.ofDigits (c :: ds) lead = d :: r ∧ isAsciiDigit d = true := by
  unfold FloatText.ofDigits
  split
  · split
    · dsimp only
      split
      · split <;> exact ⟨c, _, rfl, hc⟩
      · exact ⟨c, _, rfl, hc⟩
    · exact ⟨'0', _, rfl, rfl⟩
  · dsimp only
    split
    · split <;> exact ⟨c, _, rfl, hc⟩
    · exact ⟨c, _, rfl, hc⟩

/-- A finite float begins like a number. -/
theorem beginsAsNumber_writeFinite (style : FloatText) (b : BinaryFraction) :
    BeginsAsNumber (style.writeFinite b) := by
  have hbody : ∃ d r, (if b.significand = 0 then style.ofDigits ['0'] 0
      else
        style.ofDigits (Nat.toDigits 10 (Decimal.shortest b).coefficient)
          ((Decimal.shortest b).exponent +
            (Nat.toDigits 10 (Decimal.shortest b).coefficient).length - 1)) = d :: r ∧
      isAsciiDigit d = true := by
    split
    · exact exists_ofDigits_eq_cons style rfl [] 0
    · -- the shortest digits that read back are those of a number, so there is a first one
      obtain ⟨c, r, hn, hc⟩ := exists_toDigits_eq_cons (Decimal.shortest b).coefficient
      rw [hn]
      exact exists_ofDigits_eq_cons style hc r _
  obtain ⟨d, r, hbody, hd⟩ := hbody
  unfold FloatText.writeFinite
  dsimp only
  rw [hbody]
  split
  · exact ⟨'-', d :: r, String.toList_ofList, Or.inr rfl⟩
  · exact ⟨d, r, String.toList_ofList, Or.inl hd⟩

/-- Neither quote stands inside a word. -/
theorem couldContinueWord_quoteFor (codes : List Nat) : couldContinueWord (quoteFor codes) = false := by
  unfold quoteFor
  split <;> rfl

/-- A quoted text holds its quotes. -/
theorem broken_ofList_quotedCodes (codes : List Nat) : Broken (String.ofList (quotedCodes codes)) :=
  ⟨quoteFor codes, by simp [quotedCodes], couldContinueWord_quoteFor _⟩

/-- Quoted bytes hold their quotes. -/
theorem broken_quotedBytes (bs : List UInt8) : Broken (quotedBytes bs) :=
  ⟨_, by simp [quotedBytes], couldContinueWord_quoteFor (bs.map (·.toNat))⟩

/-- A constant prints as a reserved word, as a number, or with a character that stands inside no word. -/
theorem source_of_constant (c : Constant) :
    c.source false ∈ keywords ∨ Broken (c.source false) ∨ BeginsAsNumber (c.source false) := by
  cases c with
  | none => exact Or.inl (by decide)
  | bool b => exact Or.inl (by cases b <;> decide)
  | ellipsis => exact Or.inr (Or.inl ⟨'.', by decide, rfl⟩)
  | int n => exact Or.inr (Or.inr (beginsAsNumber_toString n))
  | float x =>
    refine Or.inr (Or.inr ?_)
    show BeginsAsNumber (floatSource x)
    unfold floatSource
    split
    · split
      · exact ⟨'-', _, rfl, Or.inr rfl⟩
      · exact ⟨'1', _, rfl, Or.inl rfl⟩
    · exact beginsAsNumber_writeFinite _ _
  | imaginary x =>
    refine Or.inr (Or.inr ?_)
    show BeginsAsNumber (imaginarySource x)
    unfold imaginarySource
    split
    · exact ⟨'1', _, rfl, Or.inl rfl⟩
    · exact beginsAsNumber_append (beginsAsNumber_writeFinite _ _) _
  | str s marked => exact Or.inr (Or.inl (broken_append_right _ (broken_ofList_quotedCodes _)))
  | surrogate t marked => exact Or.inr (Or.inl (broken_append_right _ (broken_ofList_quotedCodes _)))
  | bytes bs => exact Or.inr (Or.inl (broken_quotedBytes bs))

/-! ## Formatted texts -/

/-- The quotes that suit a text are no words where none of those to choose from is. -/
theorem broken_of_mem_enclosed {quotes : List String} (hq : ∀ q ∈ quotes, Broken q)
    (escapeLines : Bool) (codes : List Nat) :
    ∀ q ∈ (enclosed quotes escapeLines codes).2, Broken q := by
  unfold enclosed
  dsimp only
  split
  · intro q hmem
    rw [List.mem_singleton.1 hmem]
    have hmark : Broken ((quotedCodes codes).head?.getD '\'').toString :=
      ⟨quoteFor codes, by simp [quotedCodes], couldContinueWord_quoteFor _⟩
    cases hf : quotes.find? (·.toList.contains ((quotedCodes codes).head?.getD '\'')) with
    | none => exact hmark
    | some q' => exact hq q' (List.mem_of_find?_eq_some hf)
  · -- whichever quotes are left, and in whatever order, they are some of those that were given
    obtain ⟨left, hdef⟩ : ∃ left, left = List.filter
        (fun q => !enclosed.hasQuote q.toList (codes.flatMap (escapedCode escapeLines)))
        (if (codes.flatMap (escapedCode escapeLines)).contains '\n' then
          quotes.filter (·.length == 3) else quotes) := ⟨_, rfl⟩
    have hleft : ∀ q ∈ left, Broken q := by
      intro q hmem
      rw [hdef] at hmem
      have hmem := (List.mem_filter.1 hmem).1
      split at hmem
      · exact hq q (List.mem_filter.1 hmem).1
      · exact hq q hmem
    rw [← hdef]
    split
    · exact hleft
    · have hsorted {p p' : String → Bool} : ∀ q ∈ left.filter p ++ left.filter p', Broken q := by
        intro q hmem
        rcases List.mem_append.1 hmem with hmem | hmem
        · exact hleft q (List.mem_filter.1 hmem).1
        · exact hleft q (List.mem_filter.1 hmem).1
      split <;> exact hsorted

/-- The quotes chosen for all parts are no words. -/
theorem broken_of_choose {quotes bodies found : List String} {parts : List (List Nat × Bool)}
    {texts : List String} (hq : ∀ q ∈ quotes, Broken q)
    (h : joinedLiteral.choose quotes bodies parts = some (texts, found)) : ∀ q ∈ found, Broken q := by
  induction parts generalizing quotes bodies with
  | nil =>
    obtain ⟨_, rfl⟩ := Prod.mk.inj (Option.some.inj h)
    exact hq
  | cons part parts ih =>
    rw [joinedLiteral.choose] at h
    dsimp only at h
    split at h
    · exact ih (broken_of_mem_enclosed hq _ _) h
    · cases h

/-- A formatted text stands between quotes. -/
theorem broken_joinedLiteral (parts : List (List Nat × Bool)) : Broken (joinedLiteral parts) := by
  unfold joinedLiteral
  split
  · next texts found h =>
    have hall : ∀ q ∈ allQuotes, Broken q := by
      intro q hq
      simp only [allQuotes, List.mem_cons, List.not_mem_nil, or_false] at hq
      rcases hq with rfl | rfl | rfl | rfl
      · exact ⟨'\'', by decide, rfl⟩
      · exact ⟨'"', by decide, rfl⟩
      · exact ⟨'"', by decide, rfl⟩
      · exact ⟨'\'', by decide, rfl⟩
    have hfound := broken_of_choose hall h
    have hquote : Broken (found.head?.getD "'") := by
      cases found with
      | nil => exact ⟨'\'', by decide, rfl⟩
      | cons q found => exact hfound q List.mem_cons_self
    exact broken_append_right _ hquote
  · exact broken_append_right _ ⟨'\'', by decide, rfl⟩

/-! ## Other expressions -/

/-- What is no surrogate is shown as its character. -/
theorem mem_readableText {codes : List Nat} {n : Nat} (hn : n ∈ codes) (hplain : isSurrogate n = false) :
    Char.ofNat n ∈ (readableText codes).toList := by
  unfold readableText
  rw [String.toList_ofList, List.mem_map]
  exact ⟨n, hn, by rw [hplain]; rfl⟩

/-- Every form but a name and a constant prints a blank, a bracket or another mark of its own. -/
theorem broken_print {e : Expr} (hname : ∀ id, e ≠ .name id) (hconstant : ∀ c, e ≠ .constant c) :
    Broken e.print := by
  unfold Expr.print
  -- no induction: the mark is the form's own, whatever its parts print
  cases e with
  | constant c => exact absurd rfl (hconstant c)
  | name id => exact absurd rfl (hname id)
  | «attribute» value attr =>
    rw [Expr.printAt.eq_def]
    exact broken_append_left (broken_append_right _ ⟨'.', by simp, rfl⟩) _
  | subscript value index =>
    by_cases h : ∃ item items, index = .tuple (item :: items)
    · obtain ⟨item, items, rfl⟩ := h
      rw [Expr.printAt]
      exact ⟨'[', by simp, rfl⟩
    · rw [Expr.printAt]
      · exact ⟨'[', by simp, rfl⟩
      · exact fun item items he => h ⟨item, items, he⟩
  | call func args keywords =>
    rw [Expr.printAt]
    exact ⟨'(', by simp, rfl⟩
  | binary op left right =>
    rw [Expr.printAt]
    exact broken_parenthesizedAbove ⟨' ', by simp, rfl⟩ _ _
  | unary op operand =>
    cases op <;> rw [Expr.printAt]
    · exact broken_parenthesizedAbove ⟨'~', by simp, rfl⟩ _ _
    · exact broken_parenthesizedAbove ⟨' ', by simp, rfl⟩ _ _
    · exact broken_parenthesizedAbove ⟨'+', by simp, rfl⟩ _ _
    · exact broken_parenthesizedAbove ⟨'-', by simp, rfl⟩ _ _
  | boolean op first second rest =>
    rw [Expr.printAt]
    refine broken_parenthesizedAbove ⟨' ', ?_, rfl⟩ _ _
    rw [String.intercalate_cons_cons]
    simp
  | compare first op second rest =>
    rw [Expr.printAt]
    exact broken_parenthesizedAbove ⟨' ', by simp, rfl⟩ _ _
  | conditional test body orelse =>
    rw [Expr.printAt]
    exact broken_parenthesizedAbove ⟨' ', by simp, rfl⟩ _ _
  | lambda signature body =>
    rw [Expr.printAt]
    exact broken_parenthesizedAbove ⟨':', by simp, rfl⟩ _ _
  | tuple items =>
    rw [Expr.printAt]
    split
    · exact ⟨'(', by simp, rfl⟩
    · exact ⟨'(', by simp [parenthesizedAbove, Level.tuple, Level.test], rfl⟩
  | list items =>
    rw [Expr.printAt]
    exact ⟨'[', by simp, rfl⟩
  | set items =>
    rw [Expr.printAt]
    split <;> exact ⟨'\x7b', by simp, rfl⟩
  | dict entries =>
    rw [Expr.printAt]
    exact ⟨'\x7b', by simp, rfl⟩
  | listComp item clauses =>
    rw [Expr.printAt]
    exact ⟨'[', by simp, rfl⟩
  | setComp item clauses =>
    rw [Expr.printAt]
    exact ⟨'\x7b', by simp, rfl⟩
  | generator item clauses =>
    rw [Expr.printAt]
    exact ⟨'(', by simp, rfl⟩
  | dictComp key value clauses =>
    rw [Expr.printAt]
    exact ⟨'\x7b', by simp, rfl⟩
  | await value =>
    rw [Expr.printAt]
    exact broken_parenthesizedAbove ⟨' ', by simp, rfl⟩ _ _
  | yield value =>
    cases value <;> rw [Expr.printAt]
    · exact ⟨'(', by simp [parenthesizedAbove, Level.yield, Level.test], rfl⟩
    · exact broken_parenthesizedAbove ⟨' ', by simp, rfl⟩ _ _
  | yieldFrom value =>
    rw [Expr.printAt]
    exact broken_parenthesizedAbove ⟨' ', by simp, rfl⟩ _ _
  | named target value =>
    rw [Expr.printAt]
    exact broken_parenthesizedAbove ⟨' ', by simp, rfl⟩ _ _
  | starred value =>
    rw [Expr.printAt]
    exact ⟨'*', by simp, rfl⟩
  | slice lower upper step =>
    rw [Expr.printAt]
    exact ⟨':', by simp, rfl⟩
  | joined parts =>
    rw [Expr.printAt]
    exact broken_joinedLiteral _
  | replacement value conversion spec =>
    rw [Expr.printAt]
    refine ⟨'\x7b', ?_, rfl⟩
    exact mem_readableText (n := '\x7b'.toNat) (by simp [replacementText, codePoints]) rfl

/-- Only a name prints as an identifier that is no reserved word. -/
theorem eq_name_of_print? {e : Expr} {s : String} (h : e.print? = some s) (hs : IsPlainName s) :
    e = .name s := by
  have hprint : e.print = s := by
    unfold Expr.print? at h
    split at h
    · exact Option.some.inj h
    · cases h
  have hno (hid : isIdentifier s.toList = false) : False := by
    rw [hs.isIdentifier] at hid
    cases hid
  by_cases hname : ∃ id, e = .name id
  · obtain ⟨id, rfl⟩ := hname
    rw [← hprint]
    simp [Expr.print, Expr.printAt]
  by_cases hconstant : ∃ c, e = .constant c
  · obtain ⟨c, rfl⟩ := hconstant
    have hsource : c.source false = s := by simpa [Expr.print, Expr.printAt] using hprint
    exfalso
    rcases source_of_constant c with hk | hb | hn
    · exact hs.not_keyword (hsource ▸ hk)
    · exact hno (not_isIdentifier_of_broken (hsource ▸ hb))
    · exact hno (not_isIdentifier_of_beginsAsNumber (hsource ▸ hn))
  · exfalso
    have hb : Broken e.print := broken_print (fun id he => hname ⟨id, he⟩) fun c he => hconstant ⟨c, he⟩
    exact hno (not_isIdentifier_of_broken (hprint ▸ hb))

end RouteAtlas.Syntax
