import RouteAtlas.Proofs.Syntax.ExprWeight
import RouteAtlas.Syntax.Source

/-!
# What tokens cost against their text

Each part of the scanner takes at least as many characters as its token costs, so the tokens of a text
cost no more than its length. With `grammarPays` this bounds the weight of an expression by the length
of the text that it was read from.
-/

namespace RouteAtlas.Syntax

open RouteAtlas.Reflect RouteAtlas.Text Reading

/-! ## Numbers -/

/-- The rest of a run of digits that goes on after its first characters. -/
theorem length_le_of_map_eq_some {c : Char} {o : Option (List Char × List Char)} {n : Nat}
    {ds rest : List Char} (ho : ∀ ds rest, o = some (ds, rest) → rest.length ≤ n)
    (h : o.map (fun (ds, rest) => (c :: ds, rest)) = some (ds, rest)) : rest.length ≤ n := by
  obtain ⟨⟨more, rest'⟩, hmore, he⟩ := Option.map_eq_some_iff.1 h
  obtain ⟨_, rfl⟩ := Prod.mk.inj he
  exact ho more rest' hmore

/-- A digit is read before the rest of its run. -/
theorem moreDigits_of_digit {base : Nat} {c : Char} (hc : isDigitIn base c = true) (r : List Char) :
    moreDigits base (c :: r) = (moreDigits base r).map fun (ds, rest) => (c :: ds, rest) := by
  rw [moreDigits.eq_def]
  exact if_pos hc

/-- Reading digits adds no characters. -/
theorem moreDigits_length_le {base : Nat} {cs ds rest : List Char}
    (h : moreDigits base cs = some (ds, rest)) : rest.length ≤ cs.length := by
  induction cs using moreDigits.induct base generalizing ds rest with
  | case1 =>
    rw [moreDigits] at h
    obtain ⟨rfl, rfl⟩ := Prod.mk.inj (Option.some.inj h)
    exact Nat.le_refl _
  | case2 d r hd ih =>
    rw [moreDigits_of_digit hd] at h
    have := length_le_of_map_eq_some (fun _ _ => ih) h
    simp only [List.length_cons]
    omega
  | case3 d hd hu =>
    rw [moreDigits, if_neg hd, if_pos hu] at h
    cases h
  | case4 d hd hu d' r hd' ih =>
    rw [moreDigits, if_neg hd, if_pos hu] at h
    simp only [hd', if_true] at h
    have := length_le_of_map_eq_some (fun _ _ => ih) h
    simp only [List.length_cons]
    omega
  | case5 d hd hu d' r hd' =>
    rw [moreDigits, if_neg hd, if_pos hu] at h
    simp [hd'] at h
  | case6 d r hd hu =>
    rw [moreDigits.eq_def] at h
    simp only [if_neg hd, if_neg hu] at h
    obtain ⟨rfl, rfl⟩ := Prod.mk.inj (Option.some.inj h)
    exact Nat.le_refl _

/-- Reading a run of digits adds no characters. -/
theorem digitRun_length_le {base : Nat} {cs ds rest : List Char}
    (h : digitRun base cs = some (ds, rest)) : rest.length ≤ cs.length := by
  unfold digitRun at h
  split at h
  · exact moreDigits_length_le h
  · obtain ⟨rfl, rfl⟩ : [] = ds ∧ cs = rest := by simpa using h
    exact Nat.le_refl _

/-- A run that begins with a digit takes it. -/
theorem digitRun_length_lt {base : Nat} {c : Char} {r ds rest : List Char}
    (hc : isDigitIn base c = true) (h : digitRun base (c :: r) = some (ds, rest)) :
    rest.length < (c :: r).length := by
  simp only [digitRun, List.head?_cons, Option.any_some, hc, if_true] at h
  rw [moreDigits_of_digit hc] at h
  have := length_le_of_map_eq_some (fun _ _ => moreDigits_length_le) h
  simp only [List.length_cons]
  omega

/-- A decimal digit is one in base ten. -/
theorem isDigitIn_of_isAsciiDigit {c : Char} (h : isAsciiDigit c = true) : isDigitIn 10 c = true := by
  have hc : '0' ≤ c ∧ c ≤ '9' := by simpa [isAsciiDigit] using h
  have hn : c.toNat - 48 < 10 := by
    have : c.toNat ≤ 57 := hc.2
    omega
  simp [isDigitIn, digit?, alphanumericValue, hc, Option.filter, hn]

/-- Reading a sign adds no characters. -/
theorem cutSign_length_le (cs : List Char) : (cutSign cs).2.length ≤ cs.length := by
  unfold cutSign
  split <;> simp

/-- Reading an exponent adds no characters. -/
theorem exponentPart_length_le {cs rest : List Char} {power : Option Int}
    (h : exponentPart cs = some (power, rest)) : rest.length ≤ cs.length := by
  have hnone : ∀ ds : List Char, some ((none : Option Int), ds) = some (power, rest) →
      rest.length ≤ ds.length := by
    intro ds he
    obtain ⟨_, rfl⟩ := Prod.mk.inj (Option.some.inj he)
    exact Nat.le_refl _
  unfold exponentPart at h
  split at h
  · next e r =>
    dsimp only at h
    split at h
    · split at h
      · obtain ⟨⟨ds, rest'⟩, hrun, he⟩ := Option.map_eq_some_iff.1 h
        obtain ⟨_, rfl⟩ := Prod.mk.inj he
        have := digitRun_length_le hrun
        have := cutSign_length_le r
        simp only [List.length_cons]
        omega
      · split at h
        · cases h
        · exact hnone _ h
    · exact hnone _ h
  · exact hnone _ h

/-- What a number token holds is a number. -/
def Constant.IsNumber (c : Constant) : Prop :=
  (∃ n, c = .int n) ∨ (∃ x, c = .float x) ∨ ∃ x, c = .imaginary x

/-- A number weighs one. -/
theorem weight_of_isNumber {c : Constant} (h : c.IsNumber) : weight (.constant c) = 1 := by
  rcases h with ⟨n, rfl⟩ | ⟨x, rfl⟩ | ⟨x, rfl⟩ <;> rfl

/-- The end of a number changes nothing. -/
theorem endNumber_eq_some {c d : Constant} {cs rest : List Char}
    (h : endNumber c cs = some (d, rest)) : c = d ∧ cs = rest := by
  unfold endNumber at h
  split at h
  · simpa using h
  · cases h

/-- A whole number is a number and leaves the rest. -/
theorem wholeNumber_eq_some {whole cs rest : List Char} {c : Constant}
    (h : afterWhole.wholeNumber whole cs = some (c, rest)) : c.IsNumber ∧ cs = rest := by
  unfold afterWhole.wholeNumber at h
  split at h
  · cases h
  split at h
  · cases h
  obtain ⟨rfl, rfl⟩ := endNumber_eq_some h
  exact ⟨Or.inl ⟨_, rfl⟩, rfl⟩

/-- After its whole part a number takes what it takes; a point is taken in any case. -/
theorem afterWhole_eq_some {whole cs rest : List Char} {c : Constant}
    (h : afterWhole whole cs = some (c, rest)) :
    c.IsNumber ∧ rest.length ≤ cs.length ∧ (cs.head? = some '.' → rest.length < cs.length) := by
  unfold afterWhole at h
  dsimp only at h
  split at h
  · cases h
  next fraction r hfraction =>
  have hr : r.length ≤ cs.length ∧ (cs.head? = some '.' → r.length < cs.length) := by
    by_cases hp : cs.head? = some '.'
    · have hpos : 0 < cs.length := by
        cases cs with
        | nil => cases hp
        | cons c cs => exact Nat.succ_pos _
      have hdrop : r.length ≤ (cs.drop 1).length := by
        simp only [hp, if_true] at hfraction
        split at hfraction
        · exact digitRun_length_le hfraction
        · exact Nat.le_of_eq (congrArg List.length (Prod.mk.inj (Option.some.inj hfraction)).2.symm)
      rw [List.length_drop] at hdrop
      omega
    · simp only [hp] at hfraction
      obtain ⟨_, rfl⟩ := Prod.mk.inj (Option.some.inj hfraction)
      exact ⟨Nat.le_refl _, fun h => absurd h hp⟩
  split at h
  · cases h
  next power r' hpower =>
  have := exponentPart_length_le hpower
  -- in every case below the number ends at `r'` or, after the mark of an imaginary one, behind it
  suffices hend : c.IsNumber ∧ rest.length ≤ r'.length from
    ⟨hend.1, by omega, fun hp => by have := hr.2 hp; omega⟩
  split at h
  · next j t =>
    split at h
    · obtain ⟨rfl, rfl⟩ := endNumber_eq_some h
      exact ⟨Or.inr (Or.inr ⟨_, rfl⟩), by simp⟩
    split at h
    · obtain ⟨rfl, rfl⟩ := endNumber_eq_some h
      exact ⟨Or.inr (Or.inl ⟨_, rfl⟩), Nat.le_refl _⟩
    · obtain ⟨hc, rfl⟩ := wholeNumber_eq_some h
      exact ⟨hc, Nat.le_refl _⟩
  · split at h
    · obtain ⟨rfl, rfl⟩ := endNumber_eq_some h
      exact ⟨Or.inr (Or.inl ⟨_, rfl⟩), Nat.le_refl _⟩
    · obtain ⟨hc, rfl⟩ := wholeNumber_eq_some h
      exact ⟨hc, Nat.le_refl _⟩

/-- A number in another base is a number and adds no characters. -/
theorem basedNumber_eq_some {base : Nat} {cs rest : List Char} {c : Constant}
    (h : basedNumber base cs = some (c, rest)) : c.IsNumber ∧ rest.length ≤ cs.length := by
  unfold basedNumber at h
  dsimp only at h
  split at h
  · next ds r hrun =>
    split at h
    · cases h
    obtain ⟨rfl, rfl⟩ := endNumber_eq_some h
    have := digitRun_length_le hrun
    refine ⟨Or.inl ⟨_, rfl⟩, ?_⟩
    split at this
    · simp only [List.length_cons]
      omega
    · exact this
  · cases h

/-- A number takes at least one character. -/
theorem numberAt_eq_some {c : Char} {r rest : List Char} {n : Constant}
    (hc : isAsciiDigit c = true ∨ c = '.') (h : numberAt (c :: r) = some (n, rest)) :
    n.IsNumber ∧ rest.length < (c :: r).length := by
  have hdecimal (hd : numberAt.decimal (c :: r) = some (n, rest)) :
      n.IsNumber ∧ rest.length < (c :: r).length := by
    unfold numberAt.decimal at hd
    split at hd
    · cases hd
    next whole between hrun =>
    obtain ⟨hn, hle, hlt⟩ := afterWhole_eq_some hd
    refine ⟨hn, ?_⟩
    rcases hc with hc | rfl
    · have := digitRun_length_lt (isDigitIn_of_isAsciiDigit hc) hrun
      omega
    · obtain ⟨_, rfl⟩ : [] = whole ∧ '.' :: r = between := by
        simpa [digitRun, show isDigitIn 10 '.' = false from rfl] using hrun
      exact hlt rfl
  unfold numberAt at h
  split at h
  · next x r' he =>
    have hbased {base : Nat} (hb : basedNumber base r' = some (n, rest)) :
        n.IsNumber ∧ rest.length < (c :: r).length := by
      obtain ⟨hn, hle⟩ := basedNumber_eq_some hb
      refine ⟨hn, ?_⟩
      rw [he]
      simp only [List.length_cons]
      omega
    split at h
    · exact hbased h
    split at h
    · exact hbased h
    split at h
    · exact hbased h
    · exact hdecimal h
  · exact hdecimal h

/-! ## Texts, words and marks -/

/-- The body of a text and its quotes come out of the characters. -/
theorem textBody_length_le {quote : Char} {long : Bool} {done cs body rest : List Char}
    (h : textBody quote long done cs = some (body, rest)) :
    body.length + (if long then 3 else 1) + rest.length ≤ done.length + cs.length := by
  fun_induction textBody quote long done cs with
  | case1 done => cases h
  | case2 done c r ih =>
    have := ih h
    simp only [List.length_cons] at *
    omega
  | case3 done c hc hl d e t hde hne =>
    obtain ⟨rfl, rfl⟩ := Prod.mk.inj (Option.some.inj h)
    simp only [hl, if_true, List.length_reverse, List.length_cons]
    omega
  | case4 done c hc hl d e t hde hne ih =>
    have := ih h
    simp only [List.length_cons] at *
    omega
  | case5 done c r hne hc hl hr => cases h
  | case6 done c r hne hc hl =>
    obtain ⟨rfl, rfl⟩ := Prod.mk.inj (Option.some.inj h)
    simp only [hl, Bool.false_eq_true, if_false, List.length_reverse, List.length_cons]
    omega
  | case7 done c r hne hc hline => cases h
  | case8 done c r hne hc hline ih =>
    have := ih h
    simp only [List.length_cons] at *
    omega

/-- A literal takes its inside and its quotes. -/
theorem textAt_eq_some {letters cs rest : List Char} {literal : TextLiteral}
    (h : textAt letters cs = some (literal, rest)) :
    literal.body.length + 2 + rest.length ≤ cs.length := by
  unfold textAt at h
  split at h
  · next q r =>
    dsimp only at h
    obtain ⟨⟨body, rest'⟩, hbody, he⟩ := Option.map_eq_some_iff.1 h
    obtain ⟨rfl, rfl⟩ := Prod.mk.inj he
    simp only [List.length_cons]
    split at hbody
    · have := textBody_length_le hbody
      simp only [if_true, List.length_nil, List.length_drop] at this
      omega
    · have := textBody_length_le hbody
      simp only [Bool.false_eq_true, if_false, List.length_nil] at this
      omega
  · cases h

/-- A word takes at least one character, and with the literal it marks what that costs. -/
theorem wordAt_eq_some {c : Char} {r rest : List Char} {t : Token} (hc : couldContinueWord c = true)
    (h : wordAt (c :: r) = some (t, rest)) : t.cost + rest.length ≤ (c :: r).length := by
  have hword : ((c :: r).takeWhile couldContinueWord).length ≤ (c :: r).length :=
    (List.takeWhile_prefix couldContinueWord).length_le
  have hpos : 0 < ((c :: r).takeWhile couldContinueWord).length := by
    simp [hc]
  unfold wordAt at h
  dsimp only at h
  split at h
  · obtain ⟨⟨literal, rest'⟩, hliteral, he⟩ := Option.map_eq_some_iff.1 h
    obtain ⟨rfl, rfl⟩ := Prod.mk.inj he
    have := textAt_eq_some hliteral
    rw [List.length_drop] at this
    simp only [Token.cost]
    omega
  have hone {u : Token} (hu : u.cost = 1)
      (he : some (u, (c :: r).drop ((c :: r).takeWhile couldContinueWord).length) = some (t, rest)) :
      t.cost + rest.length ≤ (c :: r).length := by
    obtain ⟨rfl, rfl⟩ := Prod.mk.inj (Option.some.inj he)
    rw [List.length_drop]
    omega
  split at h
  · exact hone rfl h
  split at h
  · exact hone rfl h
  · cases h

/-- A mark takes characters. -/
theorem markAt?_eq_some {cs rest : List Char} {symbol : String}
    (h : markAt? cs = some (symbol, rest)) : rest.length < cs.length := by
  have hlong : ∀ m ∈ longMarks, 0 < m.length := by decide
  unfold markAt? at h
  split at h
  · next m hm =>
    obtain ⟨rfl, rfl⟩ := Prod.mk.inj (Option.some.inj h)
    have := hlong m (List.mem_of_find?_eq_some hm)
    have hfound : m.toList.isPrefixOf cs = true := by simpa using List.find?_some hm
    have hpre : m.toList <+: cs := List.isPrefixOf_iff_prefix.1 hfound
    have := hpre.length_le
    rw [List.length_drop]
    simp only [String.length_toList] at *
    omega
  · split at h
    · split at h
      · obtain ⟨_, rfl⟩ := Prod.mk.inj (Option.some.inj h)
        simp
      · cases h
    · cases h

/-! ## The scanner -/

/-- Continuing a line adds no characters. -/
theorem continuedLine_length_le {cs rest : List Char} (h : continuedLine cs = some rest) :
    rest.length ≤ cs.length := by
  unfold continuedLine at h
  split at h
  · rw [← Option.some.inj h]
    simp
  · cases h

/-- Reading an indentation adds no characters. -/
theorem indentation_length_le {fuel column alternate settled column' alternate' : Nat}
    {cs rest : List Char}
    (h : indentation fuel column alternate settled cs = some (column', alternate', rest)) :
    rest.length ≤ cs.length := by
  induction fuel generalizing column alternate settled cs with
  | zero => cases h
  | succ fuel ih =>
    rw [indentation.eq_def] at h
    dsimp only at h
    split at h
    · have := ih h
      simp only [List.length_cons]
      omega
    · have := ih h
      simp only [List.length_cons]
      omega
    · have := ih h
      simp only [List.length_cons]
      omega
    · split at h
      · cases h
      · next r hr =>
        have := ih h
        have := continuedLine_length_le hr
        simp only [List.length_cons]
        omega
    · split at h
      · obtain ⟨_, _, rfl⟩ : _ ∧ _ ∧ cs = rest := by simpa using h
        exact Nat.le_refl _
      · obtain ⟨_, _, rfl⟩ : _ ∧ _ ∧ cs = rest := by simpa using h
        exact Nat.le_refl _

/-- The signs of the line structure cost nothing. -/
theorem cost_of_blockTokens {column alternate : Nat} {indents indents' : List (Nat × Nat)}
    {tokens : List Token} (h : blockTokens column alternate indents = some (tokens, indents')) :
    cost tokens = 0 := by
  unfold blockTokens at h
  dsimp only at h
  have hcost {us : List Token} {js : List (Nat × Nat)} (hus : cost us = 0)
      (he : some (us, js) = some (tokens, indents')) : cost tokens = 0 := by
    obtain ⟨rfl, _⟩ := Prod.mk.inj (Option.some.inj he)
    exact hus
  split at h
  · split at h
    · exact hcost rfl h
    · cases h
  split at h
  · split at h
    · cases h
    · exact hcost rfl h
  split at h
  · exact hcost (by simp [cost, Token.cost]) h
  · cases h

/-- With this fuel, scanning adds no more to the cost of the tokens than there are characters. -/
def ScanPays (fuel : Nat) : Prop :=
  ∀ (st : ScanState) (done tokens : List Token) (cs : List Char),
    scanFrom fuel st done cs = some tokens → cost tokens ≤ cost done + cs.length

section Scanner

variable {fuel : Nat} {st : ScanState} {done tokens : List Token} {cs : List Char}

/-- Dropping characters adds none. -/
theorem length_dropWhile_le (p : Char → Bool) (cs : List Char) :
    (cs.dropWhile p).length ≤ cs.length := (List.dropWhile_suffix p).length_le

/-- A token that costs no more than the characters it takes keeps the bound. -/
theorem ScanPays.token (ih : ScanPays fuel) {t : Token} {rest : List Char}
    (ht : t.cost + rest.length ≤ cs.length) (h : scanFrom fuel st (t :: done) rest = some tokens) :
    cost tokens ≤ cost done + cs.length := by
  have := ih _ _ _ _ h
  rw [cost_cons] at this
  omega

/-- At the start of a line only blanks are taken, and the signs of the line structure cost nothing. -/
theorem ScanPays.lineStart (ih : ScanPays fuel) (hst : st.lineStart = true)
    (h : scanFrom (fuel + 1) st done cs = some tokens) : cost tokens ≤ cost done + cs.length := by
  rw [scanFrom.eq_def] at h
  dsimp only at h
  rw [if_pos hst] at h
  split at h
  · cases h
  next column alternate r hindent =>
  have hr := indentation_length_le hindent
  split at h
  · have := ih _ _ _ _ h
    simp only [List.length_cons] at hr
    omega
  · next r =>
    have := ih _ _ _ _ h
    have := length_dropWhile_le (· != '\n') r
    simp only [List.length_cons, List.length_drop] at *
    omega
  · split at h
    · have := ih _ _ _ _ h
      omega
    · split at h
      · cases h
      next blocks indents hblocks =>
      have := ih _ _ _ _ h
      rw [cost_append, cost_reverse, cost_of_blockTokens hblocks] at this
      omega

/-- Inside a line every token takes at least the characters that it costs. -/
theorem ScanPays.inLine (ih : ScanPays fuel) (hst : st.lineStart = false)
    (h : scanFrom (fuel + 1) st done cs = some tokens) : cost tokens ≤ cost done + cs.length := by
  rw [scanFrom.eq_def] at h
  dsimp only at h
  rw [if_neg (by simp [hst])] at h
  split at h
  · split at h
    · rw [← Option.some.inj h, cost_reverse]
      omega
    · cases h
  · next r =>
    have := ih _ _ _ _ h
    have : cost (if st.brackets.isEmpty then .newline :: done else done) = cost done := by
      split
      · simp [Token.cost]
      · rfl
    simp only [List.length_cons]
    omega
  · next r =>
    have := ih _ _ _ _ h
    have := length_dropWhile_le (· != '\n') r
    simp only [List.length_cons]
    omega
  · split at h
    · cases h
    next r' hr =>
    have := ih _ _ _ _ h
    have := continuedLine_length_le hr
    simp only [List.length_cons]
    omega
  · next c r _ _ _ =>
    split at h
    · have := ih _ _ _ _ h
      simp only [List.length_cons]
      omega
    -- from here on one token is read: a number, a text, a word or a mark
    split at h
    · next hc =>
      split at h
      · cases h
      next n rest hn =>
      have hc : isAsciiDigit c = true ∨ c = '.' := by
        rcases Bool.or_eq_true_iff.1 hc with hc | hc
        · exact Or.inl hc
        · exact Or.inr (by simpa using (Bool.and_eq_true_iff.1 hc).1)
      obtain ⟨hnumber, hlt⟩ := numberAt_eq_some hc hn
      refine ih.token ?_ h
      rw [Token.cost, weight_of_isNumber hnumber]
      omega
    split at h
    · split at h
      · cases h
      next literal rest hliteral =>
      have hle : (Token.text literal).cost + rest.length ≤ (c :: r).length := textAt_eq_some hliteral
      exact ih.token hle h
    split at h
    · next hc =>
      split at h
      · cases h
      next t rest hword => exact ih.token (wordAt_eq_some hc hword) h
    · split at h
      · cases h
      next symbol rest hmark =>
      split at h
      · cases h
      have := markAt?_eq_some hmark
      refine ih.token ?_ h
      rw [Token.cost]
      omega

end Scanner

/-- Every number of steps pays for the tokens that it gives. -/
theorem scanPays (fuel : Nat) : ScanPays fuel := by
  induction fuel with
  | zero =>
    intro st done tokens cs h
    cases h
  | succ fuel ih =>
    intro st done tokens cs h
    cases hst : st.lineStart with
    | true => exact ih.lineStart hst h
    | false => exact ih.inLine hst h

/-- The tokens of a text cost no more than its length. -/
theorem cost_scan_le {cs : List Char} {tokens : List Token} (h : Token.scan cs = some tokens) :
    cost tokens ≤ cs.length := by
  have := scanPays _ _ _ _ _ h
  rw [cost_nil] at this
  omega

/-- The lines of a source add no characters. -/
theorem sourceLines_length_le (cs : List Char) : (sourceLines cs).length ≤ cs.length := by
  fun_induction sourceLines cs with
  | case1 r ih =>
    simp only [List.length_cons]
    omega
  | case2 r hne ih =>
    simp only [List.length_cons]
    omega
  | case3 c r hne hne' ih =>
    simp only [List.length_cons]
    omega
  | case4 => exact Nat.le_refl _

/-- An expression pays for its weight with the tokens of its text. -/
theorem pays_expressionGrammar (fuel : Nat) : Pays (expressionGrammar fuel) weight := by
  refine (pays_commaList_tupleOf (grammarPays fuel).expression).bind fun r => pays_left.bind fun n => ?_
  have hnewline : Pays (expect .newline) fun _ => 0 := pays_expect fun _ _ => Nat.zero_le _
  exact (pays_many hnewline n).bind fun _ => .pure _ (by omega)

/-- An expression weighs no more than the length of the text that it was read from. -/
theorem weight_le_of_readExpr {s : String} {e : Expr} (h : readExpr s = .ok e) :
    weight e ≤ s.length := by
  unfold readExpr readSource at h
  split at h
  · cases h
  split at h
  · cases h
  next tokens hscan =>
  unfold readAll at h
  split at h
  · next a hrun =>
    obtain rfl : a = e := by simpa using h
    have := pays_expressionGrammar _ tokens a [] hrun
    have := cost_scan_le hscan
    have := sourceLines_length_le s.toList
    rw [cost_nil] at *
    rw [String.length_toList] at *
    omega
  · cases h

end RouteAtlas.Syntax
