import RouteAtlas.Proofs.Syntax.QuotedText

/-!
# Printed numbers read back

An integer of few enough digits is printed as digits that spell it (`spellsNumber_toString`). A float is
printed with the shortest digits that tell it apart, and the text is read as the double nearest to the
decimal that these digits write (`literalValue?_writeFinite`).
-/

namespace RouteAtlas.Syntax

open RouteAtlas.Text RouteAtlas.Number

variable {ds rest : List Char}

/-! ## Runs of digits -/

/-- All characters are decimal digits. -/
def AreDigits (ds : List Char) : Prop := ∀ c ∈ ds, isAsciiDigit c = true

/-- What may follow the digits of a printed number: nothing, a point or an exponent. -/
def EndsDigits (rest : List Char) : Prop := ∀ c ∈ rest.head?, c = '.' ∨ c = 'e'

/-- Digits end with the text. -/
theorem endsDigits_nil : EndsDigits [] := nofun

/-- No digits are read where they end. -/
theorem moreDigits_of_endsDigits (hrest : EndsDigits rest) : moreDigits 10 rest = some ([], rest) := by
  cases rest with
  | nil => rw [moreDigits.eq_def]
  | cons c r =>
    rw [moreDigits.eq_def]
    rcases hrest c rfl with rfl | rfl <;> rfl

/-- Digits are read up to where they end. -/
theorem moreDigits_digits (hds : AreDigits ds) (hrest : EndsDigits rest) :
    moreDigits 10 (ds ++ rest) = some (ds, rest) := by
  induction ds with
  | nil => exact moreDigits_of_endsDigits hrest
  | cons c ds ih =>
    obtain ⟨hc, hds⟩ := List.forall_mem_cons.1 hds
    rw [List.cons_append, moreDigits_of_digit (isDigitIn_of_isAsciiDigit hc), ih hds]
    rfl

/-- A run of digits is read up to where it ends. -/
theorem digitRun_digits (hds : AreDigits ds) (hrest : EndsDigits rest) :
    digitRun 10 (ds ++ rest) = some (ds, rest) := by
  unfold digitRun
  split
  · exact moreDigits_digits hds hrest
  · next h =>
    cases ds with
    | nil => rfl
    | cons c ds => simp [isDigitIn_of_isAsciiDigit (hds c List.mem_cons_self)] at h

/-- A text that begins with decimal digits is a number in base ten. -/
theorem numberAt_digits (hne : ds ≠ []) (hds : AreDigits ds) (hrest : EndsDigits rest) :
    numberAt (ds ++ rest) = afterWhole ds rest := by
  have hdecimal : numberAt.decimal (ds ++ rest) = afterWhole ds rest := by
    rw [numberAt.decimal, digitRun_digits hds hrest]
  -- the second character is a digit, a point or the letter of an exponent
  have hsecond {c x : Char} {r : List Char} (he : ds ++ rest = c :: x :: r) :
      isAsciiDigit x = true ∨ x = '.' ∨ x = 'e' := by
    cases ds with
    | nil => exact absurd rfl hne
    | cons d ds =>
      rw [List.cons_append] at he
      have he : ds ++ rest = x :: r := (List.cons.inj he).2
      cases ds with
      | nil => exact .inr (hrest x (by simp [show rest = x :: r from he]))
      | cons d' ds => exact .inl (hds x (by simp [← (List.cons.inj he).1]))
  unfold numberAt
  split
  · next x r he =>
    have hx {y : Char} (hdigit : isAsciiDigit y = false) (hpoint : y ≠ '.') (he' : y ≠ 'e') :
        (x == y) = false := by
      refine beq_eq_false_iff_ne.2 ?_
      rintro rfl
      rcases hsecond he with h | h | h
      · rw [hdigit] at h
        cases h
      · exact hpoint h
      · exact he' h
    rw [hx rfl (by decide) (by decide), hx rfl (by decide) (by decide),
      hx rfl (by decide) (by decide), hx rfl (by decide) (by decide), hx rfl (by decide) (by decide),
      hx rfl (by decide) (by decide)]
    exact hdecimal
  · exact hdecimal

/-! ## What follows the whole part -/

/-- The digits of a number are read as the number. -/
theorem wholeNumber_toDigits {n : Nat} (h : (Nat.toDigits 10 n).length ≤ maxDecimalDigits) :
    afterWhole (Nat.toDigits 10 n) [] = some (.int n, []) := by
  have hzeros : ((Nat.toDigits 10 n).head? = some '0' && (Nat.toDigits 10 n).any (· != '0')) = false := by
    rcases Nat.eq_zero_or_pos n with rfl | hn
    · rfl
    · rw [decide_eq_false (head?_toDigits_ne_zero (by decide) (by decide) hn), Bool.false_and]
  have hlong : (decide (maxDecimalDigits < (Nat.toDigits 10 n).length) &&
      (Nat.toDigits 10 n).any (· != '0')) = false := by
    rw [decide_eq_false (show ¬ maxDecimalDigits < _ from Nat.not_lt.2 h), Bool.false_and]
  show afterWhole.wholeNumber (Nat.toDigits 10 n) [] = _
  rw [afterWhole.wholeNumber, hlong, hzeros, ofDigits_toDigits (by decide) (by decide)]
  rfl

/-- An exponent is read with its sign. -/
theorem exponentPart_digits {sign : Char} (hsign : sign = '+' ∨ sign = '-') (hne : ds ≠ [])
    (hds : AreDigits ds) : exponentPart ('e' :: sign :: ds) =
      some (some (if sign = '-' then -(ofDigits 10 ds : Int) else ofDigits 10 ds), []) := by
  have hhead : ds.head?.any isAsciiDigit = true := by
    cases ds with
    | nil => exact absurd rfl hne
    | cons c r => exact hds c List.mem_cons_self
  have hrun : digitRun 10 ds = some (ds, []) := by
    simpa using digitRun_digits hds endsDigits_nil
  unfold exponentPart
  rcases hsign with rfl | rfl <;> simp [cutSign, hhead, hrun]

/-- Digits with a point are read as a float. -/
theorem afterWhole_pointed {whole fraction tail : List Char} {power : Option Int} (hne : fraction ≠ [])
    (hfraction : AreDigits fraction) (htail : EndsDigits tail)
    (hpower : exponentPart tail = some (power, [])) :
    afterWhole whole ('.' :: (fraction ++ tail)) =
      some (.float (Decimal.toFloat
        ⟨ofDigits 10 (whole ++ fraction), power.getD 0 - fraction.length⟩), []) := by
  have hhead : (fraction ++ tail).head?.any isAsciiDigit = true := by
    cases fraction with
    | nil => exact absurd rfl hne
    | cons c r => exact hfraction c List.mem_cons_self
  unfold afterWhole
  simp only [List.head?_cons, if_true, List.drop_succ_cons, List.drop_zero, hhead,
    digitRun_digits hfraction htail, hpower]
  rfl

/-- Digits with an exponent are read as a float. -/
theorem afterWhole_power {whole tail : List Char} {power : Int} (hpoint : tail.head? ≠ some '.')
    (hpower : exponentPart tail = some (some power, [])) :
    afterWhole whole tail = some (.float (Decimal.toFloat ⟨ofDigits 10 whole, power⟩), []) := by
  unfold afterWhole
  simp only [hpoint, if_false, hpower, Option.isSome_some, Bool.or_true, if_true, List.append_nil,
    List.length_nil, Option.getD_some, Int.natCast_zero, Int.sub_zero]
  rfl

/-! ## Floats -/

/-- The decimal as a text without exponent writes it: a whole number of up to sixteen digits has a zero
behind its point. -/
def writtenOut (d : Decimal) : Decimal :=
  if 0 ≤ d.exponent ∧ d.exponent + Decimal.digitCount d.coefficient ≤ 16 then
    ⟨d.coefficient * Nat.pow 10 (d.exponent.toNat + 1), -1⟩
  else d

/-- The text of an exponent. -/
def exponentText (power : Int) : List Char :=
  'e' :: (if power < 0 then '-' else '+') :: paddedText 2 power.natAbs

/-- The digits of a number are digits. -/
theorem areDigits_toDigits (n : Nat) : AreDigits (Nat.toDigits 10 n) :=
  fun _ hc => isAsciiDigit_of_mem_toDigits hc

/-- Zeros are digits. -/
theorem areDigits_zeros (k : Nat) : AreDigits (List.replicate k '0') := fun c hc => by
  rw [List.eq_of_mem_replicate hc]
  rfl

/-- Digits behind digits are digits. -/
theorem AreDigits.append {ds' : List Char} (h : AreDigits ds) (h' : AreDigits ds') :
    AreDigits (ds ++ ds') := List.forall_mem_append.2 ⟨h, h'⟩

/-- The first of some digits are digits. -/
theorem AreDigits.take (h : AreDigits ds) (n : Nat) : AreDigits (ds.take n) :=
  fun c hc => h c (List.mem_of_mem_take hc)

/-- The last of some digits are digits. -/
theorem AreDigits.drop (h : AreDigits ds) (n : Nat) : AreDigits (ds.drop n) :=
  fun c hc => h c (List.mem_of_mem_drop hc)

/-- Digits end before an exponent. -/
theorem endsDigits_exponentText (power : Int) : EndsDigits (exponentText power) := by
  rintro c ⟨⟩
  exact .inr rfl

/-- A written exponent is read back. -/
theorem exponentPart_exponentText (power : Int) :
    exponentPart (exponentText power) = some (some power, []) := by
  have hne : paddedText 2 power.natAbs ≠ [] := by simp [paddedText, Nat.toDigits_ne_nil]
  have hds : AreDigits (paddedText 2 power.natAbs) := (areDigits_zeros _).append (areDigits_toDigits _)
  have hvalue : ofDigits 10 (paddedText 2 power.natAbs) = power.natAbs := by
    rw [paddedText, ofDigits_zeros_append, ofDigits_toDigits (by decide) (by decide)]
  unfold exponentText
  by_cases hpower : power < 0
  · rw [if_pos hpower, exponentPart_digits (.inr rfl) hne hds, hvalue, if_pos rfl,
      Int.ofNat_natAbs_of_nonpos (Int.le_of_lt hpower), Int.neg_neg]
  · rw [if_neg hpower, exponentPart_digits (.inl rfl) hne hds, hvalue, if_neg (by decide),
      Int.natAbs_of_nonneg (Int.not_lt.1 hpower)]

/-- Digits around a point, possibly before an exponent. -/
theorem numberAt_pointed {whole fraction tail : List Char} {power : Option Int} (hwhole : whole ≠ [])
    (hdigits : AreDigits (whole ++ fraction)) (hne : fraction ≠ []) (htail : EndsDigits tail)
    (hpower : exponentPart tail = some (power, [])) :
    numberAt (whole ++ '.' :: (fraction ++ tail)) =
      some (.float (Decimal.toFloat
        ⟨ofDigits 10 (whole ++ fraction), power.getD 0 - fraction.length⟩), []) := by
  obtain ⟨hds, hfraction⟩ := List.forall_mem_append.1 hdigits
  have hpoint : EndsDigits ('.' :: (fraction ++ tail)) := by
    rintro c ⟨⟩
    exact .inl rfl
  rw [numberAt_digits hwhole hds hpoint]
  exact afterWhole_pointed hne hfraction htail hpower

/-! ### The four ways of writing digits -/

/-- A small number of digits is written without an exponent. -/
theorem isPlain_ofNat {l : Nat} (hl : l < 16) : -4 ≤ Int.ofNat l ∧ Int.ofNat l < 16 := by
  rw [Int.ofNat_eq_natCast]
  omega

/-- Digits of a whole number have zeros up to the point and one behind it. -/
theorem numberAt_ofDigits_whole (hne : ds ≠ []) (hds : AreDigits ds) {l : Nat} (hl : l < 16)
    (hshort : ds.length ≤ l + 1) :
    numberAt (FloatText.plain.ofDigits ds l) =
      some (.float (Decimal.toFloat ⟨ofDigits 10 ds * Nat.pow 10 (l + 1 - ds.length + 1), -1⟩), []) := by
  have hdigits : AreDigits ((ds ++ List.replicate (l + 1 - ds.length) '0') ++ ['0']) :=
    (hds.append (areDigits_zeros _)).append (areDigits_zeros 1)
  have hread := numberAt_pointed (by simp [hne]) hdigits (by simp) endsDigits_nil rfl
  have hspelt : ofDigits 10 ((ds ++ List.replicate (l + 1 - ds.length) '0') ++ ['0']) =
      ofDigits 10 ds * Nat.pow 10 (l + 1 - ds.length + 1) := by
    rw [List.append_assoc, ← List.replicate_succ', ofDigits_append_zeros]
  rw [hspelt] at hread
  show numberAt (FloatText.plain.ofDigits ds (Int.ofNat l)) = _
  rw [FloatText.ofDigits.eq_def, if_pos (isPlain_ofNat hl)]
  simpa [List.take_of_length_le hshort, List.drop_eq_nil_of_le hshort, FloatText.plain] using hread

/-- The point stands between digits. -/
theorem numberAt_ofDigits_between (hds : AreDigits ds) {l : Nat} (hl : l < 16)
    (hlong : l + 1 < ds.length) :
    numberAt (FloatText.plain.ofDigits ds l) =
      some (.float (Decimal.toFloat ⟨ofDigits 10 ds, l + 1 - ds.length⟩), []) := by
  have htake : (ds.take (l + 1)).length = l + 1 := List.length_take_of_le (by omega)
  have hwhole : ds.take (l + 1) ≠ [] := List.ne_nil_of_length_pos (by omega)
  have hdrop : ds.drop (l + 1) ≠ [] := by simpa using hlong
  have hread := numberAt_pointed hwhole (by rwa [List.take_append_drop]) hdrop endsDigits_nil rfl
  have hpower : (0 : Int) - (ds.drop (l + 1)).length = l + 1 - ds.length := by
    rw [List.length_drop]
    omega
  rw [List.take_append_drop, Option.getD_none, hpower, List.append_nil] at hread
  show numberAt (FloatText.plain.ofDigits ds (Int.ofNat l)) = _
  rw [FloatText.ofDigits.eq_def, if_pos (isPlain_ofNat hl)]
  dsimp only
  rw [htake, Nat.sub_self, List.replicate_zero, List.append_nil, if_neg (by simpa using hdrop)]
  exact hread

/-- Zeros stand between the point and the digits. -/
theorem numberAt_ofDigits_below (hne : ds ≠ []) (hds : AreDigits ds) {l : Nat} (hl : l < 4) :
    numberAt (FloatText.plain.ofDigits ds (.negSucc l)) =
      some (.float (Decimal.toFloat ⟨ofDigits 10 ds, -(l + ds.length)⟩), []) := by
  have hdigits : AreDigits (['0'] ++ (List.replicate l '0' ++ ds)) :=
    (areDigits_zeros 1).append ((areDigits_zeros l).append hds)
  have hread := numberAt_pointed (by simp) hdigits (by simp [hne]) endsDigits_nil rfl
  have hpower : (0 : Int) - (List.replicate l '0' ++ ds).length = -(l + ds.length) := by
    rw [List.length_append, List.length_replicate]
    omega
  have hspelt : ofDigits 10 (['0'] ++ (List.replicate l '0' ++ ds)) = ofDigits 10 ds := by
    rw [show ['0'] = List.replicate 1 '0' from rfl, ofDigits_zeros_append, ofDigits_zeros_append]
  rw [hspelt, Option.getD_none, hpower, List.append_nil] at hread
  have hrange : (-4 : Int) ≤ Int.negSucc l ∧ Int.negSucc l < 16 := by omega
  rw [FloatText.ofDigits.eq_def, if_pos hrange]
  exact hread

/-- An exponent follows the digits, with a point behind the first if there are more. -/
theorem numberAt_ofDigits_exponent (hne : ds ≠ []) (hds : AreDigits ds) {lead : Int}
    (hlead : ¬ (-4 ≤ lead ∧ lead < 16)) :
    numberAt (FloatText.plain.ofDigits ds lead) =
      some (.float (Decimal.toFloat ⟨ofDigits 10 ds, lead + 1 - ds.length⟩), []) := by
  have hpower := exponentPart_exponentText lead
  rw [FloatText.ofDigits.eq_def, if_neg hlead]
  by_cases hone : ds.drop 1 = []
  · have hlength : ds.length = 1 := by
      have hle := List.drop_eq_nil_iff.1 hone
      have hpos := List.length_pos_iff.2 hne
      omega
    have hread := numberAt_digits hne hds (endsDigits_exponentText lead)
    rw [afterWhole_power (by simp [exponentText]) hpower] at hread
    simpa [hone, hlength, FloatText.plain, exponentText, paddedText] using hread
  · have hwhole : ds.take 1 ≠ [] := by simpa using hne
    have hread := numberAt_pointed hwhole (by rwa [List.take_append_drop]) hone
      (endsDigits_exponentText lead) hpower
    have hlonger : 1 < ds.length := by simpa [-List.drop_one] using hone
    have hexponent : lead - ((ds.drop 1).length : Int) = lead + 1 - ds.length := by
      rw [List.length_drop]
      omega
    rw [List.take_append_drop, Option.getD_some, hexponent] at hread
    dsimp only
    rw [if_neg (by simpa using hone), List.append_assoc, List.append_assoc]
    exact hread

/-- The digits of a decimal, written as those of a float, are read as the decimal. -/
theorem numberAt_ofDigits (d : Decimal) :
    numberAt (FloatText.plain.ofDigits (Nat.toDigits 10 d.coefficient)
      (d.exponent + (Nat.toDigits 10 d.coefficient).length - 1)) =
        some (.float (writtenOut d).toFloat, []) := by
  obtain ⟨c, e⟩ := d
  have hne : Nat.toDigits 10 c ≠ [] := Nat.toDigits_ne_nil
  have hds := areDigits_toDigits c
  have hvalue : ofDigits 10 (Nat.toDigits 10 c) = c := ofDigits_toDigits (by decide) (by decide) c
  have hlength : 0 < (Nat.toDigits 10 c).length := List.length_pos_iff.2 hne
  rw [writtenOut, Decimal.digitCount]
  dsimp only
  generalize Nat.toDigits 10 c = ds at *
  obtain ⟨lead, hlead⟩ : ∃ lead : Int, e + ds.length - 1 = lead := ⟨_, rfl⟩
  rw [hlead]
  by_cases hrange : -4 ≤ lead ∧ lead < 16
  · cases lead with
    | ofNat l =>
      have hlead : e + ds.length - 1 = l := hlead
      have hl : (l : Int) < 16 := hrange.2
      by_cases hshort : ds.length ≤ l + 1
      · have hexponent : l + 1 - ds.length = e.toNat := by omega
        have hread := numberAt_ofDigits_whole hne hds (by omega) hshort
        rw [hvalue, hexponent] at hread
        rw [if_pos (by omega)]
        exact hread
      · have hexponent : (l : Int) + 1 - ds.length = e := by omega
        have hread := numberAt_ofDigits_between hds (by omega) (Nat.lt_of_not_le hshort)
        rw [hvalue, hexponent] at hread
        rw [if_neg (by omega)]
        exact hread
    | negSucc l =>
      have hexponent : -((l : Int) + ds.length) = e := by omega
      have hread := numberAt_ofDigits_below hne hds (show l < 4 by omega)
      rw [hvalue, hexponent] at hread
      rw [if_neg (by omega)]
      exact hread
  · have hexponent : lead + 1 - ds.length = e := by omega
    have hread := numberAt_ofDigits_exponent hne hds hrange
    rw [hvalue, hexponent] at hread
    rw [if_neg (by omega)]
    exact hread

/-! ## Scanning and reading -/

/-- The text is a number from its first character, a digit, to its last. -/
structure SpellsNumber (cs : List Char) (k : Constant) : Prop where
  begins : ∃ c r, cs = c :: r ∧ isAsciiDigit c = true
  printable : ∀ c ∈ cs, isPrintable c = true
  number : numberAt cs = some (k, [])

/-- Digits can be printed. -/
theorem isPrintable_of_isAsciiDigit {c : Char} (h : isAsciiDigit c = true) : isPrintable c = true := by
  obtain ⟨hlow, hhigh⟩ : '0' ≤ c ∧ c ≤ '9' := by simpa [isAsciiDigit] using h
  have hlow : 48 ≤ c.toNat := hlow
  have hhigh : c.toNat ≤ 57 := hhigh
  rw [isPrintable, if_pos (by omega)]
  simp
  omega

/-- A digit could continue a word. -/
theorem couldContinueWord_of_isAsciiDigit {c : Char} (h : isAsciiDigit c = true) :
    couldContinueWord c = true := by simp [couldContinueWord, h]

/-- Inside a line a number is scanned by `numberAt`. -/
theorem scanFrom_number {fuel : Nat} {st : ScanState} {done : List Token} {cs : List Char} {k : Constant}
    (hst : st.lineStart = false) (h : SpellsNumber cs k) :
    scanFrom (fuel + 1) st done cs = scanFrom fuel st (.number k :: done) [] := by
  obtain ⟨c, r, rfl, hc⟩ := h.begins
  have hcc := couldContinueWord_of_isAsciiDigit hc
  have hne {d : Char} (hd : couldContinueWord d = false) : (c == d) = false :=
    beq_eq_false_iff_ne.2 (ne_of_couldContinueWord hcc hd)
  rw [scanFrom.eq_def]
  simp only [hst, Bool.false_eq_true, if_false]
  split
  · next he => cases he
  · next he => exact absurd (List.cons.inj he).1 (ne_of_couldContinueWord hcc rfl)
  · next he => exact absurd (List.cons.inj he).1 (ne_of_couldContinueWord hcc rfl)
  · next he => exact absurd (List.cons.inj he).1 (ne_of_couldContinueWord hcc rfl)
  · next c' r' _ _ _ he =>
    obtain ⟨rfl, rfl⟩ := List.cons.inj he
    rw [hne rfl, hne rfl, hne rfl, hc, h.number]
    rfl

/-- A text that spells a number is one token. -/
theorem scan_spellsNumber {cs : List Char} {k : Constant} (h : SpellsNumber cs k) :
    Token.scan cs = some [.number k] := by
  obtain ⟨c, r, rfl, hc⟩ := h.begins
  unfold Token.scan
  rw [scanFrom_start (couldContinueWord_of_isAsciiDigit hc), scanFrom_number rfl h]
  rfl

/-- The character is one of the two signs. -/
def IsSign (sign : Char) : Prop := sign = '+' ∨ sign = '-'

/-- A signed number is two tokens. -/
theorem scan_signed {sign : Char} (hsign : IsSign sign) {cs : List Char} {k : Constant}
    (h : SpellsNumber cs k) : Token.scan (sign :: cs) = some [.mark sign.toString, .number k] := by
  obtain ⟨c, r, hcs, hc⟩ := h.begins
  have hstart {fuel : Nat} : scanFrom (fuel + 1) ⟨[], [], true⟩ [] (sign :: cs) =
      scanFrom fuel ⟨[], [], false⟩ [] (sign :: cs) := by
    rcases hsign with rfl | rfl <;> rfl
  -- no mark of several characters has a digit behind the sign
  have hmark : markAt? (sign :: cs) = some (sign.toString, cs) := by
    have hne {d : Char} (hd : isAsciiDigit d = false) : (d == c) = false := by
      refine beq_eq_false_iff_ne.2 ?_
      rintro rfl
      rw [hd] at hc
      cases hc
    rw [hcs]
    rcases hsign with rfl | rfl <;>
      simp [markAt?, longMarks, List.isPrefixOf, hne (d := '=') rfl, hne (d := '>') rfl, shortMarks]
  have hscan {fuel : Nat} : scanFrom (fuel + 1) ⟨[], [], false⟩ [] (sign :: cs) =
      scanFrom fuel ⟨[], [], false⟩ [.mark sign.toString] cs := by
    rw [scanFrom.eq_def]
    have hclass : isAsciiDigit sign = false ∧ couldContinueWord sign = false := by
      rcases hsign with rfl | rfl <;> exact ⟨rfl, rfl⟩
    have hplus : bracketsAfter "+" [] = some [] := rfl
    have hminus : bracketsAfter "-" [] = some [] := rfl
    rcases hsign with rfl | rfl
    · simp [hmark, hclass, hplus]
    · simp [hmark, hclass, hminus]
  unfold Token.scan
  rw [List.length_cons, hstart, hscan, scanFrom_number rfl h]
  rfl

/-- What is printable is no line end and no null character. -/
theorem not_mem_of_printable {s : String} {d : Char} (hs : ∀ c ∈ s.toList, isPrintable c = true)
    (hd : isPrintable d = false) : d ∉ s.toList := fun hin => by
  rw [hs d hin] at hd
  cases hd

/-- A text that spells a number is read as the number. -/
theorem readExpr_spellsNumber {s : String} {k : Constant} (h : SpellsNumber s.toList k) :
    readExpr s = .ok (.constant k) := by
  obtain ⟨n, hbound⟩ := exists_depthBound_eq s.toList
  refine readExpr_of_scan (not_mem_of_printable h.printable rfl) (not_mem_of_printable h.printable rfl)
    (scan_spellsNumber h) ?_
  rw [hbound]
  rfl

/-- A signed number is read with its sign. -/
theorem readExpr_signed {sign : Char} {op : UnaryOp}
    (hsign : sign = '+' ∧ op = .plus ∨ sign = '-' ∧ op = .minus) {s t : String} {k : Constant}
    (ht : t.toList = sign :: s.toList) (h : SpellsNumber s.toList k) :
    readExpr t = .ok (.unary op (.constant k)) := by
  have hprintable : ∀ c ∈ t.toList, isPrintable c = true := by
    rw [ht]
    refine List.forall_mem_cons.2 ⟨?_, h.printable⟩
    rcases hsign with ⟨rfl, _⟩ | ⟨rfl, _⟩ <;> rfl
  have hscan : Token.scan t.toList = some [.mark sign.toString, .number k] := by
    rw [ht]
    exact scan_signed (hsign.imp And.left And.left) h
  obtain ⟨n, hbound⟩ := exists_depthBound_eq t.toList
  refine readExpr_of_scan (not_mem_of_printable hprintable rfl) (not_mem_of_printable hprintable rfl)
    hscan ?_
  rw [hbound]
  rcases hsign with ⟨rfl, rfl⟩ | ⟨rfl, rfl⟩ <;> rfl

/-! ## Literal values -/

/-- A digit is no blank. -/
theorem ne_blank_of_isAsciiDigit {c : Char} (h : isAsciiDigit c = true) : c ≠ ' ' ∧ c ≠ '\t' := by
  refine ⟨?_, ?_⟩ <;> rintro rfl <;> cases h

/-- A text that spells a number has its value. -/
theorem literalValue?_spellsNumber {s : String} {k : Constant} (h : SpellsNumber s.toList k) :
    literalValue? s = (Expr.constant k).scalar? := by
  obtain ⟨c, r, hs, hc⟩ := h.begins
  refine literalValue?_of_readExpr ?_ (readExpr_spellsNumber h)
  rw [hs]
  rintro d ⟨⟩
  exact ne_blank_of_isAsciiDigit hc

/-- A signed number has its value. -/
theorem literalValue?_signed {sign : Char} {op : UnaryOp}
    (hsign : sign = '+' ∧ op = .plus ∨ sign = '-' ∧ op = .minus) {s t : String} {k : Constant}
    (ht : t.toList = sign :: s.toList) (h : SpellsNumber s.toList k) :
    literalValue? t = (Expr.unary op (.constant k)).scalar? := by
  refine literalValue?_of_readExpr ?_ (readExpr_signed hsign ht h)
  rw [ht]
  rintro d ⟨⟩
  rcases hsign with ⟨rfl, _⟩ | ⟨rfl, _⟩ <;> exact ⟨by decide, by decide⟩

/-- An integer of up to `maxDecimalDigits` digits is printed as digits that spell it. -/
theorem spellsNumber_toString {n : Nat} (h : (Nat.toDigits 10 n).length ≤ maxDecimalDigits) :
    SpellsNumber (toString n).toList (.int n) := by
  have htext : (toString n).toList = Nat.toDigits 10 n := Nat.toList_repr
  have hread := numberAt_digits Nat.toDigits_ne_nil (areDigits_toDigits n) endsDigits_nil
  rw [List.append_nil, wholeNumber_toDigits h] at hread
  rw [htext]
  exact ⟨exists_toDigits_eq_cons n,
    fun c hc => isPrintable_of_isAsciiDigit (areDigits_toDigits n c hc), hread⟩

/-- A printed truth value is read back. -/
theorem literalValue?_bool (b : Bool) :
    literalValue? ((Constant.bool b).source false) = some (.bool b) := by
  cases b <;> rfl

/-! ### Floats -/

/-- The decimal whose digits a float is printed with. -/
def printedDecimal (b : BinaryFraction) : Decimal :=
  if b.significand = 0 then ⟨0, 0⟩ else Decimal.shortest b

/-- The double that the printed magnitude of a float is read as. -/
def reread (b : BinaryFraction) : Float := (writtenOut (printedDecimal b)).toFloat

/-- A float that is written from digits can be printed. -/
theorem printable_ofDigits (hds : AreDigits ds) (lead : Int) :
    ∀ c ∈ FloatText.plain.ofDigits ds lead, isPrintable c = true := by
  have hdigits {cs : List Char} (h : AreDigits cs) : ∀ c ∈ cs, isPrintable c = true :=
    fun c hc => isPrintable_of_isAsciiDigit (h c hc)
  rw [FloatText.ofDigits.eq_def]
  split
  · split
    · have hwhole (l k : Nat) := hdigits ((hds.take l).append (areDigits_zeros k))
      dsimp only
      split
      · exact List.forall_mem_append.2
          ⟨hwhole _ _, List.forall_mem_cons.2 ⟨rfl, hdigits (areDigits_zeros 1)⟩⟩
      · exact List.forall_mem_append.2
          ⟨hwhole _ _, List.forall_mem_cons.2 ⟨rfl, hdigits (hds.drop _)⟩⟩
    · exact List.forall_mem_append.2
        ⟨List.forall_mem_append.2 ⟨List.forall_mem_cons.2 ⟨rfl, List.forall_mem_singleton.2 rfl⟩,
          hdigits (areDigits_zeros _)⟩, hdigits hds⟩
  · have hpower : ∀ c ∈ paddedText 2 lead.natAbs, isPrintable c = true :=
      hdigits ((areDigits_zeros _).append (areDigits_toDigits _))
    have hsign : ∀ c ∈ ['e', if lead < 0 then '-' else '+'], isPrintable c = true := by
      split <;> exact List.forall_mem_cons.2 ⟨rfl, List.forall_mem_singleton.2 rfl⟩
    have hmantissa : ∀ c ∈ (if (ds.drop 1).isEmpty then ds else ds.take 1 ++ '.' :: ds.drop 1),
        isPrintable c = true := by
      split
      · exact hdigits hds
      · exact List.forall_mem_append.2
          ⟨hdigits (hds.take 1), List.forall_mem_cons.2 ⟨rfl, hdigits (hds.drop 1)⟩⟩
    exact List.forall_mem_append.2 ⟨List.forall_mem_append.2 ⟨hmantissa, hsign⟩, hpower⟩

/-- A printed float is read as the double nearest to the decimal of its digits. -/
theorem literalValue?_writeFinite (b : BinaryFraction) :
    literalValue? (FloatText.plain.writeFinite b) =
      some (.float (if b.negative then -reread b else reread b)) := by
  obtain ⟨body, hbody⟩ : ∃ body, body = FloatText.plain.ofDigits
      (Nat.toDigits 10 (printedDecimal b).coefficient) ((printedDecimal b).exponent +
        (Nat.toDigits 10 (printedDecimal b).coefficient).length - 1) := ⟨_, rfl⟩
  have htext : FloatText.plain.writeFinite b =
      String.ofList (if b.negative then '-' :: body else body) := by
    rw [hbody, printedDecimal, FloatText.writeFinite]
    by_cases hzero : b.significand = 0
    · simp only [hzero, if_true]
      rfl
    · simp only [hzero, if_false]
  have hspells : SpellsNumber (String.ofList body).toList (.float (reread b)) := by
    obtain ⟨c, r, hn, hc⟩ := exists_toDigits_eq_cons (printedDecimal b).coefficient
    rw [String.toList_ofList, hbody]
    refine ⟨?_, printable_ofDigits (areDigits_toDigits _) _, numberAt_ofDigits _⟩
    rw [hn]
    exact exists_ofDigits_eq_cons _ hc r _
  rw [htext]
  cases b.negative with
  | false => exact literalValue?_spellsNumber hspells
  | true => exact literalValue?_signed (.inr ⟨rfl, rfl⟩) (by simp) hspells

end RouteAtlas.Syntax
