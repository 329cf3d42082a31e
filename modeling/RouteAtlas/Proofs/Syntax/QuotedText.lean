import RouteAtlas.Proofs.Syntax.PrintedName
import RouteAtlas.Proofs.Text.Digits
import RouteAtlas.Proofs.Text.Encoding
import RouteAtlas.Syntax.Source

/-!
# Quoted texts read back

A text constant is printed between quotes with escapes. Whatever code points the text has, surrogates
among them, the printed form is one token whose escapes stand for these code points again, so it reads as
the constant it was printed from (`readExpr_quotedCodes`).
-/

namespace RouteAtlas.Text

/-! ## Code points -/

/-- Characters stand for code points. -/
theorem toNat_lt (c : Char) : c.toNat < 0x110000 := by
  rcases c.valid with h | ⟨_, h⟩
  · exact Nat.lt_trans h (by decide)
  · exact h

/-- No character is a surrogate. -/
theorem isSurrogate_toNat (c : Char) : isSurrogate c.toNat = false := by
  rcases c.valid with h | ⟨h, _⟩
  · have hlow : c.toNat < 0xd800 := h
    simp only [isSurrogate, Bool.and_eq_false_iff, decide_eq_false_iff_not]
    omega
  · have hhigh : 0xdfff < c.toNat := h
    simp only [isSurrogate, Bool.and_eq_false_iff, decide_eq_false_iff_not]
    omega

/-- A code point that is no surrogate is that of its character. -/
theorem toNat_ofNat {n : Nat} (hn : n < 0x110000) (hplain : isSurrogate n = false) :
    (Char.ofNat n).toNat = n := by
  simp only [isSurrogate, Bool.and_eq_false_iff, decide_eq_false_iff_not] at hplain
  refine Utf8.toNat_val_ofNat ?_
  unfold Nat.isValidChar
  omega

/-- The code points of a string are code points. -/
theorem forall_mem_codePoints_lt (s : String) : ∀ n ∈ codePoints s, n < 0x110000 := by
  intro n hn
  obtain ⟨c, _, rfl⟩ := List.mem_map.1 hn
  exact toNat_lt c

/-- The code points of a string make no text with surrogates. -/
theorem ofCodes?_codePoints (s : String) : SurrogateText.ofCodes? (codePoints s) = none := by
  have hnone : (codePoints s).any isSurrogate = false := by
    rw [codePoints, List.any_map, List.any_eq_false]
    exact fun c _ => by simp [isSurrogate_toNat c]
  unfold SurrogateText.ofCodes?
  rw [dif_neg]
  simp [hnone]

/-- A text with surrogates is made of its code points. -/
theorem ofCodes?_codes (t : SurrogateText) : SurrogateText.ofCodes? t.codes = some t := by
  unfold SurrogateText.ofCodes?
  rw [dif_pos ⟨t.bounded, t.hasSurrogate⟩]

/-- A string is made of its code points. -/
theorem ofList_map_codePoints (s : String) : String.ofList ((codePoints s).map Char.ofNat) = s := by
  rw [codePoints, List.map_map]
  have hself : Char.ofNat ∘ Char.toNat = id := funext Char.ofNat_toNat
  rw [hself, List.map_id, String.ofList_toList]

/-! ## The characters between the quotes -/

/-- The character is one of the two quotes. -/
def IsQuote (quote : Char) : Prop := quote = '\'' ∨ quote = '"'

/-- A text stands between quotes. -/
theorem isQuote_quoteFor (codes : List Nat) : IsQuote (quoteFor codes) := by
  unfold quoteFor
  split
  · exact .inr rfl
  · exact .inl rfl

/-- The escape of a code point is a letter with the right number of digits. -/
theorem exists_hexEscape_eq {n : Nat} (hn : n < 0x110000) : ∃ letter width,
    (letter = 'x' ∧ width = 2 ∨ letter = 'u' ∧ width = 4 ∨ letter = 'U' ∧ width = 8) ∧
      n < Nat.pow 16 width ∧ hexEscape n = '\\' :: letter :: hexText width n := by
  unfold hexEscape
  split
  · next h => exact ⟨'x', 2, .inl ⟨rfl, rfl⟩, Nat.lt_succ_of_le h, rfl⟩
  · split
    · next h => exact ⟨'u', 4, .inr (.inl ⟨rfl, rfl⟩), Nat.lt_succ_of_le h, rfl⟩
    · exact ⟨'U', 8, .inr (.inr ⟨rfl, rfl⟩), Nat.lt_trans hn (by decide), rfl⟩

end RouteAtlas.Text

namespace RouteAtlas.Syntax

open RouteAtlas.Text Reading

variable {quote c : Char} {cs r : List Char} {n : Nat} {codes : List Nat}

/-! ## Constants by their code points -/

/-- The constant of a string's code points is that string. -/
theorem Constant.ofCodes_codePoints (s : String) (marked : Bool) :
    Constant.ofCodes (codePoints s) marked = .str s marked := by
  unfold Constant.ofCodes
  rw [ofCodes?_codePoints, ofList_map_codePoints]

/-- The constant of the code points of a text with surrogates is that text. -/
theorem Constant.ofCodes_codes (t : SurrogateText) (marked : Bool) :
    Constant.ofCodes t.codes marked = .surrogate t marked := by
  unfold Constant.ofCodes
  rw [ofCodes?_codes]

/-! ## What is printed for a code point -/

/-- The character closes no text and begins no escape. -/
structure IsPlainIn (quote c : Char) : Prop where
  ne_quote : c ≠ quote
  ne_backslash : c ≠ '\\'
  ne_line : c ≠ '\n'

/-- Hexadecimal digits are plain. -/
theorem isPlainIn_digitChar (hq : IsQuote quote) {d : Nat} (hd : d < 16) :
    IsPlainIn quote (Nat.digitChar d) := by
  have hall : ∀ d < 16, Nat.digitChar d ≠ '\'' ∧ Nat.digitChar d ≠ '"' ∧ Nat.digitChar d ≠ '\\' ∧
      Nat.digitChar d ≠ '\n' := by decide
  obtain ⟨hsingle, hdouble, hbackslash, hline⟩ := hall d hd
  refine ⟨?_, hbackslash, hline⟩
  rcases hq with rfl | rfl
  · exact hsingle
  · exact hdouble

/-- What stands for a code point between quotes: its escape, a letter after a backslash, or a character
itself. -/
inductive QuotedForm (quote : Char) (n : Nat) : List Char → Prop
  | hex : QuotedForm quote n (hexEscape n)
  | letter {c : Char} (hnames : letterEscape? c = some n) (hprintable : isPrintable c = true) :
      QuotedForm quote n ['\\', c]
  | itself {c : Char} (hc : c.toNat = n) (hprintable : isPrintable c = true)
      (hplain : IsPlainIn quote c) : QuotedForm quote n [c]

/-- A code point is printed in one of these forms. -/
theorem quotedForm_quotedCode (hq : IsQuote quote) (hn : n < 0x110000) :
    QuotedForm quote n (quotedCode quote n) := by
  unfold quotedCode
  dsimp only
  split
  · exact .hex
  next hcharacter =>
  have hself : (Char.ofNat n).toNat = n := toNat_ofNat hn (Bool.eq_false_iff.2 hcharacter)
  generalize Char.ofNat n = c at hself
  subst hself
  split
  · next h =>
    simp only [Bool.or_eq_true, beq_iff_eq] at h
    rcases h with rfl | rfl
    · rcases hq with rfl | rfl <;> exact .letter rfl rfl
    · exact .letter rfl rfl
  next hmarks =>
  split
  · next hc => exact eq_of_beq hc ▸ .letter rfl rfl
  next hline =>
  split
  · next hc => exact eq_of_beq hc ▸ .letter rfl rfl
  split
  · next hc => exact eq_of_beq hc ▸ .letter rfl rfl
  split
  · next hprintable =>
    simp only [Bool.or_eq_true, beq_iff_eq, not_or] at hmarks
    exact .itself rfl hprintable ⟨hmarks.1, hmarks.2, by simpa using hline⟩
  · exact .hex

/-! ## Escapes -/

/-- Padded digits are read whatever follows them. -/
theorem hexRun?_hexText {width n : Nat} (hwidth : 0 < width) (hn : n < Nat.pow 16 width) :
    hexRun? width (hexText width n ++ r) = some n := by
  have hlength := length_hexText hwidth hn
  have htake : (hexText width n ++ r).take width = hexText width n := by
    exact List.take_left' hlength
  have hne : hexText width n ≠ [] := List.ne_nil_of_length_pos (hlength.symm ▸ hwidth)
  have hdigits : (hexText width n).any (fun c => !isDigitIn 16 c) = false := by
    refine List.any_eq_false.2 fun c hc => ?_
    obtain ⟨d, hd, rfl⟩ := exists_digit_of_mem_hexText hc
    simp [isDigitIn_digitChar (by decide) hd]
  rw [hexRun?, htake, if_pos hlength, ofDigits?, if_neg (by simp [hne, hdigits]), ofDigits_hexText]

/-- A backslash and what is escaped stand for these code points. -/
theorem decodeEscapes_escape {taken : Nat} (h : escapeAt c r = some (codes, taken)) :
    decodeEscapes ('\\' :: c :: r) = (decodeEscapes (r.drop (taken - 1))).map (codes ++ ·) := by
  rw [decodeEscapes, h]

/-- A letter after a backslash stands for the code point that it names. -/
theorem decodeEscapes_letter {letter : Char} (h : letterEscape? letter = some n) :
    decodeEscapes ('\\' :: letter :: r) = (decodeEscapes r).map (n :: ·) := by
  have hescape : escapeAt letter r = some ([n], 1) := by rw [escapeAt, h]
  exact decodeEscapes_escape hescape

/-- Any other character than a backslash stands for itself. -/
theorem decodeEscapes_plain (hc : c ≠ '\\') :
    decodeEscapes (c :: r) = (decodeEscapes r).map (c.toNat :: ·) := by
  rw [decodeEscapes]
  rintro d r' rfl
  exact absurd rfl hc

/-- The escape of a code point stands for it. -/
theorem decodeEscapes_hexEscape (hn : n < 0x110000) :
    decodeEscapes (hexEscape n ++ r) = (decodeEscapes r).map (n :: ·) := by
  obtain ⟨letter, width, hletter, hwidth, hescape⟩ := exists_hexEscape_eq hn
  have hpos : 0 < width := by omega
  -- the letter asks for as many digits as are printed after it
  have hat : escapeAt letter (hexText width n ++ r) = some ([n], width + 1) := by
    have hrun := hexRun?_hexText (r := r) hpos hwidth
    rcases hletter with ⟨rfl, rfl⟩ | ⟨rfl, rfl⟩ | ⟨rfl, rfl⟩
    · exact congrArg (Option.map fun n => ([n], 3)) hrun
    · exact congrArg (Option.map fun n => ([n], 5)) hrun
    · exact (congrArg (Option.bind · fun n => if n < 0x110000 then some ([n], 9) else none) hrun).trans
        (if_pos hn)
  rw [hescape, List.cons_append, List.cons_append, decodeEscapes_escape hat, Nat.add_sub_cancel,
    List.drop_left' (length_hexText hpos hwidth)]
  rfl

/-- What is printed for a code point stands for it. -/
theorem QuotedForm.decodeEscapes_append (h : QuotedForm quote n cs) (hn : n < 0x110000) :
    decodeEscapes (cs ++ r) = (decodeEscapes r).map (n :: ·) := by
  cases h with
  | hex => exact decodeEscapes_hexEscape hn
  | letter hnames _ => exact decodeEscapes_letter hnames
  | itself hc _ hplain => exact hc ▸ decodeEscapes_plain hplain.ne_backslash

/-- The inside of a quoted text stands for the text. -/
theorem decodeEscapes_flatMap_quotedCode (hq : IsQuote quote) (hcodes : ∀ n ∈ codes, n < 0x110000) :
    decodeEscapes (codes.flatMap (quotedCode quote)) = some codes := by
  induction codes with
  | nil => rw [List.flatMap_nil, decodeEscapes]
  | cons n codes ih =>
    obtain ⟨hn, hrest⟩ := List.forall_mem_cons.1 hcodes
    rw [List.flatMap_cons, (quotedForm_quotedCode hq hn).decodeEscapes_append hn, ih hrest, Option.map_some]

/-! ## Scanning -/

/-- Only printable characters stand in the escape of a code point. -/
theorem isPrintable_of_mem_hexEscape (hn : n < 0x110000) {d : Char} (hd : d ∈ hexEscape n) :
    isPrintable d = true := by
  obtain ⟨letter, width, hletter, _, hescape⟩ := exists_hexEscape_eq hn
  rw [hescape, List.mem_cons, List.mem_cons] at hd
  rcases hd with rfl | rfl | hd
  · rfl
  · rcases hletter with ⟨rfl, _⟩ | ⟨rfl, _⟩ | ⟨rfl, _⟩ <;> rfl
  · obtain ⟨k, hk, rfl⟩ := exists_digit_of_mem_hexText hd
    exact isPrintable_digitChar hk

/-- Only printable characters stand for a code point in a quoted text. -/
theorem QuotedForm.isPrintable_of_mem (h : QuotedForm quote n cs) (hn : n < 0x110000) {d : Char}
    (hd : d ∈ cs) : isPrintable d = true := by
  cases h with
  | hex => exact isPrintable_of_mem_hexEscape hn hd
  | letter _ hprintable =>
    rcases List.mem_pair.1 hd with rfl | rfl
    · rfl
    · exact hprintable
  | itself _ hprintable _ => exact List.mem_singleton.1 hd ▸ hprintable

/-- Only printable characters stand in a quoted text. -/
theorem isPrintable_of_mem_quotedCodes (hcodes : ∀ n ∈ codes, n < 0x110000) {d : Char}
    (hd : d ∈ quotedCodes codes) : isPrintable d = true := by
  have hq := isQuote_quoteFor codes
  have hquote : isPrintable (quoteFor codes) = true := by rcases hq with h | h <;> rw [h] <;> rfl
  simp only [quotedCodes, List.cons_append, List.mem_cons, List.mem_append, List.mem_flatMap,
    List.not_mem_nil, or_false] at hd
  rcases hd with rfl | ⟨n, hn, hd⟩ | rfl
  · exact hquote
  · exact (quotedForm_quotedCode hq (hcodes n hn)).isPrintable_of_mem (hcodes n hn) hd
  · exact hquote

/-- What follows a backslash is passed over. -/
theorem textBody_escape (done : List Char) :
    textBody quote false done ('\\' :: c :: r) = textBody quote false (c :: '\\' :: done) r := by
  rw [textBody]

/-- A character that begins no escape is tested against the quote and the line end. -/
theorem textBody_cons (hc : c ≠ '\\') (done : List Char) :
    textBody quote false done (c :: r) =
      if c == quote then some (done.reverse, r)
      else if c == '\n' then none
      else textBody quote false (c :: done) r := by
  rw [textBody.eq_def]
  split
  · next he => cases he
  · next he => exact absurd (List.cons.inj he).1 hc
  · next he =>
    obtain ⟨rfl, rfl⟩ := List.cons.inj he
    simp only [Bool.false_eq_true, if_false, Bool.not_false, Bool.and_true]

/-- A plain character is passed over. -/
theorem textBody_plain (hc : IsPlainIn quote c) (done : List Char) :
    textBody quote false done (c :: r) = textBody quote false (c :: done) r := by
  rw [textBody_cons hc.ne_backslash, if_neg (by simpa using hc.ne_quote),
    if_neg (by simpa using hc.ne_line)]

/-- Plain characters are passed over. -/
theorem textBody_plains (h : ∀ c ∈ cs, IsPlainIn quote c) (done : List Char) :
    textBody quote false done (cs ++ r) = textBody quote false (cs.reverse ++ done) r := by
  induction cs generalizing done with
  | nil => rfl
  | cons c cs ih =>
    obtain ⟨hc, hcs⟩ := List.forall_mem_cons.1 h
    rw [List.cons_append, textBody_plain hc, ih hcs, List.reverse_cons, List.append_assoc]
    rfl

/-- What is printed for a code point is a plain character, or begins with a backslash and a letter, and the
rest of it is plain. -/
theorem QuotedForm.plain_or_escape (h : QuotedForm quote n cs) (hq : IsQuote quote)
    (hn : n < 0x110000) : (∃ c, cs = [c] ∧ IsPlainIn quote c) ∨
      ∃ letter ds, cs = '\\' :: letter :: ds ∧ ∀ d ∈ ds, IsPlainIn quote d := by
  cases h with
  | hex =>
    obtain ⟨letter, width, _, _, hhex⟩ := exists_hexEscape_eq hn
    refine .inr ⟨letter, hexText width n, hhex, fun d hd => ?_⟩
    obtain ⟨k, hk, rfl⟩ := exists_digit_of_mem_hexText hd
    exact isPlainIn_digitChar hq hk
  | @letter c _ _ => exact .inr ⟨c, [], rfl, nofun⟩
  | @itself c _ _ hplain => exact .inl ⟨c, rfl, hplain⟩

/-- What is printed for a code point is passed over as a part of the inside. -/
theorem textBody_quotedCode (hq : IsQuote quote) (hn : n < 0x110000) (done : List Char) :
    textBody quote false done (quotedCode quote n ++ r) =
      textBody quote false ((quotedCode quote n).reverse ++ done) r := by
  rcases (quotedForm_quotedCode hq hn).plain_or_escape hq hn with
    ⟨c, hc, hplain⟩ | ⟨letter, ds, hc, hds⟩
  · rw [hc]
    exact textBody_plain hplain done
  · rw [hc, List.cons_append, List.cons_append, textBody_escape, textBody_plains hds]
    simp

/-- The inside of a quoted text goes up to the closing quote. -/
theorem textBody_quotedCodes (hq : IsQuote quote) (hcodes : ∀ n ∈ codes, n < 0x110000)
    (done : List Char) :
    textBody quote false done (codes.flatMap (quotedCode quote) ++ quote :: r) =
      some (done.reverse ++ codes.flatMap (quotedCode quote), r) := by
  induction codes generalizing done with
  | nil =>
    have hbackslash : quote ≠ '\\' := by rcases hq with rfl | rfl <;> decide
    rw [List.flatMap_nil, List.nil_append, textBody_cons hbackslash, if_pos (beq_self_eq_true quote),
      List.append_nil]
  | cons n codes ih =>
    obtain ⟨hn, hrest⟩ := List.forall_mem_cons.1 hcodes
    rw [List.flatMap_cons, List.append_assoc, textBody_quotedCode hq hn, ih hrest]
    simp

/-- The inside of a quoted text never makes three quotes of the first. -/
theorem not_tripled (hq : IsQuote quote) (hcodes : ∀ n ∈ codes, n < 0x110000) :
    [quote, quote].isPrefixOf (codes.flatMap (quotedCode quote) ++ [quote]) = false := by
  cases codes with
  | nil => simp [List.isPrefixOf]
  | cons n codes =>
    have hn := (List.forall_mem_cons.1 hcodes).1
    have hbackslash : quote ≠ '\\' := by rcases hq with rfl | rfl <;> decide
    rw [List.flatMap_cons]
    rcases (quotedForm_quotedCode hq hn).plain_or_escape hq hn with
      ⟨c, hc, hplain⟩ | ⟨letter, ds, hc, _⟩
    · simp [hc, List.isPrefixOf, hplain.ne_quote.symm]
    · simp [hc, List.isPrefixOf, hbackslash]

/-- The letters before a text constant. -/
def markLetters (marked : Bool) : List Char := if marked then ['u'] else []

/-- The literal that a text constant is printed as. -/
def literalOf (codes : List Nat) (marked : Bool) : TextLiteral :=
  ⟨false, false, false, marked, codes.flatMap (quotedCode (quoteFor codes))⟩

/-- From its quote on, a quoted text is one literal. -/
theorem textAt_quotedCodes (hcodes : ∀ n ∈ codes, n < 0x110000) (marked : Bool) :
    textAt (markLetters marked) (quotedCodes codes) = some (literalOf codes marked, []) := by
  have hq := isQuote_quoteFor codes
  unfold textAt quotedCodes
  simp only [List.cons_append, not_tripled hq hcodes, Bool.false_eq_true, if_false,
    textBody_quotedCodes hq hcodes []]
  cases marked <;> rfl

/-- A quoted text with a mark before it is one literal, not a word. -/
theorem wordAt_quotedCodes (hcodes : ∀ n ∈ codes, n < 0x110000) :
    wordAt ('u' :: quotedCodes codes) = some (.text (literalOf codes true), []) := by
  have hword : ('u' :: quotedCodes codes).takeWhile couldContinueWord = ['u'] := by
    rw [List.takeWhile_cons_of_pos rfl, quotedCodes, List.cons_append,
      List.takeWhile_cons_of_neg (by simp [couldContinueWord_quoteFor codes])]
  have hfollows : (quotedCodes codes).head?.any (fun c => c == '"' || c == '\'') = true := by
    rcases isQuote_quoteFor codes with h | h <;> simp [quotedCodes, h]
  have hmark : literalMarks.contains (['u'].map Char.toLower) = true := by decide
  unfold wordAt
  simp only [hword, List.length_singleton, List.drop_succ_cons, List.drop_zero, hfollows, hmark,
    Bool.and_true, if_true]
  exact congrArg (Option.map fun p => (Token.text p.1, p.2)) (textAt_quotedCodes hcodes true)

/-- At the start of a text a literal is scanned without any sign of the line structure. -/
theorem scanFrom_start_text {fuel : Nat} (hq : IsQuote quote) :
    scanFrom (fuel + 1) ⟨[], [], true⟩ [] (quote :: r) =
      scanFrom fuel ⟨[], [], false⟩ [] (quote :: r) := by
  rcases hq with rfl | rfl <;> rfl

/-- Inside a line a literal is scanned by `textAt`. -/
theorem scanFrom_text {fuel : Nat} {st : ScanState} {done : List Token} {rest : List Char}
    {l : TextLiteral} (hst : st.lineStart = false) (hq : IsQuote quote)
    (htext : textAt [] (quote :: r) = some (l, rest)) :
    scanFrom (fuel + 1) st done (quote :: r) = scanFrom fuel st (.text l :: done) rest := by
  have hdigit : isAsciiDigit quote = false := by rcases hq with rfl | rfl <;> rfl
  rw [scanFrom.eq_def]
  rcases hq with rfl | rfl <;> simp [hst, hdigit, htext]

/-- A text constant is printed as one token. -/
theorem scan_quotedCodes (hcodes : ∀ n ∈ codes, n < 0x110000) (marked : Bool) :
    Token.scan (markLetters marked ++ quotedCodes codes) = some [.text (literalOf codes marked)] := by
  unfold Token.scan
  cases marked with
  | true =>
    show scanFrom _ _ _ ('u' :: quotedCodes codes) = _
    rw [scanFrom_start rfl, scanFrom_word rfl rfl (wordAt_quotedCodes hcodes)]
    rfl
  | false =>
    have hq := isQuote_quoteFor codes
    have htext : textAt [] (quotedCodes codes) = some (literalOf codes false, []) :=
      textAt_quotedCodes hcodes false
    obtain ⟨r, hr⟩ : ∃ r, quotedCodes codes = quoteFor codes :: r := ⟨_, rfl⟩
    show scanFrom _ _ _ (quotedCodes codes) = _
    rw [hr] at htext ⊢
    rw [scanFrom_start_text hq, scanFrom_text rfl hq htext]
    rfl

/-! ## Reading -/

section Levels

-- on one token every level of the grammar hands down to the atom; the inside of the literal is decoded
-- by a recursion that does not unfold, so the levels are climbed one by one
variable {l : TextLiteral} {e : Expr} {n : Nat}

/-- The atom of a literal is what its texts spell. -/
theorem run_atom_text (h : texts n [l] = pure e) : (atom (n + 1)).run [.text l] = some (e, []) := by
  have hatom : (atom (n + 1)).run [.text l] = (texts n [l]).run [] := rfl
  rw [hatom, h]
  rfl

/-- A literal is a factor as it is an atom. -/
theorem run_factor_text (h : (atom (n + 1)).run [.text l] = some (e, [])) :
    (factor (n + 3)).run [.text l] = some (e, []) := by
  have hprimary : (primary (n + 2)).run [.text l] = some (e, []) := by
    simp only [primary, StateT.run_bind, h]
    rfl
  have haccepts (s : String) : (acceptsMark s).run [.text l] = some (false, [.text l]) := rfl
  have hawait : (acceptsWord "await").run [.text l] = some (false, [.text l]) := rfl
  simp only [factor, StateT.run_bind, haccepts, hawait, hprimary, Option.bind_eq_bind,
    Option.bind_some, Bool.false_eq_true, if_false]
  rfl

/-- A literal is a chain of operators as it is a factor. -/
theorem run_bitwiseOr_text (h : (factor n).run [.text l] = some (e, [])) :
    (bitwiseOr (n + 1)).run [.text l] = some (e, []) := by
  simp only [bitwiseOr, levelled, chain, binaryLevels, StateT.run_bind, h]
  rfl

/-- A literal is a disjunction as it is a chain of operators. -/
theorem run_disjunction_text (h : (bitwiseOr n).run [.text l] = some (e, [])) :
    (disjunction (n + 3)).run [.text l] = some (e, []) := by
  have hnot : (acceptsWord "not").run [.text l] = some (false, [.text l]) := rfl
  simp only [disjunction, conjunction, inversion, StateT.run_bind, hnot, h, Option.bind_eq_bind,
    Option.bind_some, Bool.false_eq_true, if_false]
  rfl

/-- A literal is an expression as it is a disjunction. -/
theorem run_expression_text (h : (disjunction n).run [.text l] = some (e, [])) :
    (expression (n + 1)).run [.text l] = some (e, []) := by
  have hlambda : (acceptsWord "lambda").run [.text l] = some (false, [.text l]) := rfl
  simp only [expression, StateT.run_bind, hlambda, h, Option.bind_eq_bind, Option.bind_some,
    Bool.false_eq_true, if_false]
  rfl

/-- A literal is a whole text as it is an expression. -/
theorem run_expressionGrammar_text (h : (expression n).run [.text l] = some (e, [])) :
    (expressionGrammar n).run [.text l] = some (e, []) := by
  simp only [expressionGrammar, commaList, StateT.run_bind, h]
  rfl

end Levels

/-- The literal that a text constant is printed as spells that constant. -/
theorem texts_literalOf (hcodes : ∀ n ∈ codes, n < 0x110000) (marked : Bool) (fuel : Nat) :
    texts (fuel + 1) [literalOf codes marked] = pure (.constant (.ofCodes codes marked)) := by
  have hdecode : TextLiteral.decodeText false (literalOf codes marked).body = some codes :=
    decodeEscapes_flatMap_quotedCode (isQuote_quoteFor codes) hcodes
  have hmap : [literalOf codes marked].mapM (fun l => TextLiteral.decodeText l.raw l.body) =
      some [codes] := by
    rw [List.mapM_cons]
    show (TextLiteral.decodeText false (literalOf codes marked).body >>= _) = _
    rw [hdecode]
    rfl
  rw [texts, hmap]
  simp [literalOf]

/-- A quoted text reads as the constant of its code points. -/
theorem readExpr_quotedCodes (hcodes : ∀ n ∈ codes, n < 0x110000) (marked : Bool) :
    readExpr (String.ofList (markLetters marked ++ quotedCodes codes)) =
      .ok (.constant (.ofCodes codes marked)) := by
  have hmem {d : Char} (hd : isPrintable d = false) (hu : d ≠ 'u') :
      d ∉ (String.ofList (markLetters marked ++ quotedCodes codes)).toList := by
    intro hin
    rw [String.toList_ofList] at hin
    rcases List.mem_append.1 hin with hin | hin
    · cases marked with
      | true => exact hu (List.mem_singleton.1 hin)
      | false => cases hin
    · rw [isPrintable_of_mem_quotedCodes hcodes hin] at hd
      cases hd
  obtain ⟨n, hbound⟩ := exists_depthBound_eq (markLetters marked ++ quotedCodes codes)
  have hscan := scan_quotedCodes hcodes marked
  rw [← String.toList_ofList (l := markLetters marked ++ quotedCodes codes)] at hscan
  refine readExpr_of_scan (hmem rfl (by decide)) (hmem rfl (by decide)) hscan ?_
  rw [String.toList_ofList, hbound]
  exact run_expressionGrammar_text <| run_expression_text <| run_disjunction_text <|
    run_bitwiseOr_text <| run_factor_text <| run_atom_text <| texts_literalOf hcodes marked (n + 31)

/-- A text constant is printed as its quoted text. -/
theorem source_str (s : String) (marked : Bool) : (Constant.str s marked).source false =
    String.ofList (markLetters marked ++ quotedCodes (codePoints s)) := by
  cases marked <;> simp [Constant.source, markLetters, quoted]

/-- A text constant with surrogates is printed as its quoted text. -/
theorem source_surrogate (t : SurrogateText) (marked : Bool) :
    (Constant.surrogate t marked).source false =
      String.ofList (markLetters marked ++ quotedCodes t.codes) := by
  cases marked <;> simp [Constant.source, markLetters]

/-- A text constant reads as the constant it is printed from. -/
theorem readExpr_source_str (s : String) (marked : Bool) :
    readExpr ((Constant.str s marked).source false) = .ok (.constant (.str s marked)) := by
  rw [source_str, readExpr_quotedCodes (forall_mem_codePoints_lt s), Constant.ofCodes_codePoints]

/-- A text constant with surrogates reads as the constant it is printed from. -/
theorem readExpr_source_surrogate (t : SurrogateText) (marked : Bool) :
    readExpr ((Constant.surrogate t marked).source false) = .ok (.constant (.surrogate t marked)) := by
  rw [source_surrogate, readExpr_quotedCodes t.bounded, Constant.ofCodes_codes]

/-- A text that begins with no blank has the literal value of what it reads as. -/
theorem literalValue?_of_readExpr {s : String} {e : Expr}
    (hhead : ∀ c ∈ s.toList.head?, c ≠ ' ' ∧ c ≠ '\t') (hread : readExpr s = .ok e) :
    literalValue? s = e.scalar? := by
  have hdrop : s.toList.dropWhile (fun c => c == ' ' || c == '\t') = s.toList := by
    cases hs : s.toList with
    | nil => rfl
    | cons c r =>
      obtain ⟨hspace, htab⟩ := hhead c (by simp [hs])
      simp [hspace, htab]
  unfold literalValue?
  simp only [hdrop, String.ofList_toList, hread]

/-- A quoted text begins with no blank. -/
theorem head?_quotedCodes (codes : List Nat) (marked : Bool) :
    ∀ c ∈ (String.ofList (markLetters marked ++ quotedCodes codes)).toList.head?,
      c ≠ ' ' ∧ c ≠ '\t' := by
  cases marked with
  | true => simp [markLetters]
  | false => rcases isQuote_quoteFor codes with h | h <;> simp [markLetters, quotedCodes, h]

/-- The printed form of a text constant has the text as its literal value. -/
theorem literalValue?_source_str (s : String) (marked : Bool) :
    literalValue? ((Constant.str s marked).source false) = some (.str s) := by
  refine literalValue?_of_readExpr ?_ (readExpr_source_str s marked)
  exact source_str s marked ▸ head?_quotedCodes _ marked

/-- The printed form of a text constant with surrogates has the text as its literal value. -/
theorem literalValue?_source_surrogate (t : SurrogateText) (marked : Bool) :
    literalValue? ((Constant.surrogate t marked).source false) = some (.surrogate t) := by
  refine literalValue?_of_readExpr ?_ (readExpr_source_surrogate t marked)
  exact source_surrogate t marked ▸ head?_quotedCodes _ marked

end RouteAtlas.Syntax
