import Mathlib.Data.List.Basic
import RouteAtlas.Text.CharClass
import RouteAtlas.Text.Digits

/-!
# Numbers read back from their digits

In the bases up to sixteen a number is the one that its digits spell (`ofDigits_toDigits`), and they
begin with zero for zero alone.
-/

namespace RouteAtlas.Text

section Bases

variable {base : Nat}

/-- The character of a digit is read back. -/
theorem digit?_digitChar (hbase : base ≤ 16) {d : Nat} (hd : d < base) :
    digit? base (Nat.digitChar d) = some d := by
  have hvalue : ∀ d < 16, alphanumericValue (Nat.digitChar d) = some d := by decide
  rw [digit?, hvalue d (by omega)]
  exact if_pos (decide_eq_true hd)

/-- The character of a digit is a digit. -/
theorem isDigitIn_digitChar (hbase : base ≤ 16) {d : Nat} (hd : d < base) :
    isDigitIn base (Nat.digitChar d) = true := by
  rw [isDigitIn, digit?_digitChar hbase hd, Option.isSome_some]

/-- One more digit multiplies by the base and adds its value. -/
theorem ofDigits_append_singleton (base : Nat) (cs : List Char) (c : Char) :
    ofDigits base (cs ++ [c]) = ofDigits base cs * base + (digit? base c).getD 0 := by
  simp [ofDigits]

/-- A property of lists of digits that holds of each digit alone and is kept when a digit is put behind
holds of every number's digits. -/
theorem toDigits_induction {P : Nat → List Char → Prop} (hbase : 1 < base)
    (one : ∀ d < base, P d [Nat.digitChar d])
    (more : ∀ n ds, ∀ d < base, 0 < n → P n ds → P (n * base + d) (ds ++ [Nat.digitChar d])) (n : Nat) :
    P n (Nat.toDigits base n) := by
  induction n using Nat.strongRecOn with
  | _ n ih =>
    by_cases hn : n < base
    · rw [Nat.toDigits_of_lt_base hn]
      exact one n hn
    · have hle : base ≤ n := Nat.le_of_not_lt hn
      have hpos : 0 < n / base := Nat.div_pos hle (by omega)
      have hsmaller : n / base < n := Nat.div_lt_self (by omega) hbase
      have hmore := more (n / base) _ (n % base) (Nat.mod_lt n (by omega)) hpos (ih (n / base) hsmaller)
      rwa [Nat.div_add_mod', ← Nat.toDigits_of_base_le hbase hle] at hmore

/-- The digits of a number are read as the number. -/
theorem ofDigits_toDigits (hlow : 1 < base) (hhigh : base ≤ 16) (n : Nat) :
    ofDigits base (Nat.toDigits base n) = n := by
  refine toDigits_induction (P := fun n ds => ofDigits base ds = n) hlow ?_ ?_ n
  · intro d hd
    simp [ofDigits, digit?_digitChar hhigh hd]
  · intro n ds d hd _ ih
    rw [ofDigits_append_singleton, ih, digit?_digitChar hhigh hd, Option.getD_some]

/-- The digits of a number are below the base. -/
theorem exists_digit_of_mem_toDigits (hbase : 1 < base) (n : Nat) :
    ∀ c ∈ Nat.toDigits base n, ∃ d < base, c = Nat.digitChar d := by
  refine toDigits_induction (P := fun _ ds => ∀ c ∈ ds, ∃ d < base, c = Nat.digitChar d) hbase ?_ ?_ n
  · intro d hd
    exact List.forall_mem_singleton.2 ⟨d, hd, rfl⟩
  · intro n ds d hd _ ih
    exact List.forall_mem_append.2 ⟨ih, List.forall_mem_singleton.2 ⟨d, hd, rfl⟩⟩

/-- The first digit of a number other than zero is not zero. -/
theorem head?_toDigits_ne_zero (hlow : 1 < base) (hhigh : base ≤ 16) {n : Nat} (hn : 0 < n) :
    (Nat.toDigits base n).head? ≠ some '0' := by
  have hzero : ∀ d < 16, 0 < d → Nat.digitChar d ≠ '0' := by decide
  refine (toDigits_induction (P := fun n ds => ds ≠ [] ∧ (0 < n → ds.head? ≠ some '0')) hlow ?_ ?_ n).2 hn
  · intro d hd
    exact ⟨List.cons_ne_nil _ _, fun hpos => by simpa using hzero d (by omega) hpos⟩
  · intro n ds d _ hpos ⟨hne, ih⟩
    refine ⟨by simp, fun _ => ?_⟩
    rw [List.head?_append_of_ne_nil ds hne]
    exact ih hpos

/-- Leading zeros do not count. -/
theorem ofDigits_zeros_append (k : Nat) (cs : List Char) :
    ofDigits base (List.replicate k '0' ++ cs) = ofDigits base cs := by
  have hzero : (digit? base '0').getD 0 = 0 := by
    rw [digit?, show alphanumericValue '0' = some 0 from rfl, Option.filter_some]
    split <;> rfl
  induction k with
  | zero => rfl
  | succ k ih =>
    rw [List.replicate_succ, List.cons_append, ← ih, ofDigits, List.foldl_cons, hzero, Nat.zero_mul]
    rfl

end Bases

/-! ## Digits in base sixteen -/

/-- Digits can be printed. -/
theorem isPrintable_digitChar {d : Nat} (h : d < 16) : isPrintable (Nat.digitChar d) = true := by
  revert d
  decide

/-- Padded digits spell the number. -/
theorem ofDigits_hexText (width n : Nat) : ofDigits 16 (hexText width n) = n := by
  rw [hexText, ofDigits_zeros_append, ofDigits_toDigits (by decide) (by decide)]

/-- A hexadecimal text has hexadecimal digits only. -/
theorem exists_digit_of_mem_hexText {width n : Nat} {c : Char} (hc : c ∈ hexText width n) :
    ∃ d < 16, c = Nat.digitChar d := by
  rw [hexText, List.mem_append] at hc
  rcases hc with hc | hc
  · exact ⟨0, by omega, List.eq_of_mem_replicate hc⟩
  · exact exists_digit_of_mem_toDigits (by decide) n c hc

/-- A number that fits into a width is written in it. -/
theorem length_hexText {width n : Nat} (hwidth : 0 < width) (hn : n < Nat.pow 16 width) :
    (hexText width n).length = width := by
  have hle := (Nat.length_toDigits_le_iff (b := 16) (by omega) hwidth).2 hn
  rw [hexText, List.length_append, List.length_replicate]
  omega

/-! ## Digits in base ten -/

/-- A small number has a text. -/
theorem isLongInteger_of_le {n : Nat} (h : n ≤ 1000) : isLongInteger n = false := by
  have hlength : (Nat.toDigits 10 n).length ≤ 4 :=
    (Nat.length_toDigits_le_iff (by decide) (by decide)).2 (by omega)
  have hshort : (Nat.toDigits 10 n).length ≤ maxDecimalDigits :=
    Nat.le_trans hlength (by decide)
  unfold isLongInteger
  rw [Int.natAbs_natCast]
  exact decide_eq_false (Nat.not_lt.2 hshort)

/-- Every digit of a number in base ten is a decimal digit. -/
theorem isAsciiDigit_of_mem_toDigits {n : Nat} {c : Char} (hc : c ∈ Nat.toDigits 10 n) :
    isAsciiDigit c = true := by
  have hall : ∀ d < 10, isAsciiDigit (Nat.digitChar d) = true := by decide
  obtain ⟨d, hd, rfl⟩ := exists_digit_of_mem_toDigits (by decide) n c hc
  exact hall d hd

/-- Zeros at the end multiply by ten. -/
theorem ofDigits_append_zeros (cs : List Char) (k : Nat) :
    ofDigits 10 (cs ++ List.replicate k '0') = ofDigits 10 cs * Nat.pow 10 k := by
  induction k with
  | zero => simp
  | succ k ih =>
    have hpower : Nat.pow 10 (k + 1) = Nat.pow 10 k * 10 := rfl
    rw [List.replicate_succ', ← List.append_assoc, ofDigits_append_singleton, ih, hpower,
      Nat.mul_assoc]
    rfl

end RouteAtlas.Text
