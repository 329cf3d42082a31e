import Mathlib.Data.List.Basic
import RouteAtlas.Text.Utf8

/-!
# Bytes of texts

Decoding undoes encoding and accepts nothing else: `decode_eq_ok_iff` says that bytes are read as a text
exactly if they are the bytes of the text. So bytes that cannot be decoded are those of no text.
-/

namespace RouteAtlas.Text.Utf8

/-! ## The bytes of a text as a list -/

/-- Listing bytes from a place on adds them behind those before. -/
theorem loop_toList (bytes : ByteArray) (i : Nat) (r : List UInt8) :
    ByteArray.toList.loop bytes i r = r.reverse ++ bytes.data.toList.drop i := by
  fun_induction ByteArray.toList.loop bytes i r with
  | case1 i r hi ih =>
    have hget : bytes.data.toList.drop i = bytes.get! i :: bytes.data.toList.drop (i + 1) := by
      rw [List.drop_eq_getElem_cons (by simpa using hi)]
      congr 1
      simp [ByteArray.get!, hi]
    rw [ih, hget, List.reverse_cons, List.append_assoc, List.singleton_append]
  | case2 i r hi =>
    have hsize : bytes.data.toList.length ≤ i := by simpa using hi
    rw [List.drop_eq_nil_of_le hsize, List.append_nil]

/-- The bytes of a text are those of its characters, one after another. -/
theorem toList_toUTF8 (s : String) : s.toUTF8.toList = s.toList.flatMap String.utf8EncodeChar := by
  rw [ByteArray.toList, loop_toList, List.reverse_nil, List.nil_append, List.drop_zero,
    String.toUTF8_eq_toByteArray]
  conv_lhs => rw [← String.ofList_toList (s := s), String.toByteArray_ofList]
  exact List.toList_data_toByteArray

/-! ## Sequences of bytes -/

/-- The character of a code point has that code point. -/
theorem toNat_val_ofNat {n : Nat} (h : n.isValidChar) : (Char.ofNat n).val.toNat = n := by
  unfold Char.ofNat
  rw [dif_pos h]
  rfl

/-- The first byte of a sequence, its size, and the bounds of the second byte. -/
inductive Shape (b : Nat) : Nat × Nat × Nat → Prop
  | one (h : b < 128) : Shape b (1, 0, 0)
  | two (low : 194 ≤ b) (high : b < 224) : Shape b (2, 128, 191)
  | threeFirst (h : b = 224) : Shape b (3, 160, 191)
  | threeBelow (h : b = 237) : Shape b (3, 128, 159)
  | three (low : 225 ≤ b) (high : b < 240) (h : b ≠ 237) : Shape b (3, 128, 191)
  | fourFirst (h : b = 240) : Shape b (4, 144, 191)
  | four (low : 241 ≤ b) (high : b < 244) : Shape b (4, 128, 191)
  | fourLast (h : b = 244) : Shape b (4, 128, 143)

/-- The test for a first byte finds exactly the shapes of sequences. -/
theorem shape?_eq_some_iff {b : Nat} {s : Nat × Nat × Nat} : shape? b = some s ↔ Shape b s := by
  constructor
  · intro h
    unfold shape? at h
    split_ifs at h <;> cases h
    · exact .one (by omega)
    · exact .two (by omega) (by omega)
    · exact .threeFirst (by omega)
    · exact .threeBelow (by omega)
    · exact .three (by omega) (by omega) (by omega)
    · exact .fourFirst (by omega)
    · exact .four (by omega) (by omega)
    · exact .fourLast (by omega)
  · intro h
    unfold shape?
    cases h <;> grind

/-- A sequence has four bytes if it has no fewer. -/
theorem Shape.size_eq_four {b size low high : Nat} (h : Shape b (size, low, high)) (h₁ : size ≠ 1)
    (h₂ : size ≠ 2) (h₃ : size ≠ 3) : size = 4 := by
  cases h <;> first | rfl | contradiction

/-- The test for a later byte finds exactly those. -/
theorem isTail_iff {n : Nat} : isTail n = true ↔ 128 ≤ n ∧ n ≤ 191 := by
  simp [isTail]

section Sequence

variable {b b₂ b₃ b₄ : UInt8} {size low high : Nat}

/-- A single byte is the encoding of what it is decoded to. -/
theorem encode_one (h : Shape b.toNat (1, low, high)) :
    String.utf8EncodeChar (Char.ofNat b.toNat) = [b] := by
  cases h with
  | one h =>
    have hvalid : b.toNat.isValidChar := Or.inl (by omega)
    unfold String.utf8EncodeChar
    simp only [toNat_val_ofNat hvalid]
    rw [if_pos (by omega), UInt8.ofNat_toNat]

/-- Two bytes are the encoding of what they are decoded to. -/
theorem encode_two (h : Shape b.toNat (2, low, high)) (h₂ : low ≤ b₂.toNat ∧ b₂.toNat ≤ high) :
    String.utf8EncodeChar (Char.ofNat ((b.toNat - 0xc0) * 64 + (b₂.toNat - 0x80))) = [b, b₂] := by
  cases h with
  | two =>
    generalize hn : (b.toNat - 0xc0) * 64 + (b₂.toNat - 0x80) = n
    have hvalid : n.isValidChar := Or.inl (by omega)
    have hfirst : n / 64 % 32 + 192 = b.toNat := by omega
    have hsecond : n % 64 + 128 = b₂.toNat := by omega
    unfold String.utf8EncodeChar
    simp only [toNat_val_ofNat hvalid]
    rw [if_neg (by omega), if_pos (by omega), hfirst, hsecond, UInt8.ofNat_toNat, UInt8.ofNat_toNat]

/-- A code point of four hexadecimal digits that is no surrogate. -/
theorem encode_three (h : Shape b.toNat (3, low, high)) (h₂ : low ≤ b₂.toNat ∧ b₂.toNat ≤ high)
    (h₃ : isTail b₃.toNat = true) :
    String.utf8EncodeChar (Char.ofNat ((b.toNat - 0xe0) * 4096 + (b₂.toNat - 0x80) * 64 +
      (b₃.toNat - 0x80))) = [b, b₂, b₃] := by
  rw [isTail_iff] at h₃
  generalize hn : (b.toNat - 0xe0) * 4096 + (b₂.toNat - 0x80) * 64 + (b₃.toNat - 0x80) = n
  obtain ⟨hvalid, hlow, hhigh, htail⟩ :
      n.isValidChar ∧ 2047 < n ∧ n ≤ 65535 ∧ 128 ≤ b₂.toNat ∧ b₂.toNat ≤ 191 ∧ 224 ≤ b.toNat := by
    unfold Nat.isValidChar
    cases h <;> omega
  have hfirst : n / 4096 % 16 + 224 = b.toNat := by omega
  have hsecond : n / 64 % 64 + 128 = b₂.toNat := by omega
  have hthird : n % 64 + 128 = b₃.toNat := by omega
  unfold String.utf8EncodeChar
  simp only [toNat_val_ofNat hvalid]
  rw [if_neg (by omega), if_neg (by omega), if_pos (by omega), hfirst, hsecond, hthird]
  simp only [UInt8.ofNat_toNat]

/-- Four bytes are the encoding of what they are decoded to. -/
theorem encode_four (h : Shape b.toNat (4, low, high)) (h₂ : low ≤ b₂.toNat ∧ b₂.toNat ≤ high)
    (h₃ : isTail b₃.toNat = true) (h₄ : isTail b₄.toNat = true) :
    String.utf8EncodeChar (Char.ofNat ((b.toNat - 0xf0) * 262144 + (b₂.toNat - 0x80) * 4096 +
      (b₃.toNat - 0x80) * 64 + (b₄.toNat - 0x80))) = [b, b₂, b₃, b₄] := by
  rw [isTail_iff] at h₃ h₄
  generalize hn : (b.toNat - 0xf0) * 262144 + (b₂.toNat - 0x80) * 4096 + (b₃.toNat - 0x80) * 64 +
    (b₄.toNat - 0x80) = n
  obtain ⟨hvalid, hlow, htail⟩ :
      n.isValidChar ∧ 65535 < n ∧ 128 ≤ b₂.toNat ∧ b₂.toNat ≤ 191 ∧ 240 ≤ b.toNat ∧ b.toNat ≤ 244 := by
    unfold Nat.isValidChar
    cases h <;> omega
  have hfirst : n / 262144 % 8 + 240 = b.toNat := by omega
  have hsecond : n / 4096 % 64 + 128 = b₂.toNat := by omega
  have hthird : n / 64 % 64 + 128 = b₃.toNat := by omega
  have hfourth : n % 64 + 128 = b₄.toNat := by omega
  unfold String.utf8EncodeChar
  simp only [toNat_val_ofNat hvalid]
  rw [if_neg (by omega), if_neg (by omega), if_neg (by omega), hfirst, hsecond, hthird, hfourth]
  simp only [UInt8.ofNat_toNat]

end Sequence

/-! ## Texts -/

/-- What is decoded stands behind the characters before it, and the bytes are those of it. -/
theorem bytes_of_decodeFrom {pos : Nat} {done cs : List Char} {bytes : List UInt8}
    (h : decodeFrom pos done bytes = .ok cs) :
    ∃ new, cs = done.reverse ++ new ∧ bytes = new.flatMap String.utf8EncodeChar := by
  have hstep {c : Char} {done : List Char} {front back : List UInt8}
      (hc : String.utf8EncodeChar c = front) (ih : ∃ new, cs = (c :: done).reverse ++ new ∧
        back = new.flatMap String.utf8EncodeChar) :
      ∃ new, cs = done.reverse ++ new ∧ front ++ back = new.flatMap String.utf8EncodeChar := by
    obtain ⟨new, rfl, rfl⟩ := ih
    exact ⟨c :: new, by rw [List.reverse_cons, List.append_assoc, List.singleton_append],
      by rw [List.flatMap_cons, hc]⟩
  fun_induction decodeFrom pos done bytes with
  | case1 pos done => exact ⟨[], by rw [List.append_nil, Except.ok.inj h], rfl⟩
  | case3 pos done b r low high hshape ih =>
    exact hstep (encode_one (shape?_eq_some_iff.1 hshape)) (ih h)
  | case6 pos done b low high b₂ r h₂ _ hshape ih =>
    exact hstep (encode_two (shape?_eq_some_iff.1 hshape) (by omega)) (ih h)
  | case9 pos done b low high b₂ h₂ b₃ r h₃ _ hshape _ ih =>
    exact hstep (encode_three (shape?_eq_some_iff.1 hshape) (by omega) (by simpa using h₃)) (ih h)
  | case12 pos done b size low high h₁ hshape b₂ h₂ htwo b₃ h₃ hthree b₄ r h₄ ih =>
    have hshape' := shape?_eq_some_iff.1 hshape
    obtain rfl := hshape'.size_eq_four h₁ htwo hthree
    exact hstep (encode_four hshape' (by omega) (by simpa using h₃) (by simpa using h₄)) (ih h)
  | _ => cases h

section Code

variable {n : Nat} (pos : Nat) (done : List Char) (bytes : List UInt8)

/-- A small number is a byte. -/
theorem toNat_ofNat_byte {m : Nat} (h : m < 256) : (UInt8.ofNat m).toNat = m := by
  simpa using Nat.mod_eq_of_lt h

/-- A single byte is decoded. -/
theorem decodeFrom_one (h : n < 128) :
    decodeFrom pos done (UInt8.ofNat n :: bytes) = decodeFrom (pos + 1) (Char.ofNat n :: done) bytes := by
  have hshape := shape?_eq_some_iff.2 (Shape.one h)
  simp only [decodeFrom, toNat_ofNat_byte (show n < 256 by omega), hshape]

/-- Two bytes are decoded together. -/
theorem decodeFrom_two (hlow : 128 ≤ n) (hhigh : n < 2048) :
    decodeFrom pos done (UInt8.ofNat (n / 64 % 32 + 192) :: UInt8.ofNat (n % 64 + 128) :: bytes) =
      decodeFrom (pos + 2) (Char.ofNat n :: done) bytes := by
  have hfirst : n / 64 % 32 + 192 = n / 64 + 192 := by omega
  have hshape := shape?_eq_some_iff.2 (Shape.two (b := n / 64 + 192) (by omega) (by omega))
  have htail : ¬ (n % 64 + 128 < 128 ∨ 191 < n % 64 + 128) := by omega
  have hvalue : (n / 64 + 192 - 192) * 64 + (n % 64 + 128 - 128) = n := by omega
  simp only [decodeFrom, hfirst, toNat_ofNat_byte (show n / 64 + 192 < 256 by omega),
    toNat_ofNat_byte (show n % 64 + 128 < 256 by omega), hshape, if_neg htail, hvalue]
  rfl

/-- A code point of four hexadecimal digits that is no surrogate. -/
theorem decodeFrom_three (hlow : 2048 ≤ n) (hhigh : n < 65536)
    (hsurrogate : n < 0xd800 ∨ 0xdfff < n) :
    decodeFrom pos done (UInt8.ofNat (n / 4096 % 16 + 224) :: UInt8.ofNat (n / 64 % 64 + 128) ::
        UInt8.ofNat (n % 64 + 128) :: bytes) =
      decodeFrom (pos + 3) (Char.ofNat n :: done) bytes := by
  have hfirst : n / 4096 % 16 + 224 = n / 4096 + 224 := by omega
  -- the bounds of the second byte leave out spellings that are too long, and surrogates
  obtain ⟨low, high, hshape, hsecond⟩ : ∃ low high, Shape (n / 4096 + 224) (3, low, high) ∧
      ¬ (n / 64 % 64 + 128 < low ∨ high < n / 64 % 64 + 128) := by
    by_cases hzero : n / 4096 = 0
    · exact ⟨_, _, .threeFirst (by omega), by omega⟩
    · by_cases hthirteen : n / 4096 = 13
      · exact ⟨_, _, .threeBelow (by omega), by omega⟩
      · exact ⟨_, _, .three (by omega) (by omega) (by omega), by omega⟩
  have hthird : isTail (n % 64 + 128) = true := isTail_iff.2 (by omega)
  have hvalue : (n / 4096 + 224 - 224) * 4096 + (n / 64 % 64 + 128 - 128) * 64 +
      (n % 64 + 128 - 128) = n := by omega
  simp only [decodeFrom, hfirst, toNat_ofNat_byte (show n / 4096 + 224 < 256 by omega),
    toNat_ofNat_byte (show n / 64 % 64 + 128 < 256 by omega),
    toNat_ofNat_byte (show n % 64 + 128 < 256 by omega), shape?_eq_some_iff.2 hshape, if_neg hsecond,
    hthird, hvalue]
  rfl

/-- Four bytes are decoded together. -/
theorem decodeFrom_four (hlow : 65536 ≤ n) (hhigh : n < 0x110000) :
    decodeFrom pos done (UInt8.ofNat (n / 262144 % 8 + 240) :: UInt8.ofNat (n / 4096 % 64 + 128) ::
        UInt8.ofNat (n / 64 % 64 + 128) :: UInt8.ofNat (n % 64 + 128) :: bytes) =
      decodeFrom (pos + 4) (Char.ofNat n :: done) bytes := by
  have hfirst : n / 262144 % 8 + 240 = n / 262144 + 240 := by omega
  obtain ⟨low, high, hshape, hsecond⟩ : ∃ low high, Shape (n / 262144 + 240) (4, low, high) ∧
      ¬ (n / 4096 % 64 + 128 < low ∨ high < n / 4096 % 64 + 128) := by
    by_cases hzero : n / 262144 = 0
    · exact ⟨_, _, .fourFirst (by omega), by omega⟩
    · by_cases hlast : n / 262144 = 4
      · exact ⟨_, _, .fourLast (by omega), by omega⟩
      · exact ⟨_, _, .four (by omega) (by omega), by omega⟩
  have hthird : isTail (n / 64 % 64 + 128) = true := isTail_iff.2 (by omega)
  have hfourth : isTail (n % 64 + 128) = true := isTail_iff.2 (by omega)
  have hvalue : (n / 262144 + 240 - 240) * 262144 + (n / 4096 % 64 + 128 - 128) * 4096 +
      (n / 64 % 64 + 128 - 128) * 64 + (n % 64 + 128 - 128) = n := by omega
  simp only [decodeFrom, hfirst, toNat_ofNat_byte (show n / 262144 + 240 < 256 by omega),
    toNat_ofNat_byte (show n / 4096 % 64 + 128 < 256 by omega),
    toNat_ofNat_byte (show n / 64 % 64 + 128 < 256 by omega),
    toNat_ofNat_byte (show n % 64 + 128 < 256 by omega), shape?_eq_some_iff.2 hshape, if_neg hsecond,
    hthird, hfourth, hvalue]
  rfl

end Code

/-- The bytes of a character are decoded to it. -/
theorem decodeFrom_utf8EncodeChar_append (pos : Nat) (done : List Char) (c : Char)
    (bytes : List UInt8) :
    decodeFrom pos done (String.utf8EncodeChar c ++ bytes) =
      decodeFrom (pos + c.utf8Size) (c :: done) bytes := by
  have hc : Char.ofNat c.val.toNat = c := Char.ofNat_toNat c
  have hvalid : c.val.toNat < 0xd800 ∨ 0xdfff < c.val.toNat ∧ c.val.toNat < 0x110000 := c.valid
  rw [← String.length_utf8EncodeChar]
  unfold String.utf8EncodeChar
  generalize c.val.toNat = n at hc hvalid
  subst hc
  dsimp only
  split_ifs with h₁ h₂ h₃
  · exact decodeFrom_one pos done bytes (by omega)
  · exact decodeFrom_two pos done bytes (by omega) (by omega)
  · exact decodeFrom_three pos done bytes (by omega) (by omega) (by omega)
  · exact decodeFrom_four pos done bytes (by omega) (by omega)

/-- Encoded characters are decoded one after the other. -/
theorem decodeFrom_flatMap (pos : Nat) (done cs : List Char) :
    decodeFrom pos done (cs.flatMap String.utf8EncodeChar) = .ok (done.reverse ++ cs) := by
  induction cs generalizing pos done with
  | nil => rw [List.flatMap_nil, decodeFrom, List.append_nil]
  | cons c cs ih =>
    rw [List.flatMap_cons, decodeFrom_utf8EncodeChar_append, ih, List.reverse_cons,
      List.append_assoc, List.singleton_append]

/-- Bytes are read as a text exactly if they are its bytes. -/
theorem decode_eq_ok_iff {bytes : List UInt8} {s : String} :
    decode bytes = .ok s ↔ s.toUTF8.toList = bytes := by
  rw [toList_toUTF8]
  unfold decode
  constructor
  · intro h
    cases hcs : decodeFrom 0 [] bytes with
    | error e =>
      rw [hcs] at h
      cases h
    | ok cs =>
      rw [hcs] at h
      obtain ⟨new, rfl, rfl⟩ := bytes_of_decodeFrom hcs
      obtain rfl := Except.ok.inj h
      rw [String.toList_ofList]
  · rintro rfl
    rw [decodeFrom_flatMap, List.reverse_nil, List.nil_append]
    exact congrArg Except.ok String.ofList_toList

/-- Bytes cannot be read exactly if they are those of no text. -/
theorem exists_decode_eq_error_iff {bytes : List UInt8} :
    (∃ e, decode bytes = .error e) ↔ ∀ s : String, s.toUTF8.toList ≠ bytes := by
  cases h : decode bytes with
  | error e =>
    refine iff_of_true ⟨e, rfl⟩ fun s hs => ?_
    cases h.symm.trans (decode_eq_ok_iff.2 hs)
  | ok s =>
    exact iff_of_false (fun ⟨_, he⟩ => nomatch he) fun hnone => hnone s (decode_eq_ok_iff.1 h)

end RouteAtlas.Text.Utf8
