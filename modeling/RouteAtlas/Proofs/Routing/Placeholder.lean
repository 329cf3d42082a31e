import Mathlib.Data.List.TakeWhile
import RouteAtlas.Routing.RoutePath

/-!
# Placeholders in declared paths

`HasPlaceholder path name` says that `{name}` or `{name:converter}` occurs in the path. Placeholders do
not overlap, so cutting a path from the left finds all of them (`mem_placeholderNames_iff`), and they
stand inside segments, so a joined path holds those of its parts (`hasPlaceholder_joinPath`).
-/

namespace RouteAtlas.Routing

open RouteAtlas.Text

/-- A word as a name or a converter is one. -/
def IsWord (cs : List Char) : Prop := cs ≠ [] ∧ ∀ c ∈ cs, isWordChar c = true

/-- The second text is a placeholder of this name. -/
inductive IsPlaceholder (name : List Char) : List Char → Prop
  | plain (h : IsWord name) : IsPlaceholder name ('\x7b' :: (name ++ ['\x7d']))
  | converted {converter : List Char} (h : IsWord name) (hc : IsWord converter) :
      IsPlaceholder name ('\x7b' :: (name ++ ':' :: (converter ++ ['\x7d'])))

/-- A placeholder of this name stands somewhere in the text. -/
def Occurs (name cs : List Char) : Prop :=
  ∃ before text after, IsPlaceholder name text ∧ cs = before ++ (text ++ after)

/-- A placeholder of this name, with a converter or without, stands in the path. -/
def HasPlaceholder (path name : String) : Prop := Occurs name.toList path.toList

/-! ## The text of a placeholder -/

/-- A character of words is none that is not. -/
theorem isWordChar_ne {c d : Char} (hc : isWordChar c = true) (hd : isWordChar d = false) : c ≠ d := by
  rintro rfl
  rw [hc] at hd
  cases hd

/-- A word ends before a character that is not of words. -/
theorem takeWhile_word_append {cs : List Char} (h : IsWord cs) {d : Char}
    (hd : isWordChar d = false) (r : List Char) : (cs ++ d :: r).takeWhile isWordChar = cs := by
  rw [List.takeWhile_append_of_pos h.2, List.takeWhile_cons_of_neg (by simp [hd]), List.append_nil]

/-- A run of word characters, if there is one, is a word in front of the rest. -/
theorem isWord_takeWhile {cs : List Char} (h : (cs.takeWhile isWordChar).isEmpty = false) :
    IsWord (cs.takeWhile isWordChar) := by
  refine ⟨fun he => ?_, fun _ => List.mem_takeWhile_imp⟩
  rw [he] at h
  cases h

/-- A text is its leading word and what is left. -/
theorem takeWhile_append_drop (cs : List Char) :
    cs.takeWhile isWordChar ++ cs.drop (cs.takeWhile isWordChar).length = cs :=
  List.prefix_iff_eq_append.1 (List.takeWhile_prefix isWordChar)

/-- A placeholder is read off the start of a text exactly if one stands there. -/
theorem placeholder?_eq_some_iff {cs name r : List Char} :
    placeholder? cs = some (name, r) ↔ ∃ text, IsPlaceholder name text ∧ cs = text ++ r := by
  constructor
  · intro h
    unfold placeholder? at h
    split at h
    · next rest =>
      have hrest := takeWhile_append_drop rest
      dsimp only at h
      split at h
      · next t ht =>
        split at h
        · cases h
        next hname =>
        obtain ⟨rfl, rfl⟩ := Prod.mk.inj (Option.some.inj h)
        have hname := isWord_takeWhile (Bool.eq_false_iff.2 hname)
        split at ht
        · next u hu =>
          split at ht
          · cases ht
          next hconverter =>
          have hconverter := isWord_takeWhile (Bool.eq_false_iff.2 hconverter)
          refine ⟨_, .converted hname hconverter, ?_⟩
          have hu' := takeWhile_append_drop u
          rw [Option.some.inj ht] at hu'
          rw [hu, ← hu'] at hrest
          exact (congrArg ('\x7b' :: ·) hrest.symm).trans (by simp)
        · next u hne =>
          refine ⟨_, .plain hname, ?_⟩
          rw [Option.some.inj ht] at hrest
          exact (congrArg ('\x7b' :: ·) hrest.symm).trans (by simp)
      · cases h
    · cases h
  · rintro ⟨text, h, rfl⟩
    cases h with
    | plain h =>
      have htake : (name ++ '\x7d' :: r).takeWhile isWordChar = name := takeWhile_word_append h rfl r
      have hne : name.isEmpty = false := by simpa using h.1
      simp [placeholder?, htake, hne]
    | @converted converter h hc =>
      have htake : (name ++ ':' :: (converter ++ '\x7d' :: r)).takeWhile isWordChar = name :=
        takeWhile_word_append h rfl _
      have htake' : (converter ++ '\x7d' :: r).takeWhile isWordChar = converter :=
        takeWhile_word_append hc rfl r
      have hne : name.isEmpty = false := by simpa using h.1
      have hne' : converter.isEmpty = false := by simpa using hc.1
      simp [placeholder?, htake, htake', hne, hne']

/-- Behind its first character a placeholder has no brace that opens and no slash. -/
theorem IsPlaceholder.exists_tail {name text : List Char} (h : IsPlaceholder name text) :
    ∃ tail, text = '\x7b' :: tail ∧ ∀ c ∈ tail, c ≠ '\x7b' ∧ c ≠ '/' := by
  have hword {cs : List Char} (h : IsWord cs) : ∀ c ∈ cs, c ≠ '\x7b' ∧ c ≠ '/' := fun c hc =>
    ⟨isWordChar_ne (h.2 c hc) rfl, isWordChar_ne (h.2 c hc) rfl⟩
  cases h with
  | plain h =>
    refine ⟨_, rfl, fun c hc => ?_⟩
    rcases List.mem_append.1 hc with hc | hc
    · exact hword h c hc
    · rw [List.mem_singleton.1 hc]
      decide
  | converted h hconverter =>
    refine ⟨_, rfl, fun c hc => ?_⟩
    rcases List.mem_append.1 hc with hc | hc
    · exact hword h c hc
    rcases List.mem_cons.1 hc with rfl | hc
    · decide
    rcases List.mem_append.1 hc with hc | hc
    · exact hword hconverter c hc
    · rw [List.mem_singleton.1 hc]
      decide

/-! ## Occurrences -/

section Occurs

variable {name : List Char}

/-- A placeholder occurs at the start of a text or behind it. -/
theorem occurs_cons_iff {c : Char} {r : List Char} :
    Occurs name (c :: r) ↔
      (∃ text after, IsPlaceholder name text ∧ c :: r = text ++ after) ∨ Occurs name r := by
  constructor
  · rintro ⟨before, text, after, h, he⟩
    cases before with
    | nil => exact Or.inl ⟨text, after, h, he⟩
    | cons d before => exact Or.inr ⟨before, text, after, h, (List.cons.inj he).2⟩
  · rintro (⟨text, after, h, he⟩ | ⟨before, text, after, h, he⟩)
    · exact ⟨[], text, after, h, he⟩
    · exact ⟨c :: before, text, after, h, by rw [he]; rfl⟩

/-- No placeholder occurs in nothing. -/
theorem not_occurs_nil : ¬ Occurs name [] := by
  rintro ⟨before, text, after, h, he⟩
  obtain ⟨tail, rfl, _⟩ := h.exists_tail
  simp at he

/-- No placeholder starts among characters that are no opening brace. -/
theorem occurs_append_iff {cs r : List Char} (h : ∀ c ∈ cs, c ≠ '\x7b') :
    Occurs name (cs ++ r) ↔ Occurs name r := by
  induction cs with
  | nil => rfl
  | cons c cs ih =>
    rw [List.cons_append, occurs_cons_iff, ih fun d hd => h d (List.mem_cons_of_mem c hd)]
    refine or_iff_right ?_
    rintro ⟨text, after, ht, he⟩
    obtain ⟨tail, rfl, _⟩ := ht.exists_tail
    exact h c List.mem_cons_self (List.cons.inj he).1

/-- Cutting a text from the left finds the placeholders that occur in it. -/
theorem mem_cutPlaceholders_iff {fuel : Nat} {cs : List Char} (hf : cs.length < fuel) :
    .inr name ∈ cutPlaceholders fuel cs ↔ Occurs name cs := by
  induction fuel generalizing cs with
  | zero => omega
  | succ fuel ih =>
    unfold cutPlaceholders
    split
    · next found r hfound =>
      obtain ⟨text, htext, rfl⟩ := placeholder?_eq_some_iff.1 hfound
      obtain ⟨tail, rfl, htail⟩ := htext.exists_tail
      have hlength : r.length < fuel := by
        simp only [List.cons_append, List.length_cons, List.length_append] at hf
        omega
      -- the placeholder that is cut off holds no brace but its first, so no other starts inside it
      rw [List.mem_cons, ih hlength, List.cons_append, occurs_cons_iff,
        occurs_append_iff fun c hc => (htail c hc).1]
      refine or_congr_left ?_
      constructor
      · rintro ⟨⟩
        exact ⟨_, r, htext, rfl⟩
      · rintro ⟨text, after, h, he⟩
        have hother := placeholder?_eq_some_iff.2 ⟨text, h, he⟩
        rw [List.cons_append, hother] at hfound
        rw [(Prod.mk.inj (Option.some.inj hfound)).1]
    · next c r hnone =>
      have hlength : r.length < fuel := by
        simp only [List.length_cons] at hf
        omega
      rw [List.mem_cons, ih hlength, occurs_cons_iff, or_iff_right nofun, or_iff_right]
      rintro ⟨text, after, h, he⟩
      rw [placeholder?_eq_some_iff.2 ⟨text, h, he⟩] at hnone
      cases hnone
    · simp [not_occurs_nil]

end Occurs

/-- The names read off a declared path are those of its placeholders. -/
theorem mem_placeholderNames_iff {path name : String} :
    name ∈ placeholderNames path ↔ HasPlaceholder path name := by
  unfold HasPlaceholder
  rw [← mem_cutPlaceholders_iff (Nat.lt_succ_self _)]
  unfold placeholderNames
  rw [List.mem_filterMap]
  constructor
  · rintro ⟨piece, hpiece, he⟩
    cases piece with
    | inl c => cases he
    | inr found =>
      obtain rfl := Option.some.inj he
      rwa [String.toList_ofList]
  · intro h
    exact ⟨.inr name.toList, h, congrArg some String.ofList_toList⟩

instance (path name : String) : Decidable (HasPlaceholder path name) :=
  decidable_of_iff (name ∈ placeholderNames path) mem_placeholderNames_iff

/-! ## Joined paths -/

section Joined

variable {name : List Char}

/-- No placeholder stands on both sides of a slash. -/
theorem occurs_append_slash_iff {xs ys : List Char} :
    Occurs name (xs ++ '/' :: ys) ↔ Occurs name xs ∨ Occurs name ys := by
  constructor
  · rintro ⟨before, text, after, h, he⟩
    have hslash : '/' ∉ text := by
      obtain ⟨tail, rfl, htail⟩ := h.exists_tail
      intro hmem
      rcases List.mem_cons.1 hmem with he | hmem
      · revert he
        decide
      · exact (htail _ hmem).2 rfl
    -- the placeholder starts after the slash, or before it and then ends before it
    rcases List.append_eq_append_iff.1 he with ⟨more, rfl, hys⟩ | ⟨more, rfl, hrest⟩
    · cases more with
      | nil =>
        obtain ⟨tail, rfl, _⟩ := h.exists_tail
        exact absurd (List.cons.inj hys).1 (by decide)
      | cons d more => exact Or.inr ⟨more, text, after, h, (List.cons.inj hys).2⟩
    · refine Or.inl ?_
      rcases List.append_eq_append_iff.1 hrest with ⟨rest, rfl, _⟩ | ⟨rest, rfl, hys⟩
      · exact ⟨before, text, rest, h, rfl⟩
      · cases rest with
        | nil => exact ⟨before, more ++ [], [], h, by simp⟩
        | cons d rest =>
          rw [← (List.cons.inj hys).1] at hslash
          exact absurd (List.mem_append_right _ List.mem_cons_self) hslash
  · rintro (⟨before, text, after, h, rfl⟩ | ⟨before, text, after, h, rfl⟩)
    · exact ⟨before, text, after ++ '/' :: ys, h, by simp⟩
    · exact ⟨xs ++ '/' :: before, text, after, h, by simp⟩

/-- A placeholder occurs in a path if it does in a segment. -/
theorem occurs_intercalate_iff {parts : List (List Char)} :
    Occurs name (['/'].intercalate parts) ↔ ∃ part ∈ parts, Occurs name part := by
  induction parts with
  | nil => simp [not_occurs_nil]
  | cons part parts ih =>
    cases parts with
    | nil => simp
    | cons next parts =>
      rw [List.intercalate_cons_cons, List.append_assoc, List.singleton_append,
        occurs_append_slash_iff, ih]
      simp

end Joined

/-- The placeholders of a path are those of its segments. -/
theorem hasPlaceholder_iff_segments (path name : String) :
    HasPlaceholder path name ↔ ∃ segment ∈ segments path, HasPlaceholder segment name := by
  have hparts : Occurs name.toList path.toList ↔
      ∃ part ∈ path.toList.splitOn '/', Occurs name.toList part := by
    rw [← occurs_intercalate_iff, List.intercalate_splitOn]
  unfold HasPlaceholder segments splitAt
  rw [hparts]
  constructor
  · rintro ⟨part, hpart, h⟩
    refine ⟨String.ofList part, ?_, by rwa [String.toList_ofList]⟩
    refine List.mem_filter.2 ⟨List.mem_map_of_mem hpart, ?_⟩
    have hne : String.ofList part ≠ "" := by
      intro he
      have hnil : part = [] := by simpa using congrArg String.toList he
      exact not_occurs_nil (hnil ▸ h)
    simpa using hne
  · rintro ⟨segment, hsegment, h⟩
    obtain ⟨part, hpart, rfl⟩ := List.mem_map.1 (List.mem_filter.1 hsegment).1
    exact ⟨part, hpart, by rwa [String.toList_ofList] at h⟩

/-- A written path has the placeholders of its segments. -/
theorem hasPlaceholder_pathOf_iff {parts : List String} {name : String} :
    HasPlaceholder (pathOf parts) name ↔ ∃ part ∈ parts, HasPlaceholder part name := by
  unfold HasPlaceholder pathOf
  rw [String.toList_append, String.toList_intercalate]
  show Occurs name.toList ([] ++ '/' :: ['/'].intercalate (parts.map String.toList)) ↔ _
  rw [occurs_append_slash_iff, occurs_intercalate_iff, or_iff_right not_occurs_nil]
  simp

/-- A joined path holds the placeholders of its two parts. -/
theorem hasPlaceholder_joinPath {start route name : String} :
    HasPlaceholder (joinPath start route) name ↔
      HasPlaceholder start name ∨ HasPlaceholder route name := by
  unfold joinPath
  rw [hasPlaceholder_pathOf_iff, hasPlaceholder_iff_segments start, hasPlaceholder_iff_segments route]
  simp only [List.mem_append, or_and_right, exists_or]

end RouteAtlas.Routing
