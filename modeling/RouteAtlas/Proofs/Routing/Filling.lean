import Mathlib.Data.List.Forall2
import RouteAtlas.Proofs.Routing.Placeholder
import RouteAtlas.Proofs.Routing.Segments

/-!
# Filling in declared paths

`IsFilling declared filled` says that the second path is the first one with a non-empty text without
slashes for each placeholder. A route is matched segment by segment, and a segment that begins with a
placeholder accepts every text. So a route accepts all fillings of its declared path exactly if every
placeholder is reached by such a segment (`pathMatches_fillings_iff`), and nothing else exactly if such
a segment is one placeholder (`fillings_of_pathMatches_iff`).
-/

namespace RouteAtlas.Routing

open RouteAtlas.Text

/-! ## Texts that start with a placeholder -/

/-- A placeholder stands at the start of the text. -/
def StartsPlaceholder (cs : List Char) : Prop :=
  ∃ name text after, IsPlaceholder name text ∧ cs = text ++ after

/-- The name of a placeholder is a word. -/
theorem IsPlaceholder.isWord {name text : List Char} (h : IsPlaceholder name text) : IsWord name := by
  cases h with
  | plain h => exact h
  | converted h _ => exact h

/-- No slash stands in a placeholder. -/
theorem IsPlaceholder.not_mem_slash {name text : List Char} (h : IsPlaceholder name text) :
    '/' ∉ text := by
  obtain ⟨tail, rfl, htail⟩ := h.exists_tail
  intro hslash
  rcases List.mem_cons.1 hslash with he | hslash
  · exact absurd he (by decide)
  · exact (htail '/' hslash).2 rfl

/-- Nothing is read where no placeholder starts. -/
theorem placeholder?_eq_none_iff {cs : List Char} :
    placeholder? cs = none ↔ ¬ StartsPlaceholder cs := by
  rw [Option.eq_none_iff_forall_ne_some]
  constructor
  · rintro h ⟨name, text, after, htext, rfl⟩
    exact h (name, after) (placeholder?_eq_some_iff.2 ⟨text, htext, rfl⟩)
  · rintro h ⟨name, after⟩ hsome
    obtain ⟨text, htext, rfl⟩ := placeholder?_eq_some_iff.1 hsome
    exact h ⟨name, text, after, htext, rfl⟩

instance (cs : List Char) : Decidable (StartsPlaceholder cs) :=
  decidable_of_iff (placeholder? cs ≠ none) (not_iff_comm.1 placeholder?_eq_none_iff.symm)

/-- A text without slashes that starts a text stands in front of its first slash. -/
theorem exists_of_append_eq_append_slash {text after xs ys : List Char} (hslash : '/' ∉ text)
    (h : text ++ after = xs ++ '/' :: ys) :
    ∃ rest, xs = text ++ rest ∧ after = rest ++ '/' :: ys := by
  rcases List.append_eq_append_iff.1 h with ⟨rest, rfl, hrest⟩ | ⟨rest, rfl, hrest⟩
  · exact ⟨rest, rfl, hrest⟩
  · cases rest with
    | nil => exact ⟨[], by simp, hrest.symm⟩
    | cons c rest =>
      rw [← (List.cons.inj hrest).1] at hslash
      exact absurd (List.mem_append_right xs List.mem_cons_self) hslash

/-- A slash ends a placeholder that starts before it. -/
theorem startsPlaceholder_append_slash_iff {xs ys : List Char} :
    StartsPlaceholder (xs ++ '/' :: ys) ↔ StartsPlaceholder xs := by
  constructor
  · rintro ⟨name, text, after, htext, he⟩
    obtain ⟨rest, rfl, _⟩ := exists_of_append_eq_append_slash htext.not_mem_slash he.symm
    exact ⟨name, text, rest, htext, rfl⟩
  · rintro ⟨name, text, after, htext, rfl⟩
    exact ⟨name, text, after ++ '/' :: ys, htext, List.append_assoc text after _⟩

/-- A placeholder starts with a brace. -/
theorem not_startsPlaceholder_of_ne {c : Char} (h : c ≠ '\x7b') (r : List Char) :
    ¬ StartsPlaceholder (c :: r) := by
  rintro ⟨name, text, after, htext, he⟩
  obtain ⟨tail, rfl, _⟩ := htext.exists_tail
  exact h (List.cons.inj he).1

/-- A text is read from the left, placeholder by placeholder and character by character. -/
theorem placeholder_induction {P : List Char → Prop} (nil : P [])
    (hole : ∀ name text r, IsPlaceholder name text → P r → P (text ++ r))
    (char : ∀ c r, ¬ StartsPlaceholder (c :: r) → P r → P (c :: r)) (cs : List Char) : P cs := by
  induction hn : cs.length using Nat.strongRecOn generalizing cs with
  | ind n ih =>
    by_cases hstart : StartsPlaceholder cs
    · obtain ⟨name, text, after, htext, rfl⟩ := hstart
      refine hole name text after htext (ih after.length ?_ after rfl)
      obtain ⟨tail, rfl, _⟩ := htext.exists_tail
      rw [← hn, List.length_append, List.length_cons]
      omega
    · cases cs with
      | nil => exact nil
      | cons c r => exact char c r hstart (ih r.length (by rw [← hn]; exact Nat.lt_succ_self _) r rfl)

/-! ## Fillings -/

/-- The second text is the first one with a non-empty text without slashes for each placeholder. -/
inductive Fills : List Char → List Char → Prop
  | done : Fills [] []
  | hole {name text value declared filled : List Char} (h : IsPlaceholder name text)
      (hne : value ≠ []) (hslash : '/' ∉ value) (rest : Fills declared filled) :
      Fills (text ++ declared) (value ++ filled)
  | keep {c : Char} {declared filled : List Char} (h : ¬ StartsPlaceholder (c :: declared))
      (rest : Fills declared filled) : Fills (c :: declared) (c :: filled)

/-- The second path is the first one with a non-empty text without slashes for each placeholder. -/
def IsFilling (declared filled : String) : Prop := Fills declared.toList filled.toList

namespace Fills

variable {declared filled : List Char}

/-- Only an empty path is filled to an empty one. -/
theorem eq_nil_iff (h : Fills declared filled) : declared = [] ↔ filled = [] := by
  cases h with
  | done => simp
  | hole h hne =>
    obtain ⟨tail, rfl, _⟩ := h.exists_tail
    simp [hne]
  | keep => simp

/-- Filling adds no slash to a segment. -/
theorem not_mem_slash (h : Fills declared filled) (hslash : '/' ∉ declared) : '/' ∉ filled := by
  induction h with
  | done => exact hslash
  | hole _ _ hvalue _ ih =>
    intro hmem
    rcases List.mem_append.1 hmem with hmem | hmem
    · exact hvalue hmem
    · exact ih (fun h => hslash (List.mem_append_right _ h)) hmem
  | keep _ _ ih =>
    intro hmem
    rcases List.mem_cons.1 hmem with rfl | hmem
    · exact hslash List.mem_cons_self
    · exact ih (fun h => hslash (List.mem_cons_of_mem _ h)) hmem

/-- Without placeholders there is nothing to fill in. -/
theorem eq_of_not_occurs (h : Fills declared filled) (hno : ∀ name, ¬ Occurs name declared) :
    filled = declared := by
  induction h with
  | done => rfl
  | hole h =>
    exact absurd ⟨[], _, _, h, rfl⟩ (hno _)
  | keep _ _ ih =>
    rw [ih fun name hname => hno name (occurs_cons_iff.2 (Or.inr hname))]

/-- A placeholder at the start gives way to a text in front of what is filled in behind it. -/
theorem exists_of_placeholder {name text : List Char} (htext : IsPlaceholder name text)
    (h : Fills (text ++ declared) filled) :
    ∃ value rest, value ≠ [] ∧ filled = value ++ rest ∧ Fills declared rest := by
  have hfound : placeholder? (text ++ declared) = some (name, declared) :=
    placeholder?_eq_some_iff.2 ⟨text, htext, rfl⟩
  generalize hd : text ++ declared = cs at h
  cases h with
  | done =>
    obtain ⟨tail, rfl, _⟩ := htext.exists_tail
    cases hd
  | @hole name' text' _ declared' _ htext' hne _ rest =>
    have hfound' : placeholder? (text' ++ declared') = some (name', declared') :=
      placeholder?_eq_some_iff.2 ⟨text', htext', rfl⟩
    rw [← hd, hfound] at hfound'
    rw [← (Prod.mk.inj (Option.some.inj hfound')).2] at rest
    exact ⟨_, _, hne, rfl, rest⟩
  | keep hstart _ => exact absurd ⟨name, text, declared, htext, hd.symm⟩ hstart

/-- A slash separates what is filled in before it from what is filled in behind it. -/
theorem append_slash_iff {xs ys : List Char} :
    Fills (xs ++ '/' :: ys) filled ↔
      ∃ zs ws, filled = zs ++ '/' :: ws ∧ Fills xs zs ∧ Fills ys ws := by
  constructor
  · intro h
    -- along the filling: no placeholder reaches over the slash, so the slash itself is kept
    generalize hd : xs ++ '/' :: ys = declared at h
    induction h generalizing xs with
    | done => cases xs <;> cases hd
    | hole h hne hslash rest ih =>
      obtain ⟨more, rfl, hmore⟩ := exists_of_append_eq_append_slash h.not_mem_slash hd.symm
      obtain ⟨zs, ws, rfl, hzs, hws⟩ := ih hmore.symm
      exact ⟨_, ws, (List.append_assoc _ zs _).symm, .hole h hne hslash hzs, hws⟩
    | keep h rest ih =>
      cases xs with
      | nil =>
        obtain ⟨rfl, rfl⟩ := List.cons.inj hd
        exact ⟨[], _, rfl, .done, rest⟩
      | cons c xs =>
        obtain ⟨rfl, rfl⟩ := List.cons.inj hd
        obtain ⟨zs, ws, rfl, hzs, hws⟩ := ih rfl
        exact ⟨c :: zs, ws, rfl, .keep (fun hs => h (startsPlaceholder_append_slash_iff.2 hs)) hzs, hws⟩
  · rintro ⟨zs, ws, rfl, hzs, hws⟩
    induction hzs with
    | done => exact .keep (not_startsPlaceholder_of_ne (by decide) ys) hws
    | hole h hne hslash _ ih =>
      rw [List.append_assoc, List.append_assoc]
      exact .hole h hne hslash ih
    | keep h _ ih => exact .keep (fun hs => h (startsPlaceholder_append_slash_iff.1 hs)) ih

/-- A single segment is filled as a whole. -/
theorem forall₂_charSegments_of_not_mem (h : Fills declared filled) (hslash : '/' ∉ declared) :
    List.Forall₂ Fills (charSegments declared) (charSegments filled) := by
  rw [charSegments_of_not_mem hslash, charSegments_of_not_mem (h.not_mem_slash hslash)]
  by_cases hnil : declared = []
  · rw [if_pos hnil, if_pos (h.eq_nil_iff.1 hnil)]
    exact .nil
  · rw [if_neg hnil, if_neg fun he => hnil (h.eq_nil_iff.2 he)]
    exact .cons h .nil

/-- A path is filled in segment by segment. -/
theorem forall₂_charSegments (h : Fills declared filled) :
    List.Forall₂ Fills (charSegments declared) (charSegments filled) := by
  induction declared using slash_induction generalizing filled with
  | base cs hcs => exact h.forall₂_charSegments_of_not_mem hcs
  | step xs ys hxs ih =>
    obtain ⟨zs, ws, rfl, hzs, hws⟩ := append_slash_iff.1 h
    rw [charSegments_append_slash, charSegments_append_slash]
    exact List.rel_append (hzs.forall₂_charSegments_of_not_mem hxs) (ih hws)

end Fills

/-- A segment that is filled in makes up a path of its own. -/
theorem exists_fills_of_not_mem {cs : List Char} {parts : List (List Char)} (hslash : '/' ∉ cs)
    (h : List.Forall₂ Fills (charSegments cs) parts) :
    ∃ filled, Fills cs filled ∧ charSegments filled = parts := by
  rw [charSegments_of_not_mem hslash] at h
  by_cases hnil : cs = []
  · rw [if_pos hnil] at h
    cases h
    exact ⟨[], hnil ▸ .done, rfl⟩
  · rw [if_neg hnil] at h
    obtain _ | ⟨hpart, ⟨⟩⟩ := h
    refine ⟨_, hpart, ?_⟩
    rw [charSegments_of_not_mem (hpart.not_mem_slash hslash),
      if_neg fun he => hnil (hpart.eq_nil_iff.2 he)]

/-- Segments that are filled in one by one make up a path that is filled in. -/
theorem exists_fills_of_forall₂ {declared : List Char} {parts : List (List Char)}
    (h : List.Forall₂ Fills (charSegments declared) parts) :
    ∃ filled, Fills declared filled ∧ charSegments filled = parts := by
  induction declared using slash_induction generalizing parts with
  | base cs hcs => exact exists_fills_of_not_mem hcs h
  | step xs ys hxs ih =>
    rw [charSegments_append_slash] at h
    -- the first part has as many segments as what it is filled in with
    have htake := List.forall₂_take (charSegments xs).length h
    have hdrop := List.forall₂_drop (charSegments xs).length h
    rw [List.take_left] at htake
    rw [List.drop_left] at hdrop
    obtain ⟨zs, hzs, hzparts⟩ := exists_fills_of_not_mem hxs htake
    obtain ⟨ws, hws, hwparts⟩ := ih hdrop
    refine ⟨zs ++ '/' :: ws, Fills.append_slash_iff.2 ⟨zs, ws, rfl, hzs, hws⟩, ?_⟩
    rw [charSegments_append_slash, hzparts, hwparts, List.take_append_drop]

/-! ## Filling in by name -/

/-- The text with a text for each placeholder, chosen by its name. -/
def fillWith (v : List Char → List Char) (cs : List Char) : List Char :=
  (cutPlaceholders (cs.length + 1) cs).flatMap fun
    | .inl c => [c]
    | .inr name => v name

/-- Enough fuel cuts a text completely. -/
theorem cutPlaceholders_of_lt {fuel fuel' : Nat} {cs : List Char} (h : cs.length < fuel)
    (h' : cs.length < fuel') : cutPlaceholders fuel cs = cutPlaceholders fuel' cs := by
  -- every step takes a character at least, so the fuel stays ahead of the text
  induction fuel generalizing fuel' cs with
  | zero => omega
  | succ fuel ih =>
    obtain ⟨fuel', rfl⟩ : ∃ n, fuel' = n + 1 := ⟨fuel' - 1, by omega⟩
    unfold cutPlaceholders
    split
    · next name r hsome =>
      obtain ⟨text, htext, rfl⟩ := placeholder?_eq_some_iff.1 hsome
      obtain ⟨tail, rfl, _⟩ := htext.exists_tail
      simp only [List.cons_append, List.length_cons, List.length_append] at h h'
      have hcut : cutPlaceholders fuel r = cutPlaceholders fuel' r := ih (by omega) (by omega)
      rw [hcut]
    · next c r _ =>
      simp only [List.length_cons] at h h'
      have hcut : cutPlaceholders fuel r = cutPlaceholders fuel' r := ih (by omega) (by omega)
      rw [hcut]
    · rfl

section FillWith

variable (v : List Char → List Char)

/-- A placeholder is filled with the value of its name. -/
theorem fillWith_placeholder {name text : List Char} (h : IsPlaceholder name text) (r : List Char) :
    fillWith v (text ++ r) = v name ++ fillWith v r := by
  have hsome : placeholder? (text ++ r) = some (name, r) := placeholder?_eq_some_iff.2 ⟨text, h, rfl⟩
  have hlength : r.length < (text ++ r).length := by
    obtain ⟨tail, rfl, _⟩ := h.exists_tail
    rw [List.length_append, List.length_cons]
    omega
  have hcut : cutPlaceholders ((text ++ r).length + 1) (text ++ r) =
      .inr name :: cutPlaceholders (r.length + 1) r := by
    rw [← cutPlaceholders_of_lt hlength (Nat.lt_succ_self _)]
    simp only [cutPlaceholders, hsome]
  unfold fillWith
  rw [hcut, List.flatMap_cons]

/-- Any other character stays. -/
theorem fillWith_char {c : Char} {r : List Char} (h : ¬ StartsPlaceholder (c :: r)) :
    fillWith v (c :: r) = c :: fillWith v r := by
  have hnone : placeholder? (c :: r) = none := placeholder?_eq_none_iff.2 h
  have hcut : cutPlaceholders ((c :: r).length + 1) (c :: r) =
      .inl c :: cutPlaceholders (r.length + 1) r := by
    simp only [cutPlaceholders, hnone, List.length_cons]
  unfold fillWith
  rw [hcut, List.flatMap_cons, List.singleton_append]

/-- A path is filled segment by segment. -/
theorem fillWith_append_slash (xs ys : List Char) :
    fillWith v (xs ++ '/' :: ys) = fillWith v xs ++ '/' :: fillWith v ys := by
  induction xs using placeholder_induction with
  | nil => exact fillWith_char v (not_startsPlaceholder_of_ne (by decide) ys)
  | hole name text r h ih =>
    rw [List.append_assoc, fillWith_placeholder v h, ih, fillWith_placeholder v h, List.append_assoc]
  | char c r h ih =>
    rw [List.cons_append, fillWith_char v (r := r ++ '/' :: ys)
      (fun hs => h (startsPlaceholder_append_slash_iff.1 hs)), ih, fillWith_char v h]
    rfl

variable {v}

/-- What is filled in by name is filled in. -/
theorem fills_fillWith (hv : ∀ name, IsWord name → v name ≠ [] ∧ '/' ∉ v name) (cs : List Char) :
    Fills cs (fillWith v cs) := by
  induction cs using placeholder_induction with
  | nil => exact .done
  | hole name text r h ih =>
    rw [fillWith_placeholder v h]
    exact .hole h (hv name h.isWord).1 (hv name h.isWord).2 ih
  | char c r h ih =>
    rw [fillWith_char v h]
    exact .keep h ih

/-- A path is filled in by name segment by segment. -/
theorem charSegments_fillWith (hv : ∀ name, IsWord name → v name ≠ [] ∧ '/' ∉ v name)
    (cs : List Char) : charSegments (fillWith v cs) = (charSegments cs).map (fillWith v) := by
  have hbase : ∀ cs : List Char, '/' ∉ cs →
      charSegments (fillWith v cs) = (charSegments cs).map (fillWith v) := by
    intro cs hcs
    have hfills := fills_fillWith hv cs
    rw [charSegments_of_not_mem hcs, charSegments_of_not_mem (hfills.not_mem_slash hcs)]
    by_cases hnil : cs = []
    · rw [if_pos hnil, if_pos (hfills.eq_nil_iff.1 hnil)]
      rfl
    · rw [if_neg hnil, if_neg fun he => hnil (hfills.eq_nil_iff.2 he)]
      rfl
  induction cs using slash_induction with
  | base cs hcs => exact hbase cs hcs
  | step xs ys hxs ih =>
    rw [fillWith_append_slash, charSegments_append_slash, charSegments_append_slash, List.map_append,
      ih, hbase xs hxs]

end FillWith

/-! ## Normal forms -/

/-- The normal form of a declared path is one of its fillings: a colon and the name for each
placeholder. -/
theorem toList_normalizeRoute (path : String) :
    (normalizeRoute path).toList = fillWith (':' :: ·) path.toList := by
  unfold normalizeRoute
  rw [String.toList_ofList]
  rfl

/-- A name behind a colon is a segment. -/
theorem colon_name (name : List Char) (h : IsWord name) :
    ':' :: name ≠ [] ∧ '/' ∉ ':' :: name := by
  refine ⟨nofun, fun hslash => ?_⟩
  rcases List.mem_cons.1 hslash with he | hslash
  · exact absurd he (by decide)
  · exact isWordChar_ne (h.2 '/' hslash) (d := '/') rfl rfl

/-- A declared path is normalized segment by segment. -/
theorem segments_normalizeRoute (path : String) :
    segments (normalizeRoute path) = (segments path).map normalizeRoute := by
  rw [segments_eq, toList_normalizeRoute, charSegments_fillWith colon_name, segments_eq, List.map_map,
    List.map_map]
  refine List.map_congr_left fun part _ => ?_
  rw [Function.comp_apply, Function.comp_apply, ← String.toList_inj, toList_normalizeRoute,
    String.toList_ofList, String.toList_ofList]

/-- A normalized route is a filling of the route. -/
theorem isFilling_normalizeRoute (path : String) : IsFilling path (normalizeRoute path) := by
  unfold IsFilling
  rw [toList_normalizeRoute]
  exact fills_fillWith colon_name path.toList

/-! ## Matching segment by segment -/

/-- The segment begins with a colon or with a placeholder. -/
def IsOpen (segment : String) : Prop :=
  segment.toList.head? = some ':' ∨ StartsPlaceholder segment.toList

/-- The segment is one placeholder. -/
def IsHole (segment : String) : Prop := ∃ name, IsPlaceholder name segment.toList

instance (segment : String) : Decidable (IsOpen segment) :=
  inferInstanceAs (Decidable (_ ∨ _))

instance (segment : String) : Decidable (IsHole segment) :=
  decidable_of_iff (∃ found ∈ placeholder? segment.toList, found.2 = []) <| by
    constructor
    · rintro ⟨⟨name, rest⟩, hfound, rfl⟩
      obtain ⟨text, htext, he⟩ := placeholder?_eq_some_iff.1 hfound
      rw [List.append_nil] at he
      exact ⟨name, he ▸ htext⟩
    · rintro ⟨name, h⟩
      exact ⟨(name, []), placeholder?_eq_some_iff.2 ⟨_, h, (List.append_nil _).symm⟩, rfl⟩

/-- A segment is a parameter if it starts with a colon. -/
theorem isSome_parameterName?_iff (segment : String) :
    (parameterName? segment).isSome = true ↔ segment.toList.head? = some ':' := by
  unfold parameterName?
  split
  · next name h => simp [h]
  · next hne =>
    refine iff_of_false nofun fun h => ?_
    obtain ⟨name, hname⟩ := List.head?_eq_some_iff.1 h
    exact hne name hname

/-- The normal form of a segment is a parameter exactly if the segment is open. -/
theorem isSome_parameterName?_normalizeRoute_iff (segment : String) :
    (parameterName? (normalizeRoute segment)).isSome = true ↔ IsOpen segment := by
  rw [isSome_parameterName?_iff, toList_normalizeRoute]
  unfold IsOpen
  by_cases hstart : StartsPlaceholder segment.toList
  · refine iff_of_true ?_ (Or.inr hstart)
    obtain ⟨name, text, after, htext, he⟩ := hstart
    rw [he, fillWith_placeholder _ htext]
    rfl
  · rw [or_iff_left hstart]
    cases hcs : segment.toList with
    | nil => rfl
    | cons c r =>
      rw [hcs] at hstart
      rw [fillWith_char _ hstart]
      rfl

/-- An open segment accepts every text, any other its normal form only. -/
theorem segmentMatches_normalizeRoute_iff {segment actual : String} :
    segmentMatches (normalizeRoute segment) actual = true ↔
      IsOpen segment ∨ actual = normalizeRoute segment := by
  unfold segmentMatches
  rw [Bool.or_eq_true, isSome_parameterName?_normalizeRoute_iff, beq_iff_eq,
    eq_comm (a := normalizeRoute segment)]

/-- Paths match segment by segment. -/
theorem segmentsMatch_iff {pattern parts : List String} :
    segmentsMatch pattern parts = true ↔
      List.Forall₂ (fun e a => segmentMatches e a = true) pattern parts := by
  induction pattern generalizing parts with
  | nil => cases parts <;> simp [segmentsMatch]
  | cons e pattern ih => cases parts <;> simp [segmentsMatch, ih]

/-- The segments of a filling fill those of the path. -/
theorem IsFilling.forall₂_segments {declared filled : String} (h : IsFilling declared filled) :
    List.Forall₂ IsFilling (segments declared) (segments filled) := by
  rw [segments_eq, segments_eq, List.forall₂_map_left_iff, List.forall₂_map_right_iff]
  refine h.forall₂_charSegments.imp fun part value hpart => ?_
  unfold IsFilling
  rwa [String.toList_ofList, String.toList_ofList]

/-- Segments that fill those of a path make up a filling. -/
theorem exists_isFilling_of_forall₂ {declared : String} {parts : List String}
    (h : List.Forall₂ IsFilling (segments declared) parts) :
    ∃ filled, IsFilling declared filled ∧ segments filled = parts := by
  rw [segments_eq, List.forall₂_map_left_iff] at h
  have hfills : List.Forall₂ Fills (charSegments declared.toList) (parts.map String.toList) := by
    rw [List.forall₂_map_right_iff]
    refine h.imp fun part value hpart => ?_
    unfold IsFilling at hpart
    rwa [String.toList_ofList] at hpart
  obtain ⟨filled, hfilled, hparts⟩ := exists_fills_of_forall₂ hfills
  refine ⟨String.ofList filled, ?_, ?_⟩
  · unfold IsFilling
    rwa [String.toList_ofList]
  · rw [segments_eq, String.toList_ofList, hparts, List.map_map]
    simp [Function.comp_def]

/-- If filling in and the normal form agree although nothing is filled in that begins with a colon,
there was no placeholder. -/
theorem not_occurs_of_fillWith_eq {cs : List Char}
    (h : fillWith (fun _ => ['x']) cs = fillWith (':' :: ·) cs) (name : List Char) :
    ¬ Occurs name cs := by
  induction cs using placeholder_induction with
  | nil => exact not_occurs_nil
  | hole found text r htext _ =>
    rw [fillWith_placeholder _ htext, fillWith_placeholder _ htext] at h
    exact absurd (List.cons.inj h).1 (by decide)
  | char c r hstart ih =>
    rw [fillWith_char _ hstart, fillWith_char _ hstart] at h
    rw [occurs_cons_iff, not_or]
    refine ⟨?_, ih (List.cons.inj h).2⟩
    rintro ⟨text, after, htext, he⟩
    exact hstart ⟨name, text, after, htext, he⟩

/-- Without placeholders a segment has one filling, its normal form. -/
theorem eq_normalizeRoute_of_isFilling {s a : String} (hno : ∀ name, ¬ HasPlaceholder s name)
    (h : IsFilling s a) : a = normalizeRoute s := by
  have hno' : ∀ name, ¬ Occurs name s.toList := by
    intro name hname
    refine hno (String.ofList name) ?_
    unfold HasPlaceholder
    rwa [String.toList_ofList]
  rw [← String.toList_inj, h.eq_of_not_occurs hno', (isFilling_normalizeRoute s).eq_of_not_occurs hno']

/-- An open segment with a filling of one letter is one placeholder. -/
theorem isHole_of_isFilling {s : String} (hopen : IsOpen s) (h : IsFilling s "x") : IsHole s := by
  unfold IsFilling at h
  unfold IsOpen at hopen
  unfold IsHole
  generalize s.toList = cs at h hopen
  generalize hx : "x".toList = value at h
  cases h with
  | done => cases hx
  | hole htext hne hslash rest =>
    obtain ⟨rfl, rfl⟩ | ⟨_, rfl⟩ := List.append_eq_singleton_iff.1 hx.symm
    · exact absurd rfl hne
    · rw [rest.eq_nil_iff.2 rfl, List.append_nil]
      exact ⟨_, htext⟩
  | keep hstart rest =>
    obtain ⟨rfl, _⟩ := List.cons.inj hx
    rcases hopen with hcolon | hopen
    · exact absurd (Option.some.inj hcolon) (by decide)
    · exact absurd hopen hstart

section Matching

variable {declared path : String}

/-- A route of a declared path matches a request segment by segment. -/
theorem pathMatches_iff (h : segments path = (segments declared).map normalizeRoute)
    (requested : String) :
    pathMatches path requested = true ↔
      List.Forall₂ (fun s a => IsOpen s ∨ a = normalizeRoute s) (segments declared)
        (segments requested) := by
  unfold pathMatches
  rw [segmentsMatch_iff, h, List.forall₂_map_left_iff]
  simp only [segmentMatches_normalizeRoute_iff]

/-- A route matches all fillings of its declared path exactly if the segments that have a placeholder
begin with one, or with a colon. -/
theorem pathMatches_fillings_iff (h : segments path = (segments declared).map normalizeRoute) :
    (∀ filled, IsFilling declared filled → pathMatches path filled = true) ↔
      ∀ s ∈ segments declared, (∃ name, HasPlaceholder s name) → IsOpen s := by
  constructor
  · intro hall s hs hplaceholder
    -- the filling with the same letter everywhere is no normal form
    have hv : ∀ name : List Char, IsWord name → ['x'] ≠ [] ∧ '/' ∉ ['x'] := fun _ _ => by decide
    have hmatch := hall (String.ofList (fillWith (fun _ => ['x']) declared.toList)) (by
      unfold IsFilling
      rw [String.toList_ofList]
      exact fills_fillWith hv declared.toList)
    rw [pathMatches_iff h, segments_eq, segments_eq, String.toList_ofList, charSegments_fillWith hv,
      List.map_map, List.forall₂_map_left_iff, List.forall₂_map_right_iff, List.forall₂_same] at hmatch
    rw [segments_eq] at hs
    obtain ⟨part, hpart, rfl⟩ := List.mem_map.1 hs
    refine (hmatch part hpart).resolve_right fun he => ?_
    obtain ⟨name, hname⟩ := hplaceholder
    unfold HasPlaceholder at hname
    rw [String.toList_ofList] at hname
    refine not_occurs_of_fillWith_eq ?_ name.toList hname
    have htext := congrArg String.toList he
    rwa [Function.comp_apply, String.toList_ofList, toList_normalizeRoute, String.toList_ofList]
      at htext
  · intro hopen filled hfilled
    rw [pathMatches_iff h]
    refine ((List.forall₂_and_left _ _).2 ⟨hopen, hfilled.forall₂_segments⟩).imp ?_
    rintro s a ⟨hs, ha⟩
    by_cases hplaceholder : ∃ name, HasPlaceholder s name
    · exact Or.inl (hs hplaceholder)
    · exact Or.inr (eq_normalizeRoute_of_isFilling (fun name hname => hplaceholder ⟨name, hname⟩) ha)

/-- A route matches nothing but fillings of its declared path exactly if the segments that begin with a
placeholder or with a colon are placeholders. -/
theorem fillings_of_pathMatches_iff (h : segments path = (segments declared).map normalizeRoute) :
    (∀ requested, pathMatches path requested = true →
        ∃ filled, IsFilling declared filled ∧ segments filled = segments requested) ↔
      ∀ s ∈ segments declared, IsOpen s → IsHole s := by
  classical
  constructor
  · intro hall s hs hopen
    -- a request with one letter in the place of every open segment
    let answer (t : String) : String := if IsOpen t then "x" else normalizeRoute t
    have hsegments : segments (pathOf ((segments declared).map answer)) =
        (segments declared).map answer := by
      rw [segments_pathOf, List.flatMap_map, List.map_eq_flatMap]
      refine List.flatMap_congr fun t ht => ?_
      dsimp only [answer]
      split
      · rfl
      · rw [segments_normalizeRoute, segments_of_mem ht]
        rfl
    obtain ⟨filled, hfilled, he⟩ := hall (pathOf ((segments declared).map answer)) (by
      rw [pathMatches_iff h, hsegments, List.forall₂_map_right_iff, List.forall₂_same]
      intro t _
      dsimp only [answer]
      by_cases ht : IsOpen t
      · exact Or.inl ht
      · exact Or.inr (if_neg ht))
    have hparts := hfilled.forall₂_segments
    rw [he, hsegments, List.forall₂_map_right_iff, List.forall₂_same] at hparts
    have hpart := hparts s hs
    dsimp only [answer] at hpart
    rw [if_pos hopen] at hpart
    exact isHole_of_isFilling hopen hpart
  · intro hhole requested hmatch
    -- a closed segment is met by its normal form, which is a filling, and an open one is a hole
    rw [pathMatches_iff h] at hmatch
    have hparts : ∀ a ∈ segments requested, a.toList ≠ [] ∧ '/' ∉ a.toList := by
      intro a ha
      rw [segments_eq] at ha
      obtain ⟨part, hpart, rfl⟩ := List.mem_map.1 ha
      rw [String.toList_ofList]
      exact of_mem_charSegments hpart
    have hflip : List.Forall₂ (fun a s => IsOpen s ∨ a = normalizeRoute s) (segments requested)
        (segments declared) := hmatch.flip
    have hboth := ((List.forall₂_and_left _ _).2 ⟨hparts, hflip⟩).flip
    refine exists_isFilling_of_forall₂ (((List.forall₂_and_left _ _).2 ⟨hhole, hboth⟩).imp ?_)
    rintro s a ⟨hs, ⟨hne, hslash⟩, hmatch⟩
    rcases hmatch with hopen | rfl
    · obtain ⟨name, hname⟩ := hs hopen
      unfold IsFilling
      rw [← List.append_nil s.toList, ← List.append_nil a.toList]
      exact .hole hname hne hslash .done
    · exact isFilling_normalizeRoute s

end Matching

end RouteAtlas.Routing
