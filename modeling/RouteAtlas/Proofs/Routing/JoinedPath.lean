import Mathlib.Data.List.TakeWhile
import RouteAtlas.Proofs.Routing.Filling
import RouteAtlas.Scan.Mount

/-!
# Joined paths

The path of a route is put together from the prefix of a mount, the prefix of a router and a declared
path. Runs of slashes are collapsed and slashes taken off the ends of texts that are joined in part, and
placeholders are rewritten in texts that may hold several segments. None of this reaches over a slash, so
the path is made of the segments of the three texts, each rewritten on its own, in whatever order the
texts are joined (`joinPath_segmentwise`).
-/

namespace RouteAtlas.Routing

open RouteAtlas.Scan RouteAtlas.Text

/-! ## Slashes at the front of a text -/

/-- What is taken off the front of a text is a run of slashes. -/
theorem exists_replicate_append_dropWhile (cs : List Char) :
    ∃ m, cs = List.replicate m '/' ++ cs.dropWhile (· == '/') := by
  refine ⟨(cs.takeWhile (· == '/')).length, ?_⟩
  have hslashes : cs.takeWhile (· == '/') =
      List.replicate (cs.takeWhile (· == '/')).length '/' :=
    List.eq_replicate_iff.2 ⟨rfl, fun c hc => by simpa using List.mem_takeWhile_imp hc⟩
  rw [← hslashes, List.takeWhile_append_dropWhile]

/-- No slash is left at the start. -/
theorem head?_dropWhile_ne (cs : List Char) : (cs.dropWhile (· == '/')).head? ≠ some '/' := by
  have hhead := List.head?_dropWhile_not (· == '/') cs
  intro h
  rw [h] at hhead
  simp at hhead

/-- Nothing is dropped where no slash stands first. -/
theorem dropWhile_of_head?_ne {cs : List Char} (h : cs.head? ≠ some '/') :
    cs.dropWhile (· == '/') = cs := by
  cases cs with
  | nil => rfl
  | cons c cs =>
    have hc : ¬ (c == '/') = true := fun hc => h (congrArg some (beq_iff_eq.1 hc))
    exact List.dropWhile_cons_of_neg hc

/-- Leading slashes are dropped. -/
theorem dropWhile_replicate_append (m : Nat) (cs : List Char) :
    (List.replicate m '/' ++ cs).dropWhile (· == '/') = cs.dropWhile (· == '/') :=
  List.dropWhile_append_of_pos fun _ hc => beq_iff_eq.2 (List.eq_of_mem_replicate hc)

/-- A text without slashes puts no slash first. -/
theorem head?_append_ne {xs : List Char} (hne : xs ≠ []) (hxs : '/' ∉ xs) (ys : List Char) :
    (xs ++ ys).head? ≠ some '/' := by
  cases xs with
  | nil => exact absurd rfl hne
  | cons x xs => exact fun h => hxs (List.mem_cons.2 (Or.inl (Option.some.inj h).symm))

/-! ## Slashes at its end -/

/-- Slashes at the end are trimmed off whatever is before them. -/
theorem trimEnd_append_of_eq_nil {ys : List Char} (h : trimEnd (· == '/') ys = [])
    (xs : List Char) : trimEnd (· == '/') (xs ++ ys) = trimEnd (· == '/') xs := by
  unfold trimEnd at h ⊢
  rw [List.reverse_append, List.dropWhile_append,
    if_pos (List.isEmpty_iff.2 (List.reverse_eq_nil_iff.1 h))]

/-- A text that is not all taken off the end keeps what stands in front of it. -/
theorem trimEnd_append_of_ne_nil {ys : List Char} (h : trimEnd (· == '/') ys ≠ [])
    (xs : List Char) : trimEnd (· == '/') (xs ++ ys) = xs ++ trimEnd (· == '/') ys := by
  unfold trimEnd at h ⊢
  rw [List.reverse_append, List.dropWhile_append,
    if_neg fun he => h (List.reverse_eq_nil_iff.2 (List.isEmpty_iff.1 he)), List.reverse_append,
    List.reverse_reverse]

/-- Nothing is trimmed off without slashes. -/
theorem trimEnd_of_not_mem {cs : List Char} (h : '/' ∉ cs) : trimEnd (· == '/') cs = cs := by
  have hlast : cs.reverse.head? ≠ some '/' := fun hc =>
    h (List.mem_reverse.1 (List.mem_of_mem_head? hc))
  unfold trimEnd
  rw [dropWhile_of_head?_ne hlast, List.reverse_reverse]

/-! ## Slashes inside -/

/-- The text with one slash for each run of slashes. -/
def collapseSlashes : List Char → List Char
  | [] => []
  | c :: cs =>
    if c = '/' ∧ cs.head? = some '/' then collapseSlashes cs else c :: collapseSlashes cs

/-- A text without slashes stays when the rest is collapsed. -/
theorem collapseSlashes_append {xs : List Char} (h : '/' ∉ xs) (ys : List Char) :
    collapseSlashes (xs ++ ys) = xs ++ collapseSlashes ys := by
  induction xs with
  | nil => rfl
  | cons x xs ih =>
    have hx : ¬ (x = '/' ∧ (xs ++ ys).head? = some '/') := fun hc =>
      h (List.mem_cons.2 (Or.inl hc.1.symm))
    rw [List.cons_append, collapseSlashes, if_neg hx, ih fun hxs => h (List.mem_cons_of_mem x hxs),
      List.cons_append]

/-- Collapsing puts no slash first. -/
theorem head?_collapseSlashes_ne {cs : List Char} (h : cs.head? ≠ some '/') :
    (collapseSlashes cs).head? ≠ some '/' := by
  cases cs with
  | nil => exact nofun
  | cons c cs =>
    rw [collapseSlashes, if_neg fun hc => h (congrArg some hc.1)]
    exact h

/-- A slash stands for itself and the slashes behind it. -/
theorem collapseSlashes_slash (ys : List Char) :
    collapseSlashes ('/' :: ys) = '/' :: (collapseSlashes ys).dropWhile (· == '/') := by
  induction ys with
  | nil => rfl
  | cons y ys ih =>
    by_cases hy : y = '/'
    · subst hy
      rw [collapseSlashes, if_pos ⟨rfl, rfl⟩, ih, List.dropWhile_cons_of_pos rfl,
        dropWhile_of_head?_ne (head?_dropWhile_ne _)]
    · have hhead : (y :: ys).head? ≠ some '/' := fun hc => hy (Option.some.inj hc)
      rw [collapseSlashes, if_neg fun hc => hhead hc.2,
        dropWhile_of_head?_ne (head?_collapseSlashes_ne hhead)]

/-! ## Collapsed texts -/

/-- Segments make up a text that is not empty. -/
theorem intercalate_charSegments_ne_nil {cs : List Char} (h : charSegments cs ≠ []) :
    ['/'].intercalate (charSegments cs) ≠ [] := by
  obtain ⟨part, parts, hparts⟩ := List.exists_cons_of_ne_nil h
  have hpart : part ≠ [] := (of_mem_charSegments (hparts ▸ List.mem_cons_self)).1
  rw [hparts]
  cases parts with
  | nil => rwa [List.intercalate_singleton]
  | cons next parts =>
    rw [List.intercalate_cons_cons, List.append_assoc]
    exact fun hnil => hpart (List.append_eq_nil_iff.1 hnil).1

/-- A text with single slashes and none at its ends is its segments, joined. -/
theorem trim_collapseSlashes (cs : List Char) :
    trim (· == '/') (collapseSlashes cs) = ['/'].intercalate (charSegments cs) := by
  induction cs using slash_induction with
  | base cs hcs =>
    have hcollapse : collapseSlashes cs = cs := by
      have happend := collapseSlashes_append hcs []
      rwa [List.append_nil, collapseSlashes, List.append_nil] at happend
    have hstart : cs.head? ≠ some '/' := fun h => hcs (List.mem_of_mem_head? h)
    rw [hcollapse, trim, trimStart, dropWhile_of_head?_ne hstart, trimEnd_of_not_mem hcs,
      charSegments_of_not_mem hcs]
    by_cases hnil : cs = []
    · rw [if_pos hnil, hnil]
      rfl
    · rw [if_neg hnil, List.intercalate_singleton]
  | step xs ys hxs ih =>
    rw [collapseSlashes_append hxs, collapseSlashes_slash, charSegments_append_slash,
      charSegments_of_not_mem hxs]
    by_cases hnil : xs = []
    · -- the slash is at the front, with all slashes behind it
      rw [if_pos hnil, hnil, List.nil_append, List.nil_append, ← ih, trim, trimStart,
        List.dropWhile_cons_of_pos rfl, dropWhile_of_head?_ne (head?_dropWhile_ne _)]
      rfl
    · rw [if_neg hnil, trim, trimStart, dropWhile_of_head?_ne (head?_append_ne hnil hxs _),
        List.append_cons]
      -- what stands behind the slash decides whether the slash stays
      have hrest : trimEnd (· == '/') ((collapseSlashes ys).dropWhile (· == '/')) =
          ['/'].intercalate (charSegments ys) := ih
      by_cases hnone : charSegments ys = []
      · rw [hnone] at hrest
        rw [trimEnd_append_of_eq_nil hrest, trimEnd_append_of_eq_nil rfl, trimEnd_of_not_mem hxs,
          hnone, List.append_nil, List.intercalate_singleton]
      · have hsome := intercalate_charSegments_ne_nil hnone
        obtain ⟨part, parts, hparts⟩ := List.exists_cons_of_ne_nil hnone
        rw [trimEnd_append_of_ne_nil (hrest ▸ hsome), hrest, hparts, List.singleton_append,
          List.intercalate_cons_cons]

/-- Two texts with a slash between them, unless one is empty. -/
def slashed (a b : String) : String := "/".intercalate ([a, b].filter (· != ""))

/-- A slash between two paths separates their segments. -/
theorem segments_slashed (a b : String) : segments (slashed a b) = segments a ++ segments b := by
  have hempty : ∀ s : String, (s != "") = false → segments s = [] := fun s hs => by
    rw [show s = "" by simpa using hs]
    rfl
  unfold slashed
  rw [segments_intercalate]
  cases ha : a != "" <;> cases hb : b != ""
  · rw [hempty a ha, hempty b hb]
    simp [ha, hb]
  · rw [hempty a ha]
    simp [ha, hb]
  · rw [hempty b hb]
    simp [ha, hb]
  · simp [ha, hb]

/-- A joined path is the two texts joined, without the slashes that are too many. -/
theorem joinPath_eq_collapsed (a b : String) :
    joinPath a b =
      "/" ++ String.ofList (trim (· == '/') (collapseSlashes (slashed a b).toList)) := by
  have hsegments : (segments a ++ segments b).map String.toList =
      charSegments (slashed a b).toList := by
    rw [← segments_slashed, segments_eq, List.map_map]
    simp [Function.comp_def]
  have hlist (parts : List String) :
      String.ofList (['/'].intercalate (parts.map String.toList)) = "/".intercalate parts := by
    rw [← String.toList_inj, String.toList_intercalate, String.toList_ofList]
    rfl
  unfold joinPath pathOf
  rw [trim_collapseSlashes, ← hsegments, hlist]

/-! ## Paths without a slash too many -/

/-- The path begins with a slash, and is only that slash or has a segment behind every slash, so no
slash at its end. -/
structure IsCanonical (path : String) : Prop where
  rooted : path.toList.head? = some '/'
  full : path = "/" ∨ "" ∉ (splitAt '/' path).tail
  closed : path = "/" ∨ path.toList.getLast? ≠ some '/'

/-- Cut at its slashes, a path falls into what stands before its first slash, nothing, and its parts. -/
theorem splitAt_pathOf {parts : List String} (hne : parts ≠ []) (h : ∀ s ∈ parts, '/' ∉ s.toList) :
    splitAt '/' (pathOf parts) = "" :: parts := by
  have hlist : (pathOf parts).toList = [] ++ '/' :: ['/'].intercalate (parts.map String.toList) := by
    rw [pathOf, String.toList_append, String.toList_intercalate]
    rfl
  unfold splitAt
  rw [hlist, List.splitOn_append_cons_self, List.splitOn_intercalate]
  · simp
  · intro part hpart
    obtain ⟨s, hs, rfl⟩ := List.mem_map.1 hpart
    exact h s hs
  · exact fun hnil => hne (List.map_eq_nil_iff.1 hnil)

/-- A written path starts with a slash. -/
theorem head?_toList_pathOf (parts : List String) : (pathOf parts).toList.head? = some '/' := by
  rw [pathOf, String.toList_append]
  rfl

/-- Behind a slash at the end of a text stands nothing. -/
theorem exists_splitAt_of_getLast? {path : String} (h : path.toList.getLast? = some '/') :
    ∃ s parts, splitAt '/' path = s :: parts ++ [""] := by
  obtain ⟨front, hfront⟩ := List.getLast?_eq_some_iff.1 h
  obtain ⟨part, parts, hparts⟩ := List.exists_cons_of_ne_nil (List.splitOn_ne_nil '/' front)
  refine ⟨String.ofList part, parts.map String.ofList, ?_⟩
  unfold splitAt
  rw [hfront, List.splitOn_append_cons_self, hparts, List.map_append]
  rfl

/-- A path written from segments is canonical. -/
theorem isCanonical_pathOf {parts : List String} (h : ∀ s ∈ parts, s ≠ "" ∧ '/' ∉ s.toList) :
    IsCanonical (pathOf parts) := by
  by_cases hnone : parts = []
  · have hroot : pathOf parts = "/" := by
      rw [hnone]
      rfl
    exact ⟨head?_toList_pathOf parts, Or.inl hroot, Or.inl hroot⟩
  · have hsplit := splitAt_pathOf hnone fun s hs => (h s hs).2
    have hfull : "" ∉ parts := fun hempty => (h "" hempty).1 rfl
    refine ⟨head?_toList_pathOf parts, Or.inr (hsplit ▸ hfull), Or.inr fun hlast => hfull ?_⟩
    obtain ⟨s, front, hfront⟩ := exists_splitAt_of_getLast? hlast
    rw [hsplit, List.cons_append] at hfront
    rw [(List.cons.inj hfront).2]
    exact List.mem_append_right _ List.mem_cons_self

/-- A joined path is canonical. -/
theorem isCanonical_joinPath (a b : String) : IsCanonical (joinPath a b) :=
  isCanonical_pathOf fun _ hs => (List.mem_append.1 hs).elim of_mem_segments of_mem_segments

/-! ## The paths of a project -/

/-- Joined starts have the segments of both. -/
theorem segments_joinStarts (a b : String) :
    segments (joinStarts a b) = segments a ++ segments b := by
  unfold joinStarts
  split
  · next hempty =>
    rw [Bool.and_eq_true, String.isEmpty_iff, String.isEmpty_iff] at hempty
    rw [hempty.1, hempty.2]
    rfl
  · exact segments_joinPath a b

/-- Three paths are joined in either order. -/
theorem joinPath_assoc (a b c : String) :
    joinPath (joinPath a b) c = joinPath a (joinPath b c) := by
  show pathOf (segments (joinPath a b) ++ segments c) = pathOf (segments a ++ segments (joinPath b c))
  rw [segments_joinPath, segments_joinPath, List.append_assoc]

/-- Joining nothing to a joined path changes nothing. -/
theorem joinPath_empty (a b : String) : joinPath (joinPath a b) "" = joinPath a b := by
  have hnone : segments "" = [] := rfl
  rw [joinPath, segments_joinPath, hnone, List.append_nil]
  rfl

/-- A path that is joined from the prefix of a mount, the prefix of a router and a declared path is made
of their segments, each with its placeholders rewritten. Every joined path is the two texts with a slash
between them and no slash too many, and neither the order in which paths are joined nor joining nothing to
one makes a difference. -/
theorem joinPath_segmentwise :
    (∀ mount start route : String,
      joinPath (normalizeRoute (joinStarts mount start)) (normalizeRoute route) =
        pathOf ((segments mount ++ segments start ++ segments route).map normalizeRoute)) ∧
    (∀ a b : String, IsCanonical (joinPath a b) ∧
      joinPath a b =
        "/" ++ String.ofList (trim (· == '/') (collapseSlashes (slashed a b).toList))) ∧
    (∀ a b c : String, joinPath (joinPath a b) c = joinPath a (joinPath b c)) ∧
    (∀ a b : String, joinPath (joinPath a b) "" = joinPath a b) := by
  refine ⟨fun mount start route => ?_, fun a b => ⟨isCanonical_joinPath a b, joinPath_eq_collapsed a b⟩,
    joinPath_assoc, joinPath_empty⟩
  rw [joinPath, segments_normalizeRoute, segments_normalizeRoute, segments_joinStarts,
    ← List.map_append]

/-- Slashes that are too many, and a placeholder with a converter. -/
example : joinPath (normalizeRoute (joinStarts "//api//" "v1/")) (normalizeRoute "{id:int}//x/") =
    "/api/v1/:id/x" := by
  decide +kernel

end RouteAtlas.Routing
