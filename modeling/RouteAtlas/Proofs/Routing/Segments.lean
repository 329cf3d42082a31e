import Mathlib.Data.List.Basic
import RouteAtlas.Routing.RoutePath

/-!
# Segments of paths

A path is read segment by segment. A slash separates what stands before it from what stands behind it,
so the segments of a path made of parts are those of the parts (`segments_pathOf`), and a joined path
has the segments of both of its parts (`segments_joinPath`).
-/

namespace RouteAtlas.Routing

open RouteAtlas.Text

/-- The segments of a text: its non-empty parts between slashes. -/
def charSegments (cs : List Char) : List (List Char) := (cs.splitOn '/').filter (!·.isEmpty)

/-- Segments are cut character by character. -/
theorem segments_eq (path : String) :
    segments path = (charSegments path.toList).map String.ofList := by
  unfold segments splitAt charSegments
  rw [List.filter_map]
  congr 2
  funext cs
  cases cs with
  | nil => rfl
  | cons c cs =>
    simp

/-- A slash separates segments. -/
theorem charSegments_append_slash (xs ys : List Char) :
    charSegments (xs ++ '/' :: ys) = charSegments xs ++ charSegments ys := by
  unfold charSegments
  rw [List.splitOn_append_cons_self, List.filter_append]

/-- A text without slashes is one segment, unless it is empty. -/
theorem charSegments_of_not_mem {cs : List Char} (h : '/' ∉ cs) :
    charSegments cs = if cs = [] then [] else [cs] := by
  unfold charSegments
  rw [List.splitOn_eq_singleton h]
  cases cs <;> rfl

/-- What holds of texts without slashes and is kept in front of a slash holds of all texts. -/
theorem slash_induction {P : List Char → Prop} (base : ∀ cs, '/' ∉ cs → P cs)
    (step : ∀ xs ys, '/' ∉ xs → P ys → P (xs ++ '/' :: ys)) (cs : List Char) : P cs := by
  induction hn : cs.length using Nat.strongRecOn generalizing cs with
  | ind n ih =>
    by_cases hslash : '/' ∈ cs
    · obtain ⟨xs, ys, rfl, hxs⟩ := List.eq_append_cons_of_mem hslash
      refine step xs ys hxs (ih ys.length ?_ ys rfl)
      rw [← hn, List.length_append, List.length_cons]
      omega
    · exact base cs hslash

/-- A segment is not empty and has no slash. -/
theorem of_mem_charSegments {cs part : List Char} (h : part ∈ charSegments cs) :
    part ≠ [] ∧ '/' ∉ part := by
  induction cs using slash_induction with
  | base cs hcs =>
    rw [charSegments_of_not_mem hcs] at h
    split at h
    · cases h
    · next hne =>
      rw [List.mem_singleton.1 h]
      exact ⟨hne, hcs⟩
  | step xs ys hxs ih =>
    rw [charSegments_append_slash, charSegments_of_not_mem hxs] at h
    rcases List.mem_append.1 h with h | h
    · split at h
      · cases h
      · next hne =>
        rw [List.mem_singleton.1 h]
        exact ⟨hne, hxs⟩
    · exact ih h

/-- A segment is its own only one. -/
theorem charSegments_of_segment {part : List Char} (h : part ≠ [] ∧ '/' ∉ part) :
    charSegments part = [part] := by
  rw [charSegments_of_not_mem h.2, if_neg h.1]

/-- Slashes between texts separate their segments. -/
theorem charSegments_intercalate (parts : List (List Char)) :
    charSegments (['/'].intercalate parts) = parts.flatMap charSegments := by
  induction parts with
  | nil => rfl
  | cons part parts ih =>
    cases parts with
    | nil => simp
    | cons next parts =>
      rw [List.intercalate_cons_cons, List.append_assoc, List.singleton_append,
        charSegments_append_slash, ih]
      rfl

/-- A slash at the start adds no segment. -/
theorem segments_slash_append (s : String) : segments ("/" ++ s) = segments s := by
  rw [segments_eq, segments_eq, String.toList_append]
  exact congrArg _ (charSegments_append_slash [] s.toList)

/-- Slashes between texts separate their segments. -/
theorem segments_intercalate (parts : List String) :
    segments ("/".intercalate parts) = parts.flatMap segments := by
  rw [segments_eq, String.toList_intercalate]
  show (charSegments (['/'].intercalate (parts.map String.toList))).map _ = _
  rw [charSegments_intercalate, List.flatMap_map, List.map_flatMap]
  exact List.flatMap_congr fun s _ => (segments_eq s).symm

/-- The segments of a path made of parts are those of the parts. -/
theorem segments_pathOf (parts : List String) : segments (pathOf parts) = parts.flatMap segments :=
  (segments_slash_append _).trans (segments_intercalate parts)

/-- A segment of a path is not empty and has no slash. -/
theorem of_mem_segments {path s : String} (h : s ∈ segments path) : s ≠ "" ∧ '/' ∉ s.toList := by
  rw [segments_eq] at h
  obtain ⟨part, hpart, rfl⟩ := List.mem_map.1 h
  obtain ⟨hne, hslash⟩ := of_mem_charSegments hpart
  rw [String.toList_ofList]
  refine ⟨fun hempty => hne ?_, hslash⟩
  rw [← String.toList_ofList (l := part), hempty]
  rfl

/-- A text that is not empty and has no slash is its only segment. -/
theorem segments_of_segment {s : String} (h : s ≠ "" ∧ '/' ∉ s.toList) : segments s = [s] := by
  have hne : s.toList ≠ [] := fun hnil => h.1 (String.toList_eq_nil_iff.1 hnil)
  rw [segments_eq, charSegments_of_segment ⟨hne, h.2⟩, List.map_singleton, String.ofList_toList]

/-- A segment of a path is the only segment of itself. -/
theorem segments_of_mem {path s : String} (h : s ∈ segments path) : segments s = [s] :=
  segments_of_segment (of_mem_segments h)

/-- Segments are their own segments. -/
theorem flatMap_segments (path : String) : (segments path).flatMap segments = segments path :=
  (List.flatMap_congr fun _ hs => segments_of_mem hs).trans (List.flatMap_singleton' _)

/-- A joined path has the segments of its two parts. -/
@[simp] theorem segments_joinPath (a b : String) :
    segments (joinPath a b) = segments a ++ segments b := by
  unfold joinPath
  rw [segments_pathOf, List.flatMap_append, flatMap_segments, flatMap_segments]

end RouteAtlas.Routing
