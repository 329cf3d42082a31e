import RouteAtlas.Project.Path
import RouteAtlas.Proofs.Routing.Segments

/-!
# Paths and their texts

Reading a path gives a normal one: its root is one of three, and its parts are names. The text of a
normal path reads as the path again (`IsNormal.ofString_text`), so a path can be handed on as its text.
-/

namespace RouteAtlas.Project

open RouteAtlas.Routing RouteAtlas.Text

/-- A name that can stand in a directory, or a double dot. -/
def IsName (n : String) : Prop := n ≠ "." ∧ n ≠ "" ∧ '/' ∉ n.toList

namespace Path

/-- The path has one of the three roots, and all of its parts are names. -/
structure IsNormal (p : Path) : Prop where
  root_eq : p.root = "" ∨ p.root = "/" ∨ p.root = "//"
  names : ∀ n ∈ p.parts, IsName n

/-! ## Reading -/

/-- The parts of a path are the segments of its text but the single dots. -/
theorem parts_ofString (s : String) : (ofString s).parts = (segments s).filter (· != ".") := by
  show (splitAt '/' s).filter _ = ((splitAt '/' s).filter _).filter _
  rw [List.filter_filter]
  exact List.filter_congr fun n _ => Bool.and_comm _ _

/-- A path that was read is normal. -/
theorem isNormal_ofString (s : String) : (ofString s).IsNormal := by
  constructor
  · unfold ofString
    dsimp only
    split_ifs
    · exact Or.inl rfl
    · exact Or.inr (Or.inr rfl)
    · exact Or.inr (Or.inl rfl)
  · intro n hn
    rw [parts_ofString] at hn
    obtain ⟨hsegment, hdot⟩ := List.mem_filter.1 hn
    rw [segments_eq] at hsegment
    obtain ⟨part, hpart, rfl⟩ := List.mem_map.1 hsegment
    obtain ⟨hne, hslash⟩ := of_mem_charSegments hpart
    refine ⟨bne_iff_ne.1 hdot, ?_, ?_⟩
    · intro hempty
      exact hne (String.ofList_inj.1 hempty)
    · rwa [String.toList_ofList]

/-! ## Reading what was printed -/

section Text

variable {p : Path}

/-- A name is one segment. -/
theorem segments_of_isName {n : String} (h : IsName n) : segments n = [n] := by
  have hpart : n.toList ≠ [] ∧ '/' ∉ n.toList := ⟨fun hnil => h.2.1 (String.toList_inj.1 hnil), h.2.2⟩
  rw [segments_eq, charSegments_of_segment hpart, List.map_singleton, String.ofList_toList]

/-- Names are their own segments. -/
theorem flatMap_segments_of_isName {parts : List String} (h : ∀ n ∈ parts, IsName n) :
    parts.flatMap segments = parts := by
  rw [List.flatMap_congr fun n hn => segments_of_isName (h n hn)]
  exact List.flatMap_singleton' parts

/-- No slash stands in front of names with slashes between them. -/
theorem takeWhile_intercalate {parts : List String} (h : ∀ n ∈ parts, IsName n) :
    ("/".intercalate parts).toList.takeWhile (· == '/') = [] := by
  rw [String.toList_intercalate]
  cases parts with
  | nil => rfl
  | cons n parts =>
    obtain ⟨_, hne, hslash⟩ := h n List.mem_cons_self
    obtain ⟨c, cs, hcs⟩ := List.exists_cons_of_ne_nil fun hnil => hne (String.toList_inj.1 hnil)
    have hc : ¬ (c == '/') = true := by
      rw [hcs] at hslash
      intro heq
      rw [beq_iff_eq.1 heq] at hslash
      exact hslash List.mem_cons_self
    have hfirst : ∃ rest, "/".toList.intercalate ((n :: parts).map String.toList) = c :: rest := by
      cases parts with
      | nil =>
        rw [List.map_singleton, List.intercalate_singleton]
        exact ⟨cs, hcs⟩
      | cons m parts =>
        rw [List.map_cons, List.map_cons, List.intercalate_cons_cons, hcs]
        exact ⟨_, rfl⟩
    obtain ⟨rest, hrest⟩ := hfirst
    rw [hrest]
    exact List.takeWhile_cons_of_neg hc

/-- The slashes in front of a text decide its root. -/
theorem root_ofString_append {root s : String} (hroot : root = "" ∨ root = "/" ∨ root = "//")
    (hs : s.toList.takeWhile (· == '/') = []) : (ofString (root ++ s)).root = root := by
  have hslashes : ((root ++ s).toList.takeWhile (· == '/')).length = root.toList.length := by
    have hall : ∀ c ∈ root.toList, (c == '/') = true := by
      rcases hroot with rfl | rfl | rfl <;> simp
    rw [String.toList_append, List.takeWhile_append_of_pos hall, hs, List.append_nil]
  show (if _ then "" else if _ then "//" else "/") = root
  rw [hslashes]
  rcases hroot with rfl | rfl | rfl <;> rfl

/-- A root adds no segments. -/
theorem segments_root_append {root : String} (hroot : root = "" ∨ root = "/" ∨ root = "//")
    (s : String) : segments (root ++ s) = segments s := by
  rcases hroot with rfl | rfl | rfl
  · rw [String.empty_append]
  · exact segments_slash_append s
  · have htwo : "//" ++ s = "/" ++ ("/" ++ s) := by rw [← String.append_assoc]; rfl
    rw [htwo, segments_slash_append, segments_slash_append]

/-- The text of a normal path reads as the path. -/
theorem IsNormal.ofString_text (h : p.IsNormal) : ofString p.text = p := by
  obtain ⟨root, parts⟩ := p
  obtain ⟨hroot, hnames⟩ := h
  unfold text
  split
  · next hempty =>
    obtain ⟨rfl, rfl⟩ : root = "" ∧ parts = [] :=
      ⟨String.isEmpty_iff.1 hempty.1, List.isEmpty_iff.1 hempty.2⟩
    decide
  · have hroot' := root_ofString_append hroot (takeWhile_intercalate hnames)
    have hparts' : (ofString (root ++ "/".intercalate parts)).parts = parts := by
      rw [parts_ofString, segments_root_append hroot, segments_intercalate,
        flatMap_segments_of_isName hnames]
      exact List.filter_eq_self.2 fun n hn => bne_iff_ne.2 (hnames n hn).1
    exact congrArg₂ Path.mk hroot' hparts'

/-- The path of a location is normal. -/
theorem isNormal_ofLocation {names : List String} (h : ∀ n ∈ names, IsName n) :
    (ofLocation names).IsNormal := ⟨Or.inr (Or.inl rfl), h⟩

/-- Normal paths join to a normal path. -/
theorem IsNormal.join {q : Path} (hp : p.IsNormal) (hq : q.IsNormal) : (p.join q).IsNormal := by
  unfold Path.join
  split
  · exact hq
  · exact ⟨hp.root_eq, List.forall_mem_append.2 ⟨hp.names, hq.names⟩⟩

/-- A path behind an absolute one is absolute. -/
theorem isAbsolute_join {q : Path} (hp : p.isAbsolute = true) : (p.join q).isAbsolute = true := by
  unfold Path.join
  split
  · next hq => exact hq
  · exact hp

/-- The text of an absolute path starts with a slash. -/
theorem IsNormal.exists_text_eq (h : p.IsNormal) (habsolute : p.isAbsolute = true) :
    ∃ cs, p.text.toList = '/' :: cs := by
  obtain ⟨root, parts⟩ := p
  have hroot : root = "/" ∨ root = "//" := by
    refine h.root_eq.resolve_left fun hempty => ?_
    rw [isAbsolute, hempty] at habsolute
    cases habsolute
  have htext : (Path.mk root parts).text = root ++ "/".intercalate parts := by
    rcases hroot with rfl | rfl <;> rfl
  rw [htext, String.toList_append]
  rcases hroot with rfl | rfl <;> exact ⟨_, rfl⟩

end Text

end Path

end RouteAtlas.Project
