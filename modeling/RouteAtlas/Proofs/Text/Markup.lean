import Mathlib.Data.List.Basic
import RouteAtlas.Text.Markup

/-!
# Inert markup

A text as markup writes it does nothing to the markup around it: no quote or angle bracket stands in it,
and each ampersand begins an entity (`isInert_markup`). It is the text, though, for who reads the markup
(`readMarkup_markup`), and a text without marks is written as it is.
-/

namespace RouteAtlas.Text

/-- The names of the characters that markup gives a meaning. -/
def entities : List (List Char) := ["&amp;", "&lt;", "&gt;", "&quot;", "&#x27;"].map String.toList

/-- The characters that markup gives a meaning. -/
def markupMarks : List Char := ['&', '<', '>', '"', '\'']

/-- Neither quotes nor angle brackets stand in the text, and each ampersand begins an entity. -/
structure IsInert (cs : List Char) : Prop where
  noQuote : '"' ∉ cs ∧ '\'' ∉ cs
  noBracket : '<' ∉ cs ∧ '>' ∉ cs
  entity : ∀ before after, cs = before ++ '&' :: after → ∃ e ∈ entities, e <+: '&' :: after

/-- The characters as markup writes them. -/
def markup (cs : List Char) : List Char := cs.flatMap markupChar

/-- The characters that markup is read as, entity by entity. -/
def readMarkup : List Char → List Char
  | '&' :: 'a' :: 'm' :: 'p' :: ';' :: r => '&' :: readMarkup r
  | '&' :: 'l' :: 't' :: ';' :: r => '<' :: readMarkup r
  | '&' :: 'g' :: 't' :: ';' :: r => '>' :: readMarkup r
  | '&' :: 'q' :: 'u' :: 'o' :: 't' :: ';' :: r => '"' :: readMarkup r
  | '&' :: '#' :: 'x' :: '2' :: '7' :: ';' :: r => '\'' :: readMarkup r
  | c :: r => c :: readMarkup r
  | [] => []

/-- A text is put into markup character by character. -/
theorem toList_markupText (s : String) : (markupText s).toList = markup s.toList := by
  rw [markupText, String.toList_ofList]
  rfl

/-- The first character comes first in markup. -/
theorem markup_cons (c : Char) (cs : List Char) : markup (c :: cs) = markupChar c ++ markup cs :=
  List.flatMap_cons

section Characters

variable {c : Char}

/-- A character is written as it is, or as an entity in which no further mark stands. -/
theorem markupChar_cases (c : Char) : (c ∉ markupMarks ∧ markupChar c = [c]) ∨
    c ∈ markupMarks ∧
      ∃ name, markupChar c = '&' :: name ∧ '&' :: name ∈ entities ∧ ∀ d ∈ name, d ∉ markupMarks := by
  by_cases hmark : c ∈ markupMarks
  · right
    refine ⟨hmark, ?_⟩
    simp only [markupMarks, List.mem_cons, List.not_mem_nil, or_false] at hmark
    rcases hmark with rfl | rfl | rfl | rfl | rfl
    · exact ⟨['a', 'm', 'p', ';'], rfl, by decide +kernel, by simp [markupMarks]⟩
    · exact ⟨['l', 't', ';'], rfl, by decide +kernel, by simp [markupMarks]⟩
    · exact ⟨['g', 't', ';'], rfl, by decide +kernel, by simp [markupMarks]⟩
    · exact ⟨['q', 'u', 'o', 't', ';'], rfl, by decide +kernel, by simp [markupMarks]⟩
    · exact ⟨['#', 'x', '2', '7', ';'], rfl, by decide +kernel, by simp [markupMarks]⟩
  · left
    refine ⟨hmark, ?_⟩
    simp only [markupMarks, List.mem_cons, List.not_mem_nil, or_false, not_or] at hmark
    obtain ⟨hamp, hless, hgreater, hquote, hapostrophe⟩ := hmark
    simp [markupChar, hamp, hless, hgreater, hquote, hapostrophe]

/-- A character that is no mark stays. -/
theorem markupChar_of_not_mark (h : c ∉ markupMarks) : markupChar c = [c] := by
  rcases markupChar_cases c with ⟨-, hc⟩ | ⟨hmark, -⟩
  · exact hc
  · exact absurd hmark h

/-- A character that is no ampersand is read as itself. -/
theorem readMarkup_cons (h : c ≠ '&') (r : List Char) : readMarkup (c :: r) = c :: readMarkup r := by
  rw [readMarkup] <;> exact fun _ heq => absurd heq h

/-- Reading undoes what a character is written as. -/
theorem readMarkup_markupChar_append (c : Char) (r : List Char) :
    readMarkup (markupChar c ++ r) = c :: readMarkup r := by
  by_cases hmark : c ∈ markupMarks
  · simp only [markupMarks, List.mem_cons, List.not_mem_nil, or_false] at hmark
    rcases hmark with rfl | rfl | rfl | rfl | rfl <;> rfl
  · have hamp : c ≠ '&' := by
      rintro rfl
      exact hmark (by decide)
    rw [markupChar_of_not_mark hmark, List.singleton_append, readMarkup_cons hamp]

end Characters

/-! ## Texts -/

/-- A text in markup is read back. -/
theorem readMarkup_markup (cs : List Char) : readMarkup (markup cs) = cs := by
  induction cs with
  | nil => rfl
  | cons c cs ih => rw [markup_cons, readMarkup_markupChar_append, ih]

/-- A text without marks is written as it is. -/
theorem markup_of_no_marks {cs : List Char} (h : ∀ c ∈ cs, c ∉ markupMarks) : markup cs = cs := by
  induction cs with
  | nil => rfl
  | cons c cs ih =>
    obtain ⟨hc, hcs⟩ := List.forall_mem_cons.1 h
    rw [markup_cons, markupChar_of_not_mark hc, ih hcs, List.singleton_append]

/-- Of the marks only ampersands are written. -/
theorem not_mem_markup {c : Char} (hmark : c ∈ markupMarks) (hamp : c ≠ '&') (cs : List Char) :
    c ∉ markup cs := by
  intro hmem
  obtain ⟨d, -, hd⟩ := List.mem_flatMap.1 hmem
  rcases markupChar_cases d with ⟨hplain, hwritten⟩ | ⟨-, name, hwritten, -, hname⟩
  · rw [hwritten, List.mem_singleton] at hd
    exact hplain (hd ▸ hmark)
  · rw [hwritten, List.mem_cons] at hd
    rcases hd with hd | hd
    · exact hamp hd
    · exact hname c hd hmark

/-- An ampersand in what a character is written as begins it, and it is an entity. -/
theorem markupChar_mem_entities {c : Char} {before after : List Char}
    (h : markupChar c = before ++ '&' :: after) : before = [] ∧ markupChar c ∈ entities := by
  rcases markupChar_cases c with ⟨hplain, hwritten⟩ | ⟨-, name, hwritten, hentity, hname⟩
  · have hamp : '&' ∈ [c] := hwritten ▸ h ▸ List.mem_append_right before List.mem_cons_self
    exact absurd (List.mem_singleton.1 hamp ▸ by decide) hplain
  · refine ⟨?_, hwritten ▸ hentity⟩
    rw [hwritten] at h
    cases before with
    | nil => rfl
    | cons d before =>
      have hamp : '&' ∈ name :=
        (List.cons.inj h).2 ▸ List.mem_append_right before List.mem_cons_self
      exact absurd (by decide) (hname '&' hamp)

/-- Each ampersand begins an entity. -/
theorem exists_entity_of_markup {cs before after : List Char}
    (h : markup cs = before ++ '&' :: after) : ∃ e ∈ entities, e <+: '&' :: after := by
  induction cs generalizing before with
  | nil => exact absurd h.symm (List.append_ne_nil_of_right_ne_nil before (List.cons_ne_nil _ _))
  | cons c cs ih =>
    rw [markup_cons] at h
    rcases List.append_eq_append_iff.1 h with ⟨more, rfl, hrest⟩ | ⟨more, hwritten, hrest⟩
    · exact ih hrest
    · cases more with
      | nil => exact @ih [] hrest.symm
      | cons d more =>
        -- the ampersand stands in what the first character is written as, so it begins that
        obtain ⟨rfl, rfl⟩ := List.cons.inj hrest
        obtain ⟨rfl, hentity⟩ := markupChar_mem_entities hwritten
        exact ⟨markupChar c, hentity, hwritten ▸ List.prefix_append ('&' :: more) (markup cs)⟩

/-- A text in markup does nothing to the markup around it. -/
theorem isInert_markup (cs : List Char) : IsInert (markup cs) where
  noQuote := ⟨not_mem_markup (by decide) (by decide) cs, not_mem_markup (by decide) (by decide) cs⟩
  noBracket := ⟨not_mem_markup (by decide) (by decide) cs, not_mem_markup (by decide) (by decide) cs⟩
  entity := fun _ _ => exists_entity_of_markup

end RouteAtlas.Text
