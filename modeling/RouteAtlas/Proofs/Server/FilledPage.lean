import RouteAtlas.Proofs.Text.Markup
import RouteAtlas.Proofs.Text.Template
import RouteAtlas.Server.DocsPage

/-!
# The filled page

The page is what filling its template in one pass makes of it (`filled_pageSource`), whatever the
values. What stands in a hole is inert in the markup around it, and to who reads the markup it is what the
options say (`valueIn`); only the icon stands in the image that shows it (`page_filled_inert`).
-/

namespace RouteAtlas.Server

open RouteAtlas.Text RouteAtlas.Text.Template

/-- The name of a hole in the template. -/
def PageHole.name : PageHole → String
  | .title => "title"
  | .version => "version"
  | .theme => "theme"
  | .primaryColor => "primary_color"
  | .icon => "icon_html"
  | .specUrl => "spec_url"
  | .collectionUrl => "postman_url"
  | .mockStart => "mock_prefix"

/-- The hole of a name. -/
def PageHole.ofName? (name : List Char) : Option PageHole :=
  [PageHole.title, .version, .theme, .primaryColor, .icon, .specUrl, .collectionUrl, .mockStart].find?
    (·.name.toList == name)

/-- A hole is found by its name. -/
theorem PageHole.ofName?_name (h : PageHole) : PageHole.ofName? h.name.toList = some h := by
  cases h <;> decide +kernel

/-- The name of a hole is one that a template can hold. -/
theorem PageHole.isName_name (h : PageHole) : IsName h.name.toList := by
  cases h <;> exact ⟨by decide +kernel, by decide +kernel⟩

/-- A part of the page as the template writes it. -/
def PagePart.source : PagePart → List Char
  | .text s => fixed s.toList
  | .hole h => placeholder h.name.toList

/-- The text of the template. -/
def pageSource : List Char :=
  pageTemplate.flatMap fun line => line.flatMap PagePart.source ++ fixed ['\n']

namespace DocsPage

variable (p : DocsPage)

/-- What stands for a name of the template. -/
def valueOf (name : List Char) : Option (List Char) :=
  (PageHole.ofName? name).map fun h => (p.fill h).toList

/-- A part of the template is filled with that part of the page. -/
theorem filled_part_append (part : PagePart) (rest : List Char) :
    filled p.valueOf (part.source ++ rest) =
      (filled p.valueOf rest).map ((p.part part).toList ++ ·) := by
  cases part with
  | text s => exact filled_fixed_append s.toList rest
  | hole h =>
    refine filled_placeholder_append h.isName_name ?_ rest
    rw [valueOf, h.ofName?_name]
    rfl

/-- A line of the template is filled part by part. -/
theorem filled_line_append (line : PageLine) (rest : List Char) :
    filled p.valueOf (line.flatMap PagePart.source ++ rest) =
      (filled p.valueOf rest).map ((String.join (line.map p.part)).toList ++ ·) := by
  induction line with
  | nil => cases h : filled p.valueOf rest <;> simp [h, Except.map]
  | cons part line ih =>
    rw [List.flatMap_cons, List.append_assoc, filled_part_append, ih, List.map_cons,
      String.join_cons, String.toList_append]
    cases filled p.valueOf rest <;> simp [Except.map]

/-- Lines of the template are filled line by line. -/
theorem filled_lines (lines : List PageLine) :
    filled p.valueOf (lines.flatMap fun line => line.flatMap PagePart.source ++ fixed ['\n']) =
      .ok (String.join (lines.map fun line => String.join (line.map p.part) ++ "\n")).toList := by
  induction lines with
  | nil => rw [List.flatMap_nil, filled, List.map_nil, String.join_nil, String.toList_empty]
  | cons line lines ih =>
    rw [List.flatMap_cons, List.append_assoc, filled_line_append, filled_fixed_append, ih,
      List.map_cons, String.join_cons, String.toList_append, String.toList_append, List.append_assoc]
    rfl

/-- Filling the template in one pass makes the page. -/
theorem filled_pageSource : filled p.valueOf pageSource = .ok p.text.toList :=
  p.filled_lines pageTemplate

end DocsPage

/-- What options and addresses say for a hole: a title that is absent or empty is that of any page, and
without a mock server there is no place where it starts. -/
def valueIn (o : Options) (specUrl collectionUrl : String) : PageHole → String
  | .title => if o.apiTitle.getD "" = "" then "API Docs" else o.apiTitle.getD ""
  | .version => o.apiVersion.getD ""
  | .theme => o.theme.name
  | .primaryColor => o.primaryColor
  | .icon => o.customDomainIcon
  | .specUrl => specUrl
  | .collectionUrl => collectionUrl
  | .mockStart => if o.enableMock then o.mockPrefix else ""

/-- The page of some options inserts what they say as text in markup. -/
theorem fill_ofOptions (o : Options) (specUrl collectionUrl : String) {h : PageHole}
    (hicon : h ≠ .icon) : (DocsPage.ofOptions o specUrl collectionUrl).fill h =
      markupText (valueIn o specUrl collectionUrl h) := by
  cases h with
  | icon => exact absurd rfl hicon
  | title =>
    have htitle : (presentText? o.apiTitle).getD defaultPageTitle =
        valueIn o specUrl collectionUrl .title := by
      unfold presentText? valueIn
      cases o.apiTitle with
      | none => rfl
      | some s => by_cases hs : s = "" <;> simp [hs, defaultPageTitle, Option.filter]
    exact congrArg markupText htitle
  | theme =>
    -- the name of a theme is inserted as it is: no mark stands in it
    show o.theme.name = markupText o.theme.name
    cases o.theme <;> rfl
  | _ => rfl

/-- A text that does nothing to the markup around it, is read as this value, and is the value itself if no
mark stands in it. -/
structure ShowsInertly (s value : String) : Prop where
  inert : IsInert s.toList
  read : readMarkup s.toList = value.toList
  verbatim : (∀ c ∈ value.toList, c ∉ markupMarks) → s = value

/-- A text in markup shows the text. -/
theorem showsInertly_markupText (s : String) : ShowsInertly (markupText s) s where
  inert := toList_markupText s ▸ isInert_markup s.toList
  read := by rw [toList_markupText, readMarkup_markup]
  verbatim := fun h => by
    rw [← String.toList_inj, toList_markupText, markup_of_no_marks h]

/-- The page of any options is its template filled in one pass. What is inserted in a hole shows inertly
what the options and the addresses say for it; for the icon it is nothing, or the image with an address
that shows the icon inertly. -/
theorem page_filled_inert (o : Options) (specUrl collectionUrl : String) :
    let p := DocsPage.ofOptions o specUrl collectionUrl
    filled p.valueOf pageSource = .ok p.text.toList ∧
      (∀ h, h ≠ .icon → ShowsInertly (p.fill h) (valueIn o specUrl collectionUrl h)) ∧
      (o.customDomainIcon = "" → p.fill .icon = "") ∧
      (o.customDomainIcon ≠ "" → ∃ address, ShowsInertly address o.customDomainIcon ∧
        p.fill .icon = "<img class=\"icon\" src=\"" ++ address ++ "\" alt=\"\">") := by
  intro p
  refine ⟨p.filled_pageSource, fun h hicon => ?_, fun hnone => ?_, fun hsome => ?_⟩
  · rw [fill_ofOptions o specUrl collectionUrl hicon]
    exact showsInertly_markupText (valueIn o specUrl collectionUrl h)
  · change DocsPage.iconImage o.customDomainIcon = ""
    rw [hnone]
    rfl
  · refine ⟨_, showsInertly_markupText o.customDomainIcon, ?_⟩
    change DocsPage.iconImage o.customDomainIcon = _
    unfold DocsPage.iconImage
    rw [if_neg (by simpa using hsome)]

end RouteAtlas.Server
