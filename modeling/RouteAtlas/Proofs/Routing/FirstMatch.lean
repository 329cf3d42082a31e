import RouteAtlas.Proofs.Fallible
import RouteAtlas.Proofs.Routing.Filling
import RouteAtlas.Routing.RouteTable

/-!
# The first match

`IsFirstAnswer table verb path i r` says that the route at this place of the table has the verb and the
segments of the request, where a segment that begins with a colon goes for every text, and that no route
before it does. Looking up a request gives this route (`lookup_eq_some_iff`). So a request for what a
route of the table stands for is answered, by that route or by one before it, however its segments are
spaced out by slashes (`lookup_first_match`).
-/

namespace RouteAtlas.Routing

open RouteAtlas.Api RouteAtlas.Text

/-- The routes of a table are the endpoints of its controllers. -/
theorem mem_ofControllers_iff {controllers : List Controller} {route : Route} :
    route ∈ RouteTable.ofControllers controllers ↔
      ∃ c ∈ controllers, ∃ e ∈ c.endpoints, (⟨c, e, joinPath c.path e.route⟩ : Route) = route := by
  unfold RouteTable.ofControllers
  simp only [List.mem_flatMap, List.mem_map]

/-! ## Answers -/

/-- The segment stands for every text. -/
def IsParameter (segment : String) : Prop := segment.toList.head? = some ':'

instance (segment : String) : Decidable (IsParameter segment) := inferInstanceAs (Decidable (_ = _))

/-- The route has the verb of the request and as many segments, each of them a parameter or the segment
of the request. -/
structure Answers (r : Route) (verb path : String) : Prop where
  verb : r.endpoint.verb = uppercase verb
  count : (segments r.path).length = (segments path).length
  agree : ∀ (k : Nat) (e a : String), (segments r.path)[k]? = some e → (segments path)[k]? = some a →
    ¬ IsParameter e → e = a

/-- The route at this place of the table answers the request, and none before it does. -/
structure IsFirstAnswer (table : RouteTable) (verb path : String) (i : Nat) (r : Route) : Prop where
  place : table[i]? = some r
  answers : Answers r verb path
  first : ∀ j < i, ∀ r', table[j]? = some r' → ¬ Answers r' verb path

/-- A parameter matches any segment, and any other segment itself. -/
theorem segmentMatches_iff {e a : String} :
    segmentMatches e a = true ↔ (¬ IsParameter e → e = a) := by
  unfold segmentMatches IsParameter
  rw [Bool.or_eq_true, isSome_parameterName?_iff, beq_iff_eq, or_iff_not_imp_left]

/-- A pattern is compared with a path place by place. -/
theorem pathMatches_iff_getElem? {pattern path : String} :
    pathMatches pattern path = true ↔
      (segments pattern).length = (segments path).length ∧
        ∀ (k : Nat) (e a : String), (segments pattern)[k]? = some e → (segments path)[k]? = some a →
          ¬ IsParameter e → e = a := by
  unfold pathMatches
  rw [segmentsMatch_iff, List.forall₂_iff_get]
  refine and_congr_right fun _ => ⟨fun h k e a he ha => ?_, fun h k hk hk' => ?_⟩
  · obtain ⟨hk, rfl⟩ := List.getElem?_eq_some_iff.1 he
    obtain ⟨hk', rfl⟩ := List.getElem?_eq_some_iff.1 ha
    exact segmentMatches_iff.1 (h k hk hk')
  · exact segmentMatches_iff.2 (h k _ _ (List.getElem?_eq_getElem hk) (List.getElem?_eq_getElem hk'))

/-- A route answers its verb, in capitals, on the paths that it matches. -/
theorem answers_iff {r : Route} {verb path : String} :
    Answers r verb path ↔ r.endpoint.verb = uppercase verb ∧ pathMatches r.path path = true := by
  rw [pathMatches_iff_getElem?]
  exact ⟨fun h => ⟨h.verb, h.count, h.agree⟩, fun h => ⟨h.1, h.2.1, h.2.2⟩⟩

section Lookup

variable {table : RouteTable} {verb path : String} {route : Route}

/-- Looking up a request gives the first route that answers it. -/
theorem lookup_eq_some_iff :
    table.lookup verb path = some route ↔ ∃ i, IsFirstAnswer table verb path i route := by
  have hanswers (r : Route) :
      (r.endpoint.verb == uppercase verb && pathMatches r.path path) = true ↔ Answers r verb path := by
    rw [answers_iff, Bool.and_eq_true, beq_iff_eq]
  unfold RouteTable.lookup
  rw [List.find?_eq_some_iff_getElem]
  constructor
  · rintro ⟨hroute, i, hi, rfl, hbefore⟩
    refine ⟨i, List.getElem?_eq_getElem hi, (hanswers _).1 hroute, fun j hj r hr hanswer => ?_⟩
    obtain ⟨_, rfl⟩ := List.getElem?_eq_some_iff.1 hr
    have hnot := hbefore j hj
    rw [(hanswers _).2 hanswer] at hnot
    cases hnot
  · rintro ⟨i, h⟩
    obtain ⟨hi, hroute⟩ := List.getElem?_eq_some_iff.1 h.place
    refine ⟨(hanswers _).2 h.answers, i, hi, hroute, fun j hj => ?_⟩
    rw [Bool.not_eq_true', ← Bool.not_eq_true, hanswers]
    exact h.first j hj _ (List.getElem?_eq_getElem (hj.trans hi))

/-- The route that answers a request is one of the table, has its verb and matches its path. -/
theorem of_lookup_eq_some (h : table.lookup verb path = some route) :
    route ∈ table ∧ route.endpoint.verb = uppercase verb ∧ pathMatches route.path path = true := by
  obtain ⟨i, hfirst⟩ := lookup_eq_some_iff.1 h
  exact ⟨List.mem_of_getElem? hfirst.place, answers_iff.1 hfirst.answers⟩

/-- A request that a route of the table answers is answered by the first such route. -/
theorem exists_lookup_eq_some (hroute : route ∈ table)
    (hverb : route.endpoint.verb = uppercase verb) (hpath : pathMatches route.path path = true) :
    ∃ found, table.lookup verb path = some found := by
  refine Option.isSome_iff_exists.1 (List.find?_isSome.2 ⟨route, hroute, ?_⟩)
  rw [Bool.and_eq_true, beq_iff_eq]
  exact ⟨hverb, hpath⟩

/-- Where a route answers a request, the first answer is there or before it. -/
theorem exists_isFirstAnswer_le {i : Nat} (hroute : table[i]? = some route)
    (h : Answers route verb path) :
    ∃ j ≤ i, ∃ r, IsFirstAnswer table verb path j r ∧ table.lookup verb path = some r := by
  obtain ⟨hverb, hpath⟩ := answers_iff.1 h
  obtain ⟨found, hfound⟩ := exists_lookup_eq_some (List.mem_of_getElem? hroute) hverb hpath
  obtain ⟨j, hfirst⟩ := lookup_eq_some_iff.1 hfound
  exact ⟨j, not_lt.1 fun hlt => hfirst.first i hlt route hroute h, found, hfirst, hfound⟩

end Lookup

/-! ## Requests for a route -/

/-- The text can stand at the place of the segment: a parameter goes for a text that is not empty and has
no slash, any other segment for itself. -/
def Instantiates (segment text : String) : Prop :=
  if IsParameter segment then text ≠ "" ∧ '/' ∉ text.toList else text = segment

instance (segment text : String) : Decidable (Instantiates segment text) :=
  inferInstanceAs (Decidable
    (if IsParameter segment then text ≠ "" ∧ '/' ∉ text.toList else text = segment))

/-- The characters of these parts, each behind one slash and as many more as it says, with slashes after
them. -/
def spacedChars (after : Nat) : List (Nat × String) → List Char
  | [] => List.replicate after '/'
  | (extra, part) :: r => List.replicate extra '/' ++ '/' :: (part.toList ++ spacedChars after r)

/-- The path of these parts, spaced out by slashes. -/
def spacedPath (after : Nat) (parts : List (Nat × String)) : String :=
  String.ofList (spacedChars after parts)

/-- Slashes at the end add no segments. -/
theorem charSegments_append_replicate (xs : List Char) (n : Nat) :
    charSegments (xs ++ List.replicate n '/') = charSegments xs := by
  induction n generalizing xs with
  | zero => rw [List.replicate_zero, List.append_nil]
  | succ n ih =>
    have hslashes : charSegments (List.replicate n '/') = [] := ih []
    rw [List.replicate_succ, charSegments_append_slash, hslashes, List.append_nil]

/-- Behind any text, the parts of a spaced path add their own segments. -/
theorem charSegments_append_spacedChars (xs : List Char) (after : Nat) (parts : List (Nat × String)) :
    charSegments (xs ++ spacedChars after parts) =
      charSegments xs ++ parts.flatMap fun p => charSegments p.2.toList := by
  induction parts generalizing xs with
  | nil => rw [spacedChars, charSegments_append_replicate, List.flatMap_nil, List.append_nil]
  | cons p parts ih =>
    rw [spacedChars, ← List.append_assoc, charSegments_append_slash, charSegments_append_replicate, ih,
      List.flatMap_cons]

/-- The segments of a spaced path are those of its parts. -/
theorem segments_spacedPath (after : Nat) (parts : List (Nat × String)) :
    segments (spacedPath after parts) = parts.flatMap fun p => segments p.2 := by
  have hchars := charSegments_append_spacedChars [] after parts
  rw [List.nil_append] at hchars
  have hnil : charSegments [] = [] := rfl
  rw [spacedPath, segments_eq, String.toList_ofList, hchars, hnil, List.nil_append, List.map_flatMap]
  exact List.flatMap_congr fun p _ => (segments_eq p.2).symm

/-- What stands at the place of a segment is one segment, which the segment accepts. -/
theorem Instantiates.accepts {path s text : String} (h : Instantiates s text) (hs : s ∈ segments path) :
    segments text = [text] ∧ segmentMatches s text = true := by
  unfold Instantiates at h
  split at h
  · next hparameter =>
    exact ⟨segments_of_segment h, segmentMatches_iff.2 fun hnot => absurd hparameter hnot⟩
  · rw [h]
    exact ⟨segments_of_mem hs, segmentMatches_iff.2 fun _ => rfl⟩

/-- A route answers each path that is made of texts at the places of its segments. -/
theorem answers_spacedPath {r : Route} {verb : String} (hverb : r.endpoint.verb = uppercase verb)
    {parts : List (Nat × String)} (h : List.Forall₂ Instantiates (segments r.path) (parts.map (·.2)))
    (after : Nat) : Answers r verb (spacedPath after parts) := by
  have haccepts := ((List.forall₂_and_left _ _).2 ⟨fun _ hs => hs, h⟩).imp fun s text hs =>
    hs.2.accepts hs.1
  have hsegments : segments (spacedPath after parts) = parts.map (·.2) := by
    rw [segments_spacedPath, List.map_eq_flatMap]
    refine List.flatMap_congr fun p hp => ?_
    obtain ⟨_, _, hone, _⟩ := exists_of_mem_right haccepts (List.mem_map_of_mem hp)
    exact hone
  rw [answers_iff]
  unfold pathMatches
  rw [segmentsMatch_iff, hsegments]
  exact ⟨hverb, haccepts.imp fun _ _ h => h.2⟩

/-- A table of routes is searched from its beginning: a request is answered by the first route with its
verb and its segments, and every request for what one of the routes stands for, in any spacing, finds that
route or one before it. -/
theorem lookup_first_match {controllers : List Controller}
    (hverbs : ∀ c ∈ controllers, ∀ e ∈ c.endpoints, uppercase e.verb = e.verb) :
    (∀ verb path route, (RouteTable.ofControllers controllers).lookup verb path = some route ↔
      ∃ i, IsFirstAnswer (.ofControllers controllers) verb path i route) ∧
    ∀ (i : Nat) (route : Route), (RouteTable.ofControllers controllers)[i]? = some route →
      ∀ parts : List (Nat × String), List.Forall₂ Instantiates (segments route.path) (parts.map (·.2)) →
        ∀ after verb, uppercase verb = uppercase route.endpoint.verb →
          ∃ j ≤ i, ∃ r, IsFirstAnswer (.ofControllers controllers) verb (spacedPath after parts) j r ∧
            (RouteTable.ofControllers controllers).lookup verb (spacedPath after parts) = some r := by
  refine ⟨fun verb path route => lookup_eq_some_iff, ?_⟩
  intro i route hroute parts hparts after verb hverb
  obtain ⟨c, hc, e, he, rfl⟩ := mem_ofControllers_iff.1 (List.mem_of_getElem? hroute)
  have hupper : e.verb = uppercase verb := (hverbs c hc e he).symm.trans hverb.symm
  exact exists_isFirstAnswer_le hroute (answers_spacedPath hupper hparts after)

/-- Two routes of which the first answers the requests for the second as well. -/
def overlappingUsers : Controller :=
  ⟨"users", "/users", ["byId", "me"].zipWith (fun name route =>
    { name, verb := "GET", route, parameters := [], returnType := .leaf "str" false }) [":id", "me"], ""⟩

/-- A request for the second route finds the first one, whatever slashes it has. -/
theorem lookup_first_match_of_overlappingUsers :
    (∀ c ∈ [overlappingUsers], ∀ e ∈ c.endpoints, uppercase e.verb = e.verb) ∧
    ∃ j ≤ 1, ∃ r, IsFirstAnswer (.ofControllers [overlappingUsers]) "get" "//users///me/" j r ∧
      RouteTable.lookup (.ofControllers [overlappingUsers]) "get" "//users///me/" = some r ∧
      r.endpoint.name = "byId" := by
  have hverbs : ∀ c ∈ [overlappingUsers], ∀ e ∈ c.endpoints, uppercase e.verb = e.verb := by
    decide +kernel
  have hsegments : segments "/users/me" = ["users", "me"] := by decide +kernel
  have hspaced : spacedPath 1 [(1, "users"), (2, "me")] = "//users///me/" := by decide +kernel
  have hparts : List.Forall₂ Instantiates (segments "/users/me") ["users", "me"] := by
    rw [hsegments]
    exact .cons (by decide +kernel) (.cons (by decide +kernel) .nil)
  have hname : (RouteTable.lookup (.ofControllers [overlappingUsers]) "get" "//users///me/").map
      (·.endpoint.name) = some "byId" := by
    decide +kernel
  obtain ⟨j, hj, r, hfirst, hfound⟩ :=
    (lookup_first_match hverbs).2 1 _ rfl [(1, "users"), (2, "me")] hparts 1 "get" (by decide +kernel)
  rw [hspaced] at hfirst hfound
  rw [hfound] at hname
  exact ⟨hverbs, j, hj, r, hfirst, hfound, Option.some.inj hname⟩

end RouteAtlas.Routing
