import RouteAtlas.Proofs.Routing.JoinedPath
import RouteAtlas.Proofs.Server.MockAnswer

/-!
# Where the mock server answers

The prefix of the mock server counts without the slashes around it (`Spells`). A request is answered from
the route table if its path goes on behind the prefix with a slash, and every other request is passed on
to the documentation (`exchange_of_mockPrefix`). A prefix of slashes only still has the one slash that is
put in front of it, so only paths with two slashes are below it.
-/

namespace RouteAtlas.Server

open RouteAtlas.Api RouteAtlas.Document RouteAtlas.Mock RouteAtlas.Routing RouteAtlas.Text

/-! ## Slashes around a text -/

/-- The text is the core between slashes, and the core neither begins nor ends with one. -/
structure Spells (text core : String) : Prop where
  between : ∃ m n, text.toList = List.replicate m '/' ++ core.toList ++ List.replicate n '/'
  head : core.toList.head? ≠ some '/'
  last : core.toList.getLast? ≠ some '/'

/-- Every text is some core between slashes. -/
theorem exists_spells (text : String) : ∃ core, Spells text core := by
  obtain ⟨m, hfront⟩ := exists_replicate_append_dropWhile text.toList
  obtain ⟨n, hback⟩ :=
    exists_replicate_append_dropWhile (text.toList.dropWhile (· == '/')).reverse
  have hcore : text.toList.dropWhile (· == '/') =
      trim (· == '/') text.toList ++ List.replicate n '/' := calc
    text.toList.dropWhile (· == '/') = (text.toList.dropWhile (· == '/')).reverse.reverse :=
      (List.reverse_reverse _).symm
    _ = (List.replicate n '/' ++ (text.toList.dropWhile (· == '/')).reverse.dropWhile
          (· == '/')).reverse := congrArg List.reverse hback
    _ = trim (· == '/') text.toList ++ List.replicate n '/' := by
      rw [List.reverse_append, List.reverse_replicate]
      rfl
  refine ⟨String.ofList (trim (· == '/') text.toList), ⟨m, n, ?_⟩, ?_, ?_⟩
  · rw [String.toList_ofList, List.append_assoc, ← hcore]
    exact hfront
  · rw [String.toList_ofList]
    intro hhead
    -- the core is the beginning of what is left behind the slashes in front
    refine head?_dropWhile_ne text.toList ?_
    rw [hcore, List.head?_append, hhead]
    rfl
  · rw [String.toList_ofList]
    unfold trim trimEnd
    rw [List.getLast?_reverse]
    exact head?_dropWhile_ne _

/-- The rooted form of a text is its core behind one slash, however many slashes are around it. -/
theorem Spells.rooted {text core : String} (h : Spells text core) : rooted text = "/" ++ core := by
  obtain ⟨m, n, htext⟩ := h.between
  have hfront : text.toList.dropWhile (· == '/') =
      (core.toList ++ List.replicate n '/').dropWhile (· == '/') := by
    rw [htext, List.append_assoc, dropWhile_replicate_append]
  have htrim : trim (· == '/') text.toList = core.toList := by
    unfold trim trimStart trimEnd
    rw [hfront]
    by_cases hempty : core.toList = []
    · have hnothing := dropWhile_replicate_append n []
      rw [List.append_nil] at hnothing
      rw [hempty, List.nil_append, hnothing]
      rfl
    · have hhead : (core.toList ++ List.replicate n '/').head? ≠ some '/' := by
        rw [List.head?_append_of_ne_nil _ hempty]
        exact h.head
      have hlast : core.toList.reverse.head? ≠ some '/' := by
        rw [List.head?_reverse]
        exact h.last
      rw [dropWhile_of_head?_ne hhead, List.reverse_append, List.reverse_replicate,
        dropWhile_replicate_append, dropWhile_of_head?_ne hlast, List.reverse_reverse]
  unfold Server.rooted
  rw [htrim, String.ofList_toList]

/-! ## Answers from a route table -/

/-- What the mock server says where no route answers. -/
def noRouteResponse : Response := .ofValue 404 (.map [("error", .str noRouteMessage)])

/-- The result and the source that a request for a path leaves, if it is answered from a route table: by
the first route with its verb and a path that accepts its own. -/
inductive AnsweredFromTable (table : RouteTable) (source : Source) (verb path : String) :
    Except ServeFault Response → Source → Prop
  | miss (h : table.lookup verb path = none) :
      AnsweredFromTable table source verb path (.ok noRouteResponse) source
  | nothing {route : Route} (h : table.lookup verb path = some route) (hstatus : route.status = 204) :
      AnsweredFromTable table source verb path (.ok { status := 204 }) source
  | value {route : Route} (h : table.lookup verb path = some route) (hstatus : route.status ≠ 204) :
      AnsweredFromTable table source verb path (respond route ((mockOf route).runFrom source).1)
        ((mockOf route).runFrom source).2

namespace AnsweredFromTable

variable {table : RouteTable} {source after : Source} {verb path : String}
variable {result : Except ServeFault Response}

/-- Where no route answers, nothing is drawn. -/
theorem of_miss (h : AnsweredFromTable table source verb path result after)
    (hnone : table.lookup verb path = none) : result = .ok noRouteResponse ∧ after = source := by
  cases h with
  | miss _ => exact ⟨rfl, rfl⟩
  | nothing hfound _ | value hfound _ =>
    rw [hnone] at hfound
    cases hfound

/-- Where the route returns nothing, nothing is drawn. -/
theorem of_nothing (h : AnsweredFromTable table source verb path result after) {route : Route}
    (hroute : table.lookup verb path = some route) (hstatus : route.status = 204) :
    result = .ok { status := 204 } ∧ after = source := by
  cases h with
  | miss hnone =>
    rw [hroute] at hnone
    cases hnone
  | nothing _ _ => exact ⟨rfl, rfl⟩
  | value hfound hother =>
    rw [hroute] at hfound
    obtain rfl := Option.some.inj hfound
    exact absurd hstatus hother

end AnsweredFromTable

section Answering

variable {s : Service} {r : Request} {path : String}

/-- The mock server answers from the routes of its service. -/
theorem answeredFromTable_answerMock (s : Service) (verb path : String) (j : Journal) :
    AnsweredFromTable s.routes j.source verb path ((s.answerMock verb path).run.run j).1
      ((s.answerMock verb path).run.run j).2.source := by
  unfold Service.answerMock
  cases hfound : s.routes.lookup verb path with
  | none => exact .miss hfound
  | some route =>
    dsimp only
    rw [run_bind, run_note]
    dsimp only
    by_cases hstatus : route.status = 204
    · rw [if_pos (show returnsNothing route = true from beq_iff_eq.2 hstatus)]
      exact .nothing hfound hstatus
    · have hreturns : ¬ returnsNothing route = true := fun h => hstatus (beq_iff_eq.1 h)
      have hvalue : AnsweredFromTable s.routes j.source verb path _ _ := .value hfound hstatus
      rw [if_neg hreturns, run_bind, run_mock]
      revert hvalue
      rcases (mockOf route).runFrom j.source with ⟨fault | v, source⟩
      · exact id
      · show AnsweredFromTable _ _ _ _ (answerValue route v) source →
          AnsweredFromTable _ _ _ _ ((liftM (answerValue route v) : Serving Response).run.run _).1
            ((liftM (answerValue route v) : Serving Response).run.run _).2.source
        rcases answerValue route v with fault | response <;> exact id

/-- A request below the path of the mock server is answered from the route table. -/
theorem answeredFromTable_exchange (hmock : s.mockPath? r = some path) (log : Log) :
    AnsweredFromTable s.routes s.source r.verb path (s.exchange r log).1
      (s.exchange r log).2.1.source := by
  unfold Service.exchange Service.answer
  rw [hmock]
  exact answeredFromTable_answerMock s r.verb path ⟨s.source, log⟩

/-! ## Paths below a prefix -/

/-- What is left behind a start is the rest of the text. -/
theorem dropInitial?_eq_some_iff {sub cs rest : List Char} :
    dropInitial? sub cs = some rest ↔ cs = sub ++ rest := by
  unfold dropInitial?
  constructor
  · intro h
    split at h
    · next hprefix =>
      obtain ⟨tail, rfl⟩ := List.isPrefixOf_iff_prefix.1 hprefix
      rw [← Option.some.inj h, List.drop_left]
    · cases h
  · rintro rfl
    rw [if_pos (List.isPrefixOf_iff_prefix.2 (List.prefix_append sub rest)), List.drop_left]

/-- The mock server answers for the paths that go on behind its own with a slash. -/
theorem mockPath?_eq_some_iff (henabled : s.options.enableMock = true) :
    s.mockPath? r = some path ↔
      r.addressPath = s.mockStart ++ path ∧ path.toList.head? = some '/' := by
  have hsome : s.mockPath? r = some path ↔ ∃ rest,
      dropInitial? s.mockStart.toList r.addressPath.toList = some rest ∧
        rest.head? = some '/' ∧ String.ofList rest = path := by
    unfold Service.mockPath?
    rw [henabled]
    cases dropInitial? s.mockStart.toList r.addressPath.toList with
    | none => simp
    | some rest => simp
  rw [hsome]
  constructor
  · rintro ⟨rest, hrest, hhead, rfl⟩
    refine ⟨String.toList_inj.1 ?_, by rwa [String.toList_ofList]⟩
    rw [String.toList_append, String.toList_ofList]
    exact dropInitial?_eq_some_iff.1 hrest
  · rintro ⟨hpath, hhead⟩
    refine ⟨path.toList, dropInitial?_eq_some_iff.2 ?_, hhead, String.ofList_toList⟩
    rw [hpath, String.toList_append]

/-- The request goes to the documentation as if there were no mock server. -/
def PassedOn (s : Service) (r : Request) : Prop := s.answer r = s.answerDocs r

/-- A request that is not below the prefix is passed on. -/
theorem passedOn_of_mockPath?_eq_none (h : s.mockPath? r = none) : PassedOn s r := by
  unfold PassedOn Service.answer
  rw [h]

end Answering

/-- The path begins with a slash that no other one follows. -/
def BeginsWithOneSlash (path : String) : Prop :=
  path.toList.head? = some '/' ∧ path.toList[1]? ≠ some '/'

/-- A prefix is some core between slashes. A request is answered from the route table if its path is a
slash, the core and a path that begins with a slash, and it is passed on if not. Where the core is empty,
the requests for paths that begin with one slash are passed on. -/
theorem exchange_of_mockPrefix {s : Service} (henabled : s.options.enableMock = true) {r : Request}
    (haddress : r.addressPath = r.path) :
    (∃ core, Spells s.options.mockPrefix core) ∧ ∀ core, Spells s.options.mockPrefix core →
      (∀ path, path.toList.head? = some '/' → r.path = "/" ++ core ++ path → ∀ log,
        AnsweredFromTable s.routes s.source r.verb path (s.exchange r log).1
          (s.exchange r log).2.1.source) ∧
      ((∀ path, path.toList.head? = some '/' → r.path ≠ "/" ++ core ++ path) → PassedOn s r) ∧
      (core = "" → BeginsWithOneSlash r.path → PassedOn s r) := by
  refine ⟨exists_spells _, fun core hspells => ?_⟩
  have hbelow (path : String) : s.mockPath? r = some path ↔
      r.path = "/" ++ core ++ path ∧ path.toList.head? = some '/' := by
    rw [mockPath?_eq_some_iff henabled, haddress, Service.mockStart, hspells.rooted]
  have hpassed (h : ∀ path, path.toList.head? = some '/' → r.path ≠ "/" ++ core ++ path) :
      PassedOn s r := by
    refine passedOn_of_mockPath?_eq_none (Option.eq_none_iff_forall_ne_some.2 fun path hpath => ?_)
    obtain ⟨heq, hhead⟩ := (hbelow path).1 hpath
    exact h path hhead heq
  refine ⟨fun path hhead hpath log => ?_, hpassed, fun hcore hone => ?_⟩
  · exact answeredFromTable_exchange ((hbelow path).2 ⟨hpath, hhead⟩) log
  · refine hpassed fun path hhead hpath => hone.2 ?_
    -- the slash in front of the empty core and that of the path behind it are the first two
    obtain ⟨rest, hrest⟩ := List.head?_eq_some_iff.1 hhead
    rw [hpath, hcore, String.toList_append, hrest]
    rfl

/-- A route that returns nothing. -/
def removalRoute : Route where
  controller := ⟨"api", "", [], ""⟩
  endpoint := {
    name := "remove", verb := "DELETE", route := "/items", parameters := []
    returnType := .leaf "None" false, statusCode := some 204 }
  path := "/items"

/-- A server with that route and this prefix of the mock server. -/
def prefixedService (mockPrefix : String) : Service where
  options := { mockPrefix, address := "", source := .ofString ".", title := .null, version := .null }
  controllers := []
  routes := [removalRoute]
  document := .null
  views := []
  source := {}

/-- A request to remove what is at a path. -/
def removalRequest (path : String) : Request := ⟨"DELETE", path⟩

/-- Slashes around a prefix change nothing, and a longer word is another path. -/
theorem exchange_of_mockPrefix_with_slashes :
    let s := prefixedService "//api/mock/"
    Spells s.options.mockPrefix "api/mock" ∧
      (∀ log, AnsweredFromTable s.routes s.source "DELETE" "/items"
        (s.exchange (removalRequest "/api/mock/items") log).1
        (s.exchange (removalRequest "/api/mock/items") log).2.1.source) ∧
      PassedOn s (removalRequest "/api/mocks/items") := by
  intro s
  have hspells : Spells s.options.mockPrefix "api/mock" :=
    ⟨⟨2, 1, by decide⟩, by decide, by decide⟩
  obtain ⟨_, hbelow⟩ := exchange_of_mockPrefix (s := s) rfl
    (r := removalRequest "/api/mock/items") (by decide +kernel)
  obtain ⟨_, hother⟩ := exchange_of_mockPrefix (s := s) rfl
    (r := removalRequest "/api/mocks/items") (by decide +kernel)
  refine ⟨hspells, (hbelow _ hspells).1 "/items" rfl rfl, (hother _ hspells).2.1 ?_⟩
  intro path hhead hpath
  obtain ⟨rest, hrest⟩ := List.head?_eq_some_iff.1 hhead
  have hlists := congrArg String.toList hpath
  rw [String.toList_append, hrest] at hlists
  -- the paths differ where one goes on with a letter and the other with a slash
  have hplace := congrArg (·[9]?) hlists
  simp [removalRequest] at hplace

/-- Where the mock server is looked for: at the core behind a slash, or at the root where there is no
core. -/
def mockBase (core : String) : String := if core = "" then "" else "/" ++ core

/-- A prefix of one slash leaves the mock server without an answer for the paths of its routes. -/
theorem not_forall_answeredFromTable :
    ¬ ∀ (s : Service) (core path : String) (r : Request) (log : Log), s.options.enableMock = true →
      r.addressPath = r.path → Spells s.options.mockPrefix core → BeginsWithOneSlash path →
      r.path = mockBase core ++ path →
      AnsweredFromTable s.routes s.source r.verb path (s.exchange r log).1
        (s.exchange r log).2.1.source := by
  intro h
  have hspells : Spells (prefixedService "/").options.mockPrefix "" :=
    ⟨⟨1, 0, rfl⟩, by decide, by decide⟩
  have hanswered := h (prefixedService "/") "" "/items" (removalRequest "/items") [] rfl
    (by decide +kernel) hspells ⟨rfl, by decide⟩ rfl
  have hfound : RouteTable.lookup [removalRoute] "DELETE" "/items" = some removalRoute :=
    List.find?_cons_of_pos (by decide +kernel)
  have hnone : (prefixedService "/").mockPath? (removalRequest "/items") = none := by
    decide +kernel
  have hpassed : ((prefixedService "/").exchange (removalRequest "/items") []).1 = .ok .notFound := by
    unfold Service.exchange Service.answer
    rw [hnone]
    rfl
  obtain ⟨hresult, _⟩ := hanswered.of_nothing hfound rfl
  rw [hpassed] at hresult
  cases hresult

end RouteAtlas.Server
