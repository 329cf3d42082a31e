import RouteAtlas.Proofs.Oblivious
import RouteAtlas.Proofs.Server.MockPrefix

/-!
# Requests that generate nothing

A server has one source of random values for its mock server and its collection. Only mock values and
downloads of the collection advance it (`Generates`). The other requests leave it as it is (`IsQuiet`), so
that the answers to the remaining requests are those that they have without them (`answers_remaining`).
-/

namespace RouteAtlas.Server

open RouteAtlas.Api RouteAtlas.Collection RouteAtlas.Document RouteAtlas.Mock RouteAtlas.Routing

/-! ## Kinds of requests -/

/-- The documentation answers the request, and with the collection. -/
def AsksForCollection (s : Service) (r : Request) : Prop :=
  s.mockPath? r = none ∧ r.verb = "GET" ∧
    ∃ pattern, s.views.find? (fun (pattern, _) => pattern.accepts r.path.toList) =
      some (pattern, .collection)

/-- The request is answered with generated values: those of a route, or those of the collection. -/
inductive Generates (s : Service) (r : Request) : Prop
  | value {path : String} {route : Route} (hmock : s.mockPath? r = some path)
      (hfound : s.routes.lookup r.verb path = some route) (hstatus : route.status ≠ 204)
  | download (h : AsksForCollection s r)

/-- The request is answered without generated values: no route answers it, or one that returns nothing,
or the documentation with something else than the collection. -/
inductive IsQuiet (s : Service) (r : Request) : Prop
  | miss {path : String} (hmock : s.mockPath? r = some path)
      (hnone : s.routes.lookup r.verb path = none)
  | nothing {path : String} {route : Route} (hmock : s.mockPath? r = some path)
      (hfound : s.routes.lookup r.verb path = some route) (hstatus : route.status = 204)
  | passedOn (hmock : s.mockPath? r = none) (h : ¬ AsksForCollection s r)

section Kinds

variable {s : Service} {r : Request}

/-- A request is quiet or asks for generated values. -/
theorem isQuiet_or_generates (s : Service) (r : Request) : IsQuiet s r ∨ Generates s r := by
  cases hmock : s.mockPath? r with
  | none =>
    by_cases h : AsksForCollection s r
    · exact Or.inr (.download h)
    · exact Or.inl (.passedOn hmock h)
  | some path =>
    cases hfound : s.routes.lookup r.verb path with
    | none => exact Or.inl (.miss hmock hfound)
    | some route =>
      by_cases hstatus : route.status = 204
      · exact Or.inl (.nothing hmock hfound hstatus)
      · exact Or.inr (.value hmock hfound hstatus)

/-- What kind a request is does not depend on the source of random values. -/
theorem IsQuiet.withSource (h : IsQuiet s r) (source : Source) :
    IsQuiet { s with source } r := by
  cases h with
  | miss hmock hnone => exact .miss hmock hnone
  | nothing hmock hfound hstatus => exact .nothing hmock hfound hstatus
  | passedOn hmock h => exact .passedOn hmock h

end Kinds

/-! ## Work that leaves the source -/

/-- The work draws nothing. -/
def KeepsSource {α : Type} (work : Serving α) : Prop :=
  ∀ j, (work.run.run j).2.source = j.source

/-- A document is answered without a draw. -/
theorem keepsSource_answerDocument (document : Value) (label : String) :
    KeepsSource (answerDocument document label) := by
  intro j
  unfold answerDocument
  split
  · split <;> rfl
  · rfl

section Views

variable {s : Service} {r : Request}

/-- The page is answered without a draw. -/
theorem keepsSource_answerPage (s : Service) : KeepsSource s.answerPage := by
  intro j
  unfold Service.answerPage
  dsimp only
  split <;> rfl

/-- The documentation draws nothing for what it does not answer with the collection. -/
theorem keepsSource_answerDocs (hmock : s.mockPath? r = none) (h : ¬ AsksForCollection s r) :
    KeepsSource (s.answerDocs r) := by
  unfold Service.answerDocs
  split
  · exact fun _ => rfl
  · next pattern view hview =>
    by_cases hverb : r.verb = "GET"
    · rw [if_pos hverb]
      cases view with
      | page => exact keepsSource_answerPage s
      | document => exact keepsSource_answerDocument s.document _
      | collection => exact absurd ⟨hmock, hverb, pattern, hview⟩ h
    · rw [if_neg hverb]
      exact fun _ => rfl

/-- A quiet request leaves the server as it is. -/
theorem IsQuiet.exchange_eq (h : IsQuiet s r) (log : Log) : (s.exchange r log).2.1 = s := by
  have hsource : (s.exchange r log).2.1.source = s.source := by
    cases h with
    | miss hmock hnone => exact ((answeredFromTable_exchange hmock log).of_miss hnone).2
    | nothing hmock hfound hstatus =>
      exact ((answeredFromTable_exchange hmock log).of_nothing hfound hstatus).2
    | passedOn hmock hdownload =>
      unfold Service.exchange
      rw [passedOn_of_mockPath?_eq_none hmock]
      exact keepsSource_answerDocs hmock hdownload ⟨s.source, log⟩
  calc (s.exchange r log).2.1 = { s with source := (s.exchange r log).2.1.source } := rfl
    _ = s := by rw [hsource]

end Views

/-! ## Answers do not depend on the log -/

/-- Both have the same source of random values. -/
def SameSource (j k : Journal) : Prop := j.source = k.source

section SameSource

/-- A message does not depend on those before it. -/
theorem oblivious_note (level : Level) (topic : Topic) (text : String) :
    Oblivious SameSource (Serving.note level topic text) := fun _ _ h => ⟨rfl, h⟩

/-- A mock value depends on the source only. -/
theorem oblivious_mock {α : Type} (g : Gen α) : Oblivious SameSource (Serving.mock g) := by
  intro j k h
  rw [run_mock, run_mock, show j.source = k.source from h]
  exact ⟨rfl, rfl⟩

/-- A filled sample depends on the source only. -/
theorem oblivious_sample {α : Type} (work : Sampling α) :
    Oblivious SameSource (Serving.sample work) := by
  intro j k h
  have hrun (j : Journal) : (Serving.sample work).run.run j =
      ((work.run.run j.source).1.mapError .sample, { j with source := (work.run.run j.source).2 }) :=
    rfl
  rw [hrun, hrun, show j.source = k.source from h]
  exact ⟨rfl, rfl⟩

/-- The mock server does not look at messages. -/
theorem oblivious_answerMock (s : Service) (verb path : String) :
    Oblivious SameSource (s.answerMock verb path) := by
  unfold Service.answerMock
  split
  · exact (oblivious_note _ _ _).bind fun _ => oblivious_pure _
  · refine (oblivious_note _ _ _).bind fun _ => oblivious_ite (oblivious_pure _) ?_
    exact (oblivious_mock _).bind fun _ => oblivious_lift _

/-- A document is answered without a look at messages. -/
theorem oblivious_answerDocument (document : Value) (label : String) :
    Oblivious SameSource (answerDocument document label) := by
  unfold answerDocument
  split
  · exact oblivious_ite (oblivious_throw _) (oblivious_pure _)
  · exact (oblivious_note _ _ _).bind fun _ => oblivious_pure _

/-- The documentation does not look at messages. -/
theorem oblivious_answerView (s : Service) (view : DocsView) :
    Oblivious SameSource (s.answerView view) := by
  cases view with
  | page =>
    show Oblivious SameSource s.answerPage
    unfold Service.answerPage
    dsimp only
    split
    · exact oblivious_pure _
    · exact oblivious_throw _
  | document => exact oblivious_answerDocument s.document _
  | collection =>
    exact (oblivious_sample _).bind fun _ => (oblivious_answerDocument _ _).bind fun _ =>
      oblivious_pure _

/-- No answer looks at messages. -/
theorem oblivious_answer (s : Service) (r : Request) : Oblivious SameSource (s.answer r) := by
  unfold Service.answer
  split
  · exact oblivious_answerMock s _ _
  · unfold Service.answerDocs
    split
    · exact oblivious_pure _
    · exact oblivious_ite (oblivious_answerView s _) (oblivious_pure _)

/-- Neither an answer nor the server after it depends on the messages before. -/
theorem exchange_eq_exchange (s : Service) (r : Request) (log log' : Log) :
    (s.exchange r log).1 = (s.exchange r log').1 ∧
      (s.exchange r log).2.1 = (s.exchange r log').2.1 := by
  obtain ⟨hresult, hsource⟩ := oblivious_answer s r ⟨s.source, log⟩ ⟨s.source, log'⟩ rfl
  exact ⟨hresult, congrArg (fun source => { s with source }) hsource⟩

end SameSource

/-! ## Sequences of requests -/

/-- The answers to requests one after another. -/
def Service.answers (s : Service) (log : Log) : List Request → List (Except ServeFault Response)
  | [] => []
  | r :: rs =>
    let (result, s', log') := s.exchange r log
    result :: s'.answers log' rs

/-- The items that are not deleted. -/
def remaining {α : Type} (kept : List Bool) (xs : List α) : List α :=
  ((xs.zip kept).filter (·.2)).map (·.1)

section Answers

variable {s : Service}

/-- The answers to the requests that remain do not depend on quiet requests between them. -/
theorem answers_eq_of_deleted {marked : List (Request × Bool)}
    (hquiet : ∀ p ∈ marked, p.2 = false → IsQuiet s p.1) (log log' : Log) :
    remaining (marked.map (·.2)) (s.answers log (marked.map (·.1))) =
      s.answers log' (remaining (marked.map (·.2)) (marked.map (·.1))) := by
  induction marked generalizing s log log' with
  | nil => rfl
  | cons p rest ih =>
    obtain ⟨r, kept⟩ := p
    obtain ⟨hr, hrest⟩ := List.forall_mem_cons.1 hquiet
    cases kept with
    | false =>
      -- the server after the request is the one before it
      have hdeleted := ih hrest (s.exchange r log).2.2 log'
      calc remaining (rest.map (·.2))
            ((s.exchange r log).2.1.answers (s.exchange r log).2.2 (rest.map (·.1)))
          = remaining (rest.map (·.2)) (s.answers (s.exchange r log).2.2 (rest.map (·.1))) := by
            rw [(hr rfl).exchange_eq log]
        _ = s.answers log' (remaining (rest.map (·.2)) (rest.map (·.1))) := hdeleted
    | true =>
      -- both runs go on from the same server, with logs of their own
      obtain ⟨hresult, hserver⟩ := exchange_eq_exchange s r log log'
      have hafter := ih (s := (s.exchange r log).2.1)
        (fun p hp hdeleted => (hrest p hp hdeleted).withSource _) (s.exchange r log).2.2
        (s.exchange r log').2.2
      calc (s.exchange r log).1 :: remaining (rest.map (·.2))
            ((s.exchange r log).2.1.answers (s.exchange r log).2.2 (rest.map (·.1)))
          = (s.exchange r log).1 :: (s.exchange r log).2.1.answers (s.exchange r log').2.2
              (remaining (rest.map (·.2)) (rest.map (·.1))) := congrArg _ hafter
        _ = (s.exchange r log').1 :: (s.exchange r log').2.1.answers (s.exchange r log').2.2
              (remaining (rest.map (·.2)) (rest.map (·.1))) := by rw [hresult, hserver]

/-- Quiet requests may be deleted from a sequence, and the remaining ones have the same answers. Every
request that is not quiet is answered with generated values, and no other advances the source. -/
theorem answers_remaining {marked : List (Request × Bool)}
    (hquiet : ∀ p ∈ marked, p.2 = false → IsQuiet s p.1) (log log' : Log) :
    remaining (marked.map (·.2)) (s.answers log (marked.map (·.1))) =
        s.answers log' (remaining (marked.map (·.2)) (marked.map (·.1))) ∧
      ∀ source r, (({ s with source } : Service).exchange r log).2.1.source ≠ source →
        Generates s r := by
  refine ⟨answers_eq_of_deleted hquiet log log', fun source r hchanged => ?_⟩
  refine (isQuiet_or_generates s r).resolve_left fun hr => hchanged ?_
  rw [(hr.withSource source).exchange_eq log]

end Answers

/-- A route that returns a text. -/
def namingRoute : Route where
  controller := ⟨"api", "", [], ""⟩
  endpoint := {
    name := "name", verb := "GET", route := "/items", parameters := [], returnType := .leaf "str" false }
  path := "/items"

/-- A server with that route and the one that returns nothing. -/
def namingService : Service := { prefixedService "mock" with routes := [namingRoute, removalRoute] }

/-- A request to that server. -/
def namingRequest (path : String) : Request := ⟨"GET", path⟩

/-- Between two requests for a text one for nothing, one that no route answers and one for the
documentation are deleted. -/
theorem answers_remaining_of_namingService :
    remaining [true, false, false, false, true] (namingService.answers [] [
        namingRequest "/mock/items", removalRequest "/mock/items", namingRequest "/mock/users",
        namingRequest "/docs", namingRequest "/mock/items"]) =
      namingService.answers [] [namingRequest "/mock/items", namingRequest "/mock/items"] := by
  have hnothing : IsQuiet namingService (removalRequest "/mock/items") := by
    have hfound : namingService.routes.lookup "DELETE" "/items" = some removalRoute := by
      have hother : RouteTable.lookup [removalRoute] "DELETE" "/items" = some removalRoute :=
        List.find?_cons_of_pos (by decide +kernel)
      exact (List.find?_cons_of_neg (by decide +kernel)).trans hother
    exact .nothing (by decide +kernel) hfound rfl
  have hmiss : IsQuiet namingService (namingRequest "/mock/users") := by
    have hnone : (namingService.routes.lookup "GET" "/users").isNone = true := by decide +kernel
    exact .miss (by decide +kernel) (Option.isNone_iff_eq_none.1 hnone)
  have hpassed : IsQuiet namingService (namingRequest "/docs") := by
    refine .passedOn (by decide +kernel) ?_
    rintro ⟨_, _, pattern, hview⟩
    cases hview
  have hquiet : ∀ p ∈ [(namingRequest "/mock/items", true), (removalRequest "/mock/items", false),
      (namingRequest "/mock/users", false), (namingRequest "/docs", false),
      (namingRequest "/mock/items", true)], p.2 = false → IsQuiet namingService p.1 := by
    simp only [List.forall_mem_cons, List.not_mem_nil, false_imp_iff, implies_true, and_true]
    exact ⟨nofun, fun _ => hnothing, fun _ => hmiss, fun _ => hpassed, nofun⟩
  exact (answers_remaining hquiet [] []).1

end RouteAtlas.Server
