import RouteAtlas.Proofs.Mock.Servable
import RouteAtlas.Proofs.Scan.ServedRoute
import RouteAtlas.Server.Answer

/-!
# Answers of the mock server

A request that a route is found for is answered from every state of the source of random values, exactly
if the route returns nothing or what it returns has plain values only (`scan_mock_answers`). Otherwise
some state of the source leaves the request without an answer.
-/

namespace RouteAtlas.Server

open RouteAtlas.Api RouteAtlas.Document RouteAtlas.Mock RouteAtlas.Project RouteAtlas.Reflect
open RouteAtlas.Routing RouteAtlas.Scan RouteAtlas.Syntax

/-- The answer to a route: without a body if the route returns nothing, else a plain value with the
status of the route. -/
inductive Answers (route : Route) : Response → Prop
  | nothing (h : returnsNothing route = true) : Answers route { status := 204 }
  | value (h : returnsNothing route = false) {v : Value} (hv : v.IsPlain) :
      Answers route (.ofValue route.status v)

/-! ## Runs -/

section Runs

variable {α : Type}

/-- A message is added to the log. -/
theorem run_note (level : Level) (topic : Topic) (text : String) (j : Journal) :
    (Serving.note level topic text).run.run j =
      (.ok (), { j with log := j.log ++ [⟨level, topic, text⟩] }) := rfl

/-- A generator runs on the source of the server. -/
theorem run_mock (g : Gen α) (j : Journal) : (Serving.mock g).run.run j =
    ((g.runFrom j.source).1.mapError .mock, { j with source := (g.runFrom j.source).2 }) := rfl

end Runs

/-- What becomes of a value or fault of the generator. -/
def respond (route : Route) : Except MockFault Value → Except ServeFault Response
  | .ok v => answerValue route v
  | .error fault => .error (.mock fault)

/-- A value that can be sent is answered with. -/
theorem answerValue_of_isSendable (route : Route) {v : Value} (h : v.isSendable = true) :
    answerValue route v = .ok (.ofValue route.status v) := by
  rw [v.isSendable_eq, Bool.and_eq_true, Bool.and_eq_true, Bool.not_eq_true', Bool.not_eq_true'] at h
  obtain ⟨hfinite, hshort, hencodable⟩ := h
  unfold answerValue
  rw [hfinite, hshort, hencodable]
  rfl

/-- An infinity or a number of too many digits breaks the answer off. -/
theorem answerValue_of_number (route : Route) {v : Value}
    (h : v.isFinite = false ∨ v.hasLongInteger = true) : answerValue route v = .error .number := by
  unfold answerValue
  rcases h with hfinite | hlong
  · rw [hfinite]
    rfl
  · rw [hlong, Bool.or_true, if_pos rfl]

/-- Of a value without long numbers, a surrogate breaks the answer off if no infinity does. -/
theorem answerValue_of_surrogate (route : Route) {v : Value} (hshort : v.hasLongInteger = false)
    (h : v.hasSurrogate = true) :
    answerValue route v = .error (if v.isFinite then .surrogate else .number) := by
  unfold answerValue
  rw [hshort, h]
  cases v.isFinite <;> rfl

/-- Any other value breaks the answer off. -/
theorem answerValue_of_not (route : Route) {v : Value} (h : v.isSendable = false) :
    ∃ fault, answerValue route v = .error fault := by
  rcases Value.isSendable_eq_false_iff.1 h with hnumber | hsurrogate
  · exact ⟨_, answerValue_of_number route hnumber⟩
  · cases hlong : v.hasLongInteger with
    | true => exact ⟨_, answerValue_of_number route (.inr hlong)⟩
    | false => exact ⟨_, answerValue_of_surrogate route hlong hsurrogate⟩

section Exchange

variable {s : Service} {verb path : String} {route : Route}

/-- A route that is found is answered with what the source gives for it. -/
theorem run_answerMock (hfound : s.routes.lookup verb path = some route) (j : Journal) :
    ((s.answerMock verb path).run.run j).1 =
      if returnsNothing route then .ok { status := 204 }
      else respond route ((mockOf route).runFrom j.source).1 := by
  unfold Service.answerMock
  rw [hfound]
  dsimp only
  rw [run_bind, run_note]
  dsimp only
  split
  · rfl
  · rw [run_bind, run_mock]
    dsimp only
    rcases (mockOf route).runFrom j.source with ⟨fault | v, source⟩
    · rfl
    · show ((liftM (answerValue route v) : Serving Response).run.run _).1 = answerValue route v
      rcases answerValue route v with fault | response <;> rfl

/-- A request that a route is found for is answered with what the source gives for it. -/
theorem exchange_eq {r : Request} (hmock : s.mockPath? r = some path)
    (hfound : s.routes.lookup r.verb path = some route) (source : Source) (log : Log) :
    (({ s with source } : Service).exchange r log).1 =
      if returnsNothing route then .ok { status := 204 }
      else respond route ((mockOf route).runFrom source).1 := by
  have hmock' : ({ s with source } : Service).mockPath? r = some path := hmock
  unfold Service.exchange Service.answer
  rw [hmock']
  exact run_answerMock (s := { s with source }) hfound ⟨source, log⟩

end Exchange

/-! ## Routes of a scan -/

/-- What a route of a scanned project returns is a reflected annotation. -/
theorem exists_reflectHint_of_route {files : List SourceFile} {log log' : Log}
    {controllers : List Controller} (h : (controllersOf files).runFrom log = (.ok controllers, log'))
    {route : Route} (hroute : route ∈ RouteTable.ofControllers controllers) :
    ∃ index written, reflectHint index false written = .ok route.endpoint.returnType := by
  obtain ⟨c, hc, e, he, rfl⟩ := mem_ofControllers_iff.1 hroute
  obtain ⟨index, r, _, hcontroller⟩ := exists_router_of_mem h hc
  obtain ⟨endpoints, hendpoints, hcontroller⟩ := exists_of_bind_eq_ok hcontroller
  obtain rfl := Except.ok.inj hcontroller
  obtain ⟨handler, _, hendpoint⟩ := exists_of_mem_right (mapM_eq_ok_iff.1 hendpoints) he
  obtain ⟨_, _, hendpoint⟩ := exists_of_bind_eq_ok hendpoint
  obtain ⟨t, ht, hendpoint⟩ := exists_of_bind_eq_ok hendpoint
  obtain rfl := Except.ok.inj hendpoint
  exact ⟨index, _, eq_ok_of_mapError_eq_ok ht⟩

/-- Every state of the source answers a route: the route returns nothing, or plain values only. -/
def answerable (route : Route) : Bool :=
  returnsNothing route || servable none route.endpoint.returnType

/-- In a scanned project a request that a route is found for is answered from every state of the source
if the route is answerable, and otherwise some state leaves it without an answer. -/
theorem scan_mock_answers {tree : FileTree} {root : Project.Path} {log log' : Log}
    {controllers : List Controller} (h : (scan tree root).runFrom log = (.ok controllers, log'))
    {s : Service} (hroutes : s.routes = .ofControllers controllers) {r : Request} {path : String}
    {route : Route} (hmock : s.mockPath? r = some path)
    (hfound : s.routes.lookup r.verb path = some route) :
    (answerable route = true → ∀ source log, ∃ response,
      (({ s with source } : Service).exchange r log).1 = .ok response ∧ Answers route response) ∧
    (answerable route = false → ∃ source, ∀ log, ∃ fault,
      (({ s with source } : Service).exchange r log).1 = .error fault) := by
  have hmem : route ∈ RouteTable.ofControllers controllers :=
    hroutes ▸ (of_lookup_eq_some hfound).1
  obtain ⟨c, hc, _⟩ := mem_ofControllers_iff.1 hmem
  obtain ⟨files, before, after, _, hrun⟩ := exists_files_of_scan h hc
  obtain ⟨index, written, hreflect⟩ := exists_reflectHint_of_route hrun hmem
  unfold answerable
  constructor
  · intro hanswerable source log
    rw [exchange_eq hmock hfound]
    cases hnothing : returnsNothing route with
    | true => exact ⟨_, rfl, .nothing hnothing⟩
    | false =>
      rw [hnothing, Bool.false_or] at hanswerable
      obtain ⟨v, source', hv, hplain⟩ :=
        (gives_generate_of_reflectHint hreflect none hanswerable).exists_run source
      refine ⟨.ofValue route.status v, ?_, .value hnothing hplain⟩
      rw [if_neg Bool.false_ne_true]
      unfold mockOf respond
      rw [hv]
      exact answerValue_of_isSendable route hplain.isSendable
  · intro hanswerable
    obtain ⟨hnothing, hservable⟩ := Bool.or_eq_false_iff.1 hanswerable
    obtain ⟨ns, hfollows⟩ := follows_generate_of_reflectHint hreflect none
    obtain ⟨source, hsource⟩ := hfollows.exists_run
    refine ⟨source, fun log => ?_⟩
    rw [exchange_eq hmock hfound, hnothing, if_neg Bool.false_ne_true]
    unfold mockOf respond
    rcases hgenerated : (generate none route.endpoint.returnType).runFrom source with ⟨fault | v, s'⟩
    · exact ⟨_, rfl⟩
    · exact answerValue_of_not route (hsource v s' hgenerated hservable)

/-- A server for the routes of these controllers. -/
def serviceOf (controllers : List Controller) : Service where
  options := { address := "", source := .ofString ".", title := .null, version := .null }
  controllers := controllers
  routes := .ofControllers controllers
  document := .null
  views := []
  source := {}

/-- A request to that server. -/
def requestA : Request := ⟨"GET", "/scramble-mock/a"⟩

/-- That request asks for the path of the route. -/
theorem mockPath?_serviceOf (controllers : List Controller) :
    (serviceOf controllers).mockPath? requestA = some "/a" := by
  have hpath : (serviceOf []).mockPath? requestA = some "/a" := by decide +kernel
  exact hpath

/-- A project with one route. -/
def routeProject : FileTree where
  entries := [(["project"], .directory), (["project", "api.py"], .file
    "r=APIRouter()\n@r.get(\"/a\")\ndef f():...\n".toUTF8.toList)]
  cwd := ["project"]

/-- A route that declares nothing about its values is answered from every state of the source. -/
theorem scan_mock_answers_of_routeProject :
    ∃ controllers log route,
      (scan routeProject (.ofString ".")).runFrom [] = (.ok controllers, log) ∧
      (serviceOf controllers).routes.lookup requestA.verb "/a" = some route ∧
      ∀ source log, ∃ response,
        (({ serviceOf controllers with source } : Service).exchange requestA log).1 = .ok response ∧
          Answers route response := by
  have hscan : ((scan routeProject (.ofString ".")).runFrom []).1.toOption.any (fun controllers =>
      ((serviceOf controllers).routes.lookup requestA.verb "/a").any answerable) = true := by
    decide +kernel
  obtain ⟨controllers, log, hrun, hroute⟩ := Logged.exists_run_of_any hscan
  obtain ⟨route, hfound, hanswerable⟩ := (Option.any_eq_true _ _).1 hroute
  exact ⟨controllers, log, route, hrun, hfound,
    (scan_mock_answers hrun rfl (mockPath?_serviceOf controllers) hfound).1 hanswerable⟩

/-! ## A choice between no literals -/

/-- The annotation `Literal[()]`. -/
def emptyChoice : Expr := .subscript (.name "Literal") (.tuple [])

/-- The decorator of a handler. -/
def getDecorator : Expr := .call (.attribute (.name "router") "get") [.constant (.str "/a" false)] []

/-- A handler that returns it. -/
def choiceHandler : FunctionDecl × RouteDecorator :=
  (⟨"item", Signature.empty, [], [getDecorator], some emptyChoice⟩,
    ⟨"get", [.constant (.str "/a" false)], []⟩)

/-- A file with that handler. -/
def choiceFile : SourceFile := ⟨⟨"", ["api.py"]⟩, ⟨[
  .assign [.name "router"] (.call (.name "APIRouter") [] []),
  .function "item" Signature.empty [] [getDecorator] (some emptyChoice)]⟩⟩

/-- The endpoint of that handler: a union without members. -/
def choiceEndpoint : Endpoint where
  name := "item"
  verb := "GET"
  route := "/a"
  parameters := []
  returnType := .union "Literal[()]" false []

/-- The controller of that file. -/
def choiceController : Controller where
  name := "api"
  path := ""
  endpoints := [choiceEndpoint]
  sourceFile := "api.py"

/-- The annotation is reflected as a union without members. -/
theorem reflectHint_emptyChoice (index : ClassIndex) :
    reflectHint index false (some emptyChoice) = .ok (.union "Literal[()]" false []) := by
  have hform : TypeForm.ofExpr emptyChoice = .choice [] := rfl
  have hprint : printed emptyChoice = .ok "Literal[()]" := by decide +kernel
  show reflect index [] false emptyChoice = _
  rw [reflect_choice hform, hprint]
  rfl

/-- That file with another body of the handler. -/
def choiceFileWith (body : List Stmt) : SourceFile := ⟨⟨"", ["api.py"]⟩, ⟨[
  .assign [.name "router"] (.call (.name "APIRouter") [] []),
  .function "item" Signature.empty body [getDecorator] (some emptyChoice)]⟩⟩

section ChoiceFile

variable {body : List Stmt}

/-- The handler gives that endpoint, whatever its body does. -/
theorem endpointOf_choiceHandler (hbody : docstring? body = none) (index : ClassIndex) :
    endpointOf index [] { choiceHandler.1 with body } choiceHandler.2 = .ok choiceEndpoint := by
  have hhint : resolveAlias [] (choiceHandler.2.returnHint { choiceHandler.1 with body }) =
      some emptyChoice := rfl
  unfold endpointOf FunctionDecl.summary
  rw [hhint, reflectHint_emptyChoice]
  dsimp only
  rw [hbody]
  rfl

/-- Whatever the handler does, a body without a docstring and mounts leaves its controller as it is. -/
theorem controllersOf_choiceFileWith (hbody : docstring? body = none)
    (hmounts : mountsOf [choiceFileWith body] [⟨choiceFileWith body, "router", .router, "", []⟩] = []) :
    (controllersOf [choiceFileWith body]).runFrom [] =
      (.ok [choiceController], [⟨.info, .scan, "  - api (1 endpoint(s))"⟩]) := by
  have hrouters : [choiceFileWith body].flatMap (·.routers) =
      [⟨choiceFileWith body, "router", .router, "", []⟩] := rfl
  have hhandlers : handlersOf (choiceFileWith body).module "router" =
      [({ choiceHandler.1 with body }, choiceHandler.2)] := rfl
  have hindex : ([choiceFileWith body].foldlM (fun index f => index.addModule f.module f.path.text)
      ClassIndex.empty : Scanning ClassIndex).runFrom [] = (.ok ClassIndex.empty, []) := rfl
  have hcontroller : controllerOf ClassIndex.empty [] []
      ⟨choiceFileWith body, "router", .router, "", []⟩ = .ok choiceController := by
    unfold controllerOf
    dsimp only
    rw [hhandlers, List.mapM_cons, endpointOf_choiceHandler hbody]
    -- the name comes from the path of the file, whatever the file holds
    change Except.ok (⟨controllerName ⟨choiceFile, "router", .router, "", []⟩ ⟨"", []⟩,
      normalizeRoute (joinStarts "" ""), [choiceEndpoint], "api.py"⟩ : Controller) = _
    rfl
  unfold controllersOf
  rw [Logged.runFrom_bind, hindex]
  dsimp only
  rw [hrouters, List.filterMapM_cons]
  have haliases : aliasesOf [choiceFileWith body] = [] := rfl
  rw [haliases, hmounts, hcontroller]
  rfl

end ChoiceFile

/-- The file gives that controller. -/
theorem controllersOf_choiceFile : (controllersOf [choiceFile]).runFrom [] =
    (.ok [choiceController], [⟨.info, .scan, "  - api (1 endpoint(s))"⟩]) :=
  controllersOf_choiceFileWith rfl rfl

/-- A choice between no literals is reflected, and a request for it has no answer. -/
theorem not_forall_mock_answers :
    ¬ ∀ (files : List SourceFile) (log log' : Log) (controllers : List Controller) (s : Service)
      (r : Request) (path : String) (route : Route),
      (controllersOf files).runFrom log = (.ok controllers, log') →
      s.routes = .ofControllers controllers → s.mockPath? r = some path →
      s.routes.lookup r.verb path = some route →
      ∀ log, ∃ response, (s.exchange r log).1 = .ok response := by
  intro h
  have hsome : ((serviceOf [choiceController]).routes.lookup requestA.verb "/a").isSome = true := by
    decide +kernel
  obtain ⟨route, hfound⟩ := Option.isSome_iff_exists.1 hsome
  obtain ⟨response, hresponse⟩ := h [choiceFile] [] _ [choiceController]
    (serviceOf [choiceController]) requestA "/a" route controllersOf_choiceFile rfl
    (mockPath?_serviceOf _) hfound []
  have hfails : ((serviceOf [choiceController]).exchange requestA []).1.isOk = false := by
    decide +kernel
  rw [hresponse] at hfails
  cases hfails

end RouteAtlas.Server
