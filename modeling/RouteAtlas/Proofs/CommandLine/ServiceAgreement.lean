import RouteAtlas.Proofs.CommandLine.CommandRun
import RouteAtlas.Proofs.Mock.Seeding
import RouteAtlas.Proofs.Project.PathText
import RouteAtlas.Proofs.Server.StartedService

/-!
# The program and the server agree

The program and a server that read one project in one environment make the same of it. A document that
the program writes for the source directory of the server is the body with which the server answers
requests for its document, and with a seed the collection that the program writes is the one that the
server exports at its start (`program_agrees_with_service`).
-/

namespace RouteAtlas.CommandLine

open RouteAtlas.Api RouteAtlas.Collection RouteAtlas.Document RouteAtlas.Mock RouteAtlas.OpenApi
open RouteAtlas.Project RouteAtlas.Scan RouteAtlas.Server

/-- A call of the program for the source directory of a service. -/
def callFor (c : Circumstances) (tree : FileTree) (command : CommandName) (s : Service)
    (output : String) : Outcome :=
  run c tree (outputArguments command s.options.source.text output)

section Agreement

variable {tree tree' : FileTree} {env : Environment} {given : Option Options} {s : Service}

/-- The options of a service describe its API as the program does. -/
theorem describes_of_resolves {o : Options} {r : ResolvedOptions}
    (h : Resolves tree env (.ofLocation tree.cwd) o r) : Describes tree env o (apiInfoOf r) :=
  ⟨h.title, h.version, h.address, congrArg Options.apiDescription h.options⟩

/-- The source directory of a service can be handed on as its text. -/
theorem source_of_resolves {o : Options} {r : ResolvedOptions} (hcwd : ∀ n ∈ tree.cwd, IsName n)
    (h : Resolves tree env (.ofLocation tree.cwd) o r) :
    Path.ofString r.source.text = r.source ∧ ∃ cs, r.source.text.toList = '/' :: cs := by
  have hnormal : r.source.IsNormal := h.isNormal_source (Path.isNormal_ofLocation hcwd)
  have habsolute : r.source.isAbsolute = true := by
    obtain ⟨text, htext⟩ := h.source
    rw [htext]
    exact Path.isAbsolute_join rfl
  exact ⟨hnormal.ofString_text, hnormal.exists_text_eq habsolute⟩

end Agreement

/-- A call of the program and a server that read one project in one environment agree: the document that
the program writes is the answer of the server to requests for its document; and with a seed the
collection that the program writes is the one that the server has exported, unless the server has
reported that it cannot be written, and then there is no such file. -/
theorem program_agrees_with_service {tree tree' : FileTree} {env : Environment}
    {given : Option Options} {script script' : List Nat} {s : Service} {log log' : Log}
    (hcwd : ∀ n ∈ tree.cwd, IsName n)
    (hgiven : ∀ o ∈ given, ∃ log log',
      (loadOptions tree none (.ofLocation tree.cwd)).runFrom log = (.ok o, log'))
    (hstart : (startService tree env (.ofLocation tree.cwd) given script').runFrom log =
      (.ok (tree', s), log')) :
    (∀ output, (callFor ⟨env, script⟩ tree .openapi s output).stop = none →
      ∃ text, Holds (callFor ⟨env, script⟩ tree .openapi s output).session.tree (.ofString output)
          text ∧ AnswersWith s text) ∧
    (s.options.seed.isSome = true → s.options.autoExportPostman = true → s.controllers ≠ [] →
      ∀ output, (callFor ⟨env, script⟩ tree .generate s output).stop = none →
      ∃ text, Holds (callFor ⟨env, script⟩ tree .generate s output).session.tree (.ofString output)
          text ∧
        (Holds tree' (exportPath (.ofLocation tree.cwd) s) text ∨
          (∃ fault, tree'.readBytes (exportPath (.ofLocation tree.cwd) s) = .error fault) ∧
            ∃ error, exportFailed error ∈ log')) := by
  obtain ⟨hserves, _, hexport⟩ := of_runFrom_startService hstart
  obtain ⟨o, hstarts, hresolves⟩ := hserves.options
  obtain ⟨_, _, hscan⟩ := hserves.controllers
  have hloaded : ∃ log log', (loadOptions tree none (.ofLocation tree.cwd)).runFrom log =
      (.ok o, log') := by
    cases hstarts with
    | given => exact hgiven o rfl
    | loaded h => exact ⟨_, _, h⟩
  obtain ⟨_, _, hloaded⟩ := hloaded
  obtain ⟨hsource, cs, hcs⟩ := source_of_resolves hcwd hresolves
  constructor
  · intro output hstop
    obtain ⟨o', _, hload, controllers, _, info, text, hrun, hdescribes, htext, hbytes, hholds⟩ :=
      of_run_openapi hcs hstop
    obtain rfl := (steady_loadOptions _ _ _).eq_of_runs hload hloaded
    rw [hsource] at hrun
    obtain rfl := (steady_scan _ _).eq_of_runs hrun hscan
    obtain rfl := hdescribes.unique (describes_of_resolves hresolves)
    rw [← hserves.document] at htext hbytes
    exact ⟨text, hholds, answersWith_of_dump htext hbytes⟩
  · intro hseed hon hcontrollers output hstop
    obtain ⟨o', _, hload, controllers, _, hrun, hwrites⟩ := of_run_generate hcs hstop
    obtain rfl := (steady_loadOptions _ _ _).eq_of_runs hload hloaded
    rw [hsource] at hrun
    obtain rfl := (steady_scan _ _).eq_of_runs hrun hscan
    obtain ⟨name, baseUrl, collection, text, hname, hbaseUrl, hcollection, htext, hholds⟩ :=
      hwrites hcontrollers
    obtain rfl := hname.unique hresolves.title
    obtain rfl := hbaseUrl.unique hresolves.address
    obtain ⟨exported, hexported, hfile⟩ := hexport hon
    have hsame : collection = exported := by
      have hoptions : s.options.toOptions = o' := hresolves.options
      have hseeded := ofControllers_of_seed hseed
        { name := s.options.title, baseUrl := s.options.address } s.controllers script script'
      rw [hoptions, hcollection] at hseeded
      rw [hoptions] at hexported
      exact Except.ok.inj (hseeded.trans hexported)
    exact ⟨text, hholds, hfile.holds (hsame ▸ htext)⟩

/-- A project whose options give a seed and ask for an export. -/
def seededProject : FileTree where
  entries := [(["project"], .directory), (["project", "src"], .directory),
    (["project", "src", "api.py"], .file
      "r=APIRouter()\n@r.get(\"/a\")\ndef f():...\n".toUTF8.toList),
    (["project", "scramble.yaml"], .file "seed: 7\nauto_export_postman: true\n".toUTF8.toList)]
  cwd := ["project"]

/-- Where a server of that project shows its documentation. -/
def seededDocs : DocsAddresses := ⟨"/docs"⟩

/-- A request for the document of a server. -/
def documentRequest : Request := ⟨"GET", seededDocs.document⟩

/-- A server of that project asks for an export with a seed, and leaves that request to its
documentation. -/
def exportsWithSeed (s : Service) : Bool :=
  s.options.seed.isSome && s.options.autoExportPostman && !s.controllers.isEmpty &&
    s.options.source.text == "/project/src" && (s.mockPath? documentRequest).isNone &&
    DocsAddresses.ofOptions s.options.toOptions == seededDocs

/-- The program and a server agree about that project. -/
theorem program_agrees_with_service_of_seededProject :
    ∃ tree' s log', (startService seededProject {} (.ofLocation seededProject.cwd) none []).runFrom [] =
        (.ok (tree', s), log') ∧
      (∃ text, Holds (callFor {} seededProject .openapi s "openapi.json").session.tree
          (.ofString "openapi.json") text ∧
        (s.exchange documentRequest []).1 = .ok (documentResponse text)) ∧
      ∃ text, Holds (callFor {} seededProject .generate s "copy.json").session.tree
          (.ofString "copy.json") text ∧
        Holds tree' (exportPath (.ofLocation seededProject.cwd) s) text := by
  -- the kernel starts the server once for all of its checks
  obtain ⟨hstart, hlog, hopenapi, hgenerate⟩ : ((startService seededProject {}
      (.ofLocation seededProject.cwd) none []).runFrom []).1.toOption.any
        (fun started => exportsWithSeed started.2) = true ∧
      ((startService seededProject {} (.ofLocation seededProject.cwd) none []).runFrom []).2.all
        (·.level != .error) = true ∧
      (run {} seededProject (outputArguments .openapi "/project/src" "openapi.json")).stop.isNone =
        true ∧
      (run {} seededProject (outputArguments .generate "/project/src" "copy.json")).stop.isNone =
        true := by
    decide +kernel
  obtain ⟨⟨tree', s⟩, log', hrun, hchecked⟩ := Logged.exists_run_of_any hstart
  rw [hrun] at hlog
  simp only [exportsWithSeed, Bool.and_eq_true, Bool.not_eq_true', Option.isNone_iff_eq_none,
    beq_iff_eq] at hchecked
  obtain ⟨⟨⟨⟨⟨hseed, hon⟩, hcontrollers⟩, hsource⟩, hmock⟩, hpage⟩ := hchecked
  have hcwd : ∀ n ∈ seededProject.cwd, IsName n := by
    intro n hn
    rw [List.mem_singleton.1 hn]
    exact ⟨by decide, by decide, by decide⟩
  have hstop : (callFor {} seededProject .openapi s "openapi.json").stop = none ∧
      (callFor {} seededProject .generate s "copy.json").stop = none := by
    unfold callFor
    rw [hsource]
    exact ⟨Option.isNone_iff_eq_none.1 hopenapi, Option.isNone_iff_eq_none.1 hgenerate⟩
  have hasks : AsksForDocument s documentRequest := by
    obtain ⟨_, hviews, _⟩ := of_runFrom_startService hrun
    rw [hpage] at hviews
    exact asksForDocument_of_views hviews (by decide) hmock
  obtain ⟨hdocument, hcollection⟩ := @program_agrees_with_service seededProject tree' {} none [] [] s
    [] log' hcwd nofun hrun
  obtain ⟨text, hholds, hanswers⟩ := hdocument "openapi.json" hstop.1
  obtain ⟨copy, hcopy, hexported⟩ := hcollection hseed hon
    (List.isEmpty_eq_false_iff.1 hcontrollers) "copy.json" hstop.2
  refine ⟨tree', s, log', hrun, ⟨text, hholds, ?_⟩, copy, hcopy, hexported.resolve_right ?_⟩
  · exact congrArg Prod.fst (hanswers.2 documentRequest hasks s.source [])
  · rintro ⟨_, error, hmem⟩
    exact bne_iff_ne.1 (List.all_eq_true.1 hlog _ hmem) rfl

end RouteAtlas.CommandLine
