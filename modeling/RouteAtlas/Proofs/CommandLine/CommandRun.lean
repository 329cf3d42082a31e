import RouteAtlas.CommandLine.Run
import RouteAtlas.Proofs.Document.Writing
import RouteAtlas.Proofs.Options.Resolving

/-!
# Runs of commands

What a call of the program has done that ended without a stop. It has loaded the options of the working
directory; if it was asked for a document or a collection of a source directory, it has scanned that
directory and left the text in the output file (`of_run_openapi`, `of_run_generate`).
-/

namespace RouteAtlas.CommandLine

open RouteAtlas.Api RouteAtlas.Collection RouteAtlas.Document RouteAtlas.Mock RouteAtlas.OpenApi
open RouteAtlas.Project RouteAtlas.Scan

/-! ## Steps -/

section Steps

variable {α ε : Type} {s s' : Session}

/-- What is said leaves the files as they are. -/
theorem tree_of_run_say {text : String} {u : Unit}
    (h : (Running.say text).run.run s = (.ok u, s')) : s'.tree = s.tree := by
  rw [← (Prod.mk.inj h).2]

/-- What is read is the session itself, which stays. -/
theorem of_run_get {t : Session} (h : (get : Running Session).run.run s = (.ok t, s')) :
    s = t ∧ s = s' :=
  ⟨Except.ok.inj (Prod.mk.inj h).1, (Prod.mk.inj h).2⟩

/-- Work that only returns leaves the session as it is. -/
theorem eq_of_run_pure {a b : α} (h : (pure a : Running α).run.run s = (.ok b, s')) :
    a = b ∧ s = s' := ⟨Except.ok.inj (Prod.mk.inj h).1, (Prod.mk.inj h).2⟩

/-- Logged work leaves the files as they are. -/
theorem of_run_logged {stop : ε → Stop} {work : Logged ε α} {a : α}
    (h : (Running.logged stop work).run.run s = (.ok a, s')) :
    s'.tree = s.tree ∧ ∃ log, work.runFrom [] = (.ok a, log) := by
  obtain ⟨hresult, hstate⟩ := Prod.mk.inj h
  refine ⟨by rw [← hstate], (work.runFrom []).2, Prod.ext ?_ rfl⟩
  exact eq_ok_of_mapError_eq_ok hresult

/-- Controllers that the program found are those of a scan, which leaves the files as they are. -/
theorem of_run_scanSource {source : Project.Path} {controllers : List Controller}
    (h : (scanSource source).run.run s = (.ok controllers, s')) :
    s'.tree = s.tree ∧ ∃ log, (scan s.tree source).runFrom [] = (.ok controllers, log) := by
  obtain ⟨_, s₁, hsay, h⟩ := exists_of_run_bind h
  obtain ⟨_, s₂, hget, h⟩ := exists_of_run_bind h
  obtain ⟨found, s₃, hscan, h⟩ := exists_of_run_bind h
  obtain ⟨_, s₄, hsay', h⟩ := exists_of_run_bind h
  obtain ⟨rfl, rfl⟩ := eq_of_run_pure h
  obtain ⟨rfl, rfl⟩ := of_run_get hget
  obtain ⟨htree, hrun⟩ := of_run_logged hscan
  rw [tree_of_run_say hsay] at htree hrun
  exact ⟨(tree_of_run_say hsay').trans htree, hrun⟩

/-- The only text that may be given. -/
theorem findSome?_presentText? (option : Option String) :
    [option].findSome? presentText? = presentText? option ∧
      [none, option].findSome? presentText? = presentText? option := by
  have hone : [option].findSome? presentText? = presentText? option := by
    rw [List.findSome?_cons]
    cases presentText? option <;> rfl
  exact ⟨hone, hone⟩

/-- The address is that of the service with the option that is given first, if one is. -/
theorem of_run_addressFrom {c : Circumstances} {texts : List (Option String)} {option : Option String}
    {address : String} (htexts : texts.findSome? presentText? = presentText? option)
    (h : (addressFrom c texts).run.run s = (.ok address, s')) :
    s'.tree = s.tree ∧ IsAddress c.env option address := by
  unfold addressFrom at h
  rw [htexts] at h
  split at h
  · next text htext =>
    obtain ⟨rfl, rfl⟩ := eq_of_run_pure h
    exact ⟨rfl, .given htext⟩
  · next hnone =>
    obtain ⟨htree, log, hrun⟩ := of_run_logged h
    exact ⟨htree, .detected hnone hrun⟩

/-- The work finds a field in the metadata of a project, or else a text of its own. -/
def Detects (detect : FileTree → Project.Path → Logged MetadataFault Value) (field fallback : String) :
    Prop := ∀ tree root, detect tree root = do
  return (← projectField field (← readMetadata tree root)).getD (.str fallback)

/-- The name of a project is a field of its metadata. -/
theorem detects_projectName : Detects projectName "name" defaultTitle := fun _ _ => rfl

/-- The version of a project is a field of its metadata. -/
theorem detects_projectVersion : Detects projectVersion "version" defaultVersion := fun _ _ => rfl

/-- What is described is what describes the project in the working directory. -/
theorem of_run_describedFrom {detect : FileTree → Project.Path → Logged MetadataFault Value}
    {field fallback : String} (hdetect : Detects detect field fallback)
    {texts : List (Option String)} {option : Option String} {v : Value}
    (htexts : texts.findSome? presentText? = presentText? option)
    (h : (describedFrom detect texts).run.run s = (.ok v, s')) :
    s'.tree = s.tree ∧
      IsDescription s.tree (.ofLocation s.tree.cwd) field fallback option v := by
  unfold describedFrom at h
  rw [htexts] at h
  split at h
  · next text htext =>
    obtain ⟨rfl, rfl⟩ := eq_of_run_pure h
    exact ⟨rfl, .given htext⟩
  · next hnone =>
    obtain ⟨_, s₁, hget, h⟩ := exists_of_run_bind h
    obtain ⟨rfl, rfl⟩ := of_run_get hget
    obtain ⟨_, s₂, hdirectory, h⟩ := exists_of_run_bind h
    obtain ⟨rfl, rfl⟩ := eq_of_run_pure hdirectory
    obtain ⟨htree, log, hrun⟩ := of_run_logged h
    rw [hdetect] at hrun
    obtain ⟨metadata, between, hread, hrun⟩ := Logged.exists_of_runFrom_bind hrun
    obtain ⟨found, between', hfound, hrun⟩ := Logged.exists_of_runFrom_bind hrun
    obtain rfl := Logged.eq_of_runFrom_pure hrun
    exact ⟨htree, .detected hnone hread (Prod.mk.inj hfound).1⟩

/-- A document that was written is what the output file holds, as its text. -/
theorem of_run_writeDocument {document : Value} {output : Project.Path} {format : Format} {u : Unit}
    (h : (writeDocument document output format).run.run s = (.ok u, s')) :
    ∃ text, dump document format.name = .ok text ∧ lacksBytes document format.name = false ∧
      Holds s'.tree output text := by
  unfold writeDocument at h
  obtain ⟨_, s₁, hget, h⟩ := exists_of_run_bind h
  obtain ⟨rfl, rfl⟩ := of_run_get hget
  rcases hexport : exportTo s.tree document output format.name with ⟨tree, fault⟩
  rw [hexport] at h
  obtain ⟨_, s₂, hset, h⟩ := exists_of_run_bind h
  obtain rfl := (Prod.mk.inj hset).2
  split at h
  · obtain ⟨_, rfl⟩ := eq_of_run_pure h
    exact holds_of_exportTo hexport
  · cases (Prod.mk.inj h).1
  · cases (Prod.mk.inj h).1

end Steps

/-! ## Commands -/

/-- What a document says about its API as a whole, for the options of the project in the working
directory. -/
structure Describes (tree : FileTree) (env : Environment) (o : Options) (info : ApiInfo) : Prop where
  title : IsDescription tree (.ofLocation tree.cwd) "name" defaultTitle o.apiTitle info.title
  version : IsDescription tree (.ofLocation tree.cwd) "version" defaultVersion o.apiVersion info.version
  baseUrl : IsAddress env o.baseUrl info.baseUrl
  description : info.description = o.apiDescription

/-- The options and the project leave no choice of what is said of the API. -/
theorem Describes.unique {tree : FileTree} {env : Environment} {o : Options} {a b : ApiInfo}
    (ha : Describes tree env o a) (hb : Describes tree env o b) : a = b := by
  obtain ⟨title, version, baseUrl, description⟩ := a
  obtain ⟨title', version', baseUrl', description'⟩ := b
  have htitle : title = title' := ha.title.unique hb.title
  have hversion : version = version' := ha.version.unique hb.version
  have hbaseUrl : baseUrl = baseUrl' := ha.baseUrl.unique hb.baseUrl
  have hdescription : description = description' := ha.description.trans hb.description.symm
  rw [htitle, hversion, hbaseUrl, hdescription]

section Commands

variable {c : Circumstances} {o : Options} {source output : Project.Path} {s s' : Session} {u : Unit}

/-- A command for a document that ended without a stop has left its text in the output file. -/
theorem of_run_generateDocument
    (h : (generateDocument c o source output .json none none none).run.run s = (.ok u, s')) :
    ∃ controllers log info text, (scan s.tree source).runFrom [] = (.ok controllers, log) ∧
      Describes s.tree c.env o info ∧
      dump (ApiDocument.ofControllers info controllers).toValue Format.json.name = .ok text ∧
      lacksBytes (ApiDocument.ofControllers info controllers).toValue Format.json.name = false ∧
      Holds s'.tree output text := by
  obtain ⟨controllers, s₁, hscan, h⟩ := exists_of_run_bind h
  obtain ⟨baseUrl, s₂, hbaseUrl, h⟩ := exists_of_run_bind h
  obtain ⟨_, s₃, hsay, h⟩ := exists_of_run_bind h
  obtain ⟨title, s₄, htitle, h⟩ := exists_of_run_bind h
  obtain ⟨version, s₅, hversion, h⟩ := exists_of_run_bind h
  obtain ⟨document, s₆, hbuild, h⟩ := exists_of_run_bind h
  obtain ⟨_, s₇, hwrite, h⟩ := exists_of_run_bind h
  obtain ⟨htree₁, log, hrun⟩ := of_run_scanSource hscan
  obtain ⟨htree₂, hbaseUrl⟩ := of_run_addressFrom (findSome?_presentText? _).2 hbaseUrl
  have htree₃ := tree_of_run_say hsay
  obtain ⟨htree₄, htitle⟩ := of_run_describedFrom detects_projectName (findSome?_presentText? _).2 htitle
  obtain ⟨htree₅, hversion⟩ := of_run_describedFrom detects_projectVersion (findSome?_presentText? _).2 hversion
  obtain ⟨_, _, hbuild⟩ := of_run_logged hbuild
  obtain ⟨_, hdocument⟩ := ApiDocument.of_runFrom_build hbuild
  rw [hdocument] at hwrite
  obtain ⟨text, htext, hbytes, hholds⟩ := of_run_writeDocument hwrite
  have htree : s₄.tree = s.tree := by rw [htree₄, htree₃, htree₂, htree₁]
  rw [htree] at hversion
  rw [htree₃, htree₂, htree₁] at htitle
  rw [← tree_of_run_say h] at hholds
  exact ⟨controllers, log, _, text, hrun, ⟨htitle, hversion, hbaseUrl, rfl⟩, htext, hbytes, hholds⟩

/-- A command for a collection that ended without a stop has left its text in the output file, unless
there are no controllers. -/
theorem of_run_generateCollection
    (h : (generateCollection c o source output none none).run.run s = (.ok u, s')) :
    ∃ controllers log, (scan s.tree source).runFrom [] = (.ok controllers, log) ∧
      (controllers ≠ [] → ∃ name baseUrl collection text,
        IsDescription s.tree (.ofLocation s.tree.cwd) "name" defaultTitle o.apiTitle name ∧
        IsAddress c.env o.baseUrl baseUrl ∧
        ((SampleCollection.ofControllers { name, baseUrl } controllers).run.run
          (o.randomSource c.script)).1 = .ok collection ∧
        dump collection.toValue Format.json.name = .ok text ∧
        Holds s'.tree output text) := by
  obtain ⟨controllers, s₁, hscan, h⟩ := exists_of_run_bind h
  obtain ⟨htree₁, log, hrun⟩ := of_run_scanSource hscan
  refine ⟨controllers, log, hrun, fun hne => ?_⟩
  have hempty : ¬ controllers.isEmpty = true := fun hnil => hne (List.isEmpty_iff.1 hnil)
  rw [if_neg hempty] at h
  obtain ⟨_, s₂, hsay, h⟩ := exists_of_run_bind h
  obtain ⟨name, s₃, hname, h⟩ := exists_of_run_bind h
  obtain ⟨baseUrl, s₄, hbaseUrl, h⟩ := exists_of_run_bind h
  have htree₂ := tree_of_run_say hsay
  obtain ⟨htree₃, hname⟩ := of_run_describedFrom detects_projectName (findSome?_presentText? _).2 hname
  obtain ⟨_, hbaseUrl⟩ := of_run_addressFrom (findSome?_presentText? _).1 hbaseUrl
  rw [htree₂, htree₁] at hname
  dsimp only at h
  split at h
  · cases (Prod.mk.inj h).1
  · next collection hcollection =>
    obtain ⟨_, s₅, hwrite, h⟩ := exists_of_run_bind h
    obtain ⟨text, htext, _, hholds⟩ := of_run_writeDocument hwrite
    rw [← tree_of_run_say h] at hholds
    exact ⟨name, baseUrl, collection, text, hname, hbaseUrl, hcollection, htext, hholds⟩

end Commands

/-! ## Arguments -/

/-- The arguments that ask for a document or a collection of a source directory in a file. -/
def outputArguments (command : CommandName) (source output : String) : List String :=
  [command.decl.name, source, "-o", output]

/-- The arguments name the command for a collection. -/
theorem ofArguments_generate (source output : String) :
    Invocation.ofArguments (outputArguments .generate source output) =
      .ok (.order ⟨none, 0, .generate, [source, "-o", output]⟩) := rfl

/-- The arguments name the command for a document. -/
theorem ofArguments_openapi (source output : String) :
    Invocation.ofArguments (outputArguments .openapi source output) =
      .ok (.order ⟨none, 0, .openapi, [source, "-o", output]⟩) := rfl

/-- A text that starts with a slash is no option. -/
theorem isOption_of_slash {s : String} {cs : List Char} (h : s.toList = '/' :: cs) :
    isOption s = false := by
  unfold isOption Text.beginsWith
  rw [h]
  rfl

/-- An argument that is no option is positional. -/
theorem sort_positional {d : CommandDecl} (hd : d.ordered = false) {argument : String}
    (h : isOption argument = false) (rest : List String) (g : Given) :
    d.sort none (argument :: rest) g = d.sort none rest (g.withPositional [argument]) := by
  have hdashes : (argument == "--") = false := by
    refine beq_eq_false_iff_ne.2 fun heq => ?_
    rw [heq] at h
    exact absurd h (by decide)
  rw [CommandDecl.sort, hdashes, h, hd]
  rfl

/-- A source directory that starts with a slash is positional. -/
theorem sort_source {d : CommandDecl} (hd : d.ordered = false) {source : String} {cs : List Char}
    (hsource : source.toList = '/' :: cs) (rest : List String) :
    d.sort none (source :: rest) {} = d.sort none rest { positional := [source] } :=
  sort_positional hd (isOption_of_slash hsource) rest {}

section Commands

variable {source : String} {cs : List Char}

/-- The command for a collection reads its source directory and its output. -/
theorem ofArguments_source_generate (hsource : source.toList = '/' :: cs) (output : String) :
    Command.ofArguments .generate [source, "-o", output] =
      .ok (.order (.generate (.ofString source) (.ofString output) none none)) := by
  unfold Command.ofArguments CommandDecl.read
  rw [sort_source rfl hsource]
  rfl

/-- The command for a document reads its source directory and its output. -/
theorem ofArguments_source_openapi (hsource : source.toList = '/' :: cs) (output : String) :
    Command.ofArguments .openapi [source, "-o", output] =
      .ok (.order (.openapi (.ofString source) (.ofString output) .json none none none)) := by
  unfold Command.ofArguments CommandDecl.read
  rw [sort_source rfl hsource]
  rfl

end Commands

/-! ## Calls -/

section Calls

variable {c : Circumstances} {tree : FileTree} {arguments : List String}

/-- A call without a stop has done all of the program's work. -/
theorem run_program_of_stop (h : (run c tree arguments).stop = none) :
    (program c arguments).run.run { tree } = (.ok (), (run c tree arguments).session) := by
  unfold run at h ⊢
  rcases hrun : (program c arguments).run.run { tree } with ⟨stop | u, session⟩
  · rw [hrun] at h
    cases h
  · rfl

/-- A call without a stop has loaded the options of the working directory and run its command. -/
theorem exists_of_stop {i : Invocation} {command : Command}
    (hi : Invocation.ofArguments arguments = .ok (.order i)) (hconfig : i.config = none)
    (hcommand : Command.ofArguments i.command i.arguments = .ok (.order command))
    (h : (run c tree arguments).stop = none) :
    ∃ o log s, (loadOptions tree none (.ofLocation tree.cwd)).runFrom [] = (.ok o, log) ∧
      s.tree = tree ∧ (command.run c o).run.run s = (.ok (), (run c tree arguments).session) := by
  have hrun := run_program_of_stop h
  unfold program at hrun
  rw [hi] at hrun
  obtain ⟨_, s₁, hinvocation, hrun⟩ := exists_of_run_bind hrun
  obtain ⟨rfl, rfl⟩ := eq_of_run_pure hinvocation
  obtain ⟨_, s₂, hmodify, hrun⟩ := exists_of_run_bind hrun
  obtain ⟨_, s₃, hget, hrun⟩ := exists_of_run_bind hrun
  obtain ⟨rfl, rfl⟩ := of_run_get hget
  obtain ⟨_, s₄, hdirectory, hrun⟩ := exists_of_run_bind hrun
  obtain ⟨rfl, rfl⟩ := eq_of_run_pure hdirectory
  obtain ⟨o, s₅, hload, hrun⟩ := exists_of_run_bind hrun
  obtain ⟨_, s₆, hread, hrun⟩ := exists_of_run_bind hrun
  rw [hcommand] at hread
  obtain ⟨rfl, rfl⟩ := eq_of_run_pure hread
  obtain ⟨htree, log, hload⟩ := of_run_logged hload
  have hsession : s₂.tree = tree := by rw [← (Prod.mk.inj hmodify).2]
  rw [hconfig, hsession] at hload
  exact ⟨o, log, s₅, hload, htree.trans hsession, hrun⟩

variable {source output : String} {cs : List Char}

/-- A call for a document that ended without a stop has left its text in the output file. -/
theorem of_run_openapi (hsource : source.toList = '/' :: cs)
    (h : (run c tree (outputArguments .openapi source output)).stop = none) :
    ∃ o log, (loadOptions tree none (.ofLocation tree.cwd)).runFrom [] = (.ok o, log) ∧
    ∃ controllers log info text, (scan tree (.ofString source)).runFrom [] = (.ok controllers, log) ∧
      Describes tree c.env o info ∧
      dump (ApiDocument.ofControllers info controllers).toValue Format.json.name = .ok text ∧
      lacksBytes (ApiDocument.ofControllers info controllers).toValue Format.json.name = false ∧
      Holds (run c tree (outputArguments .openapi source output)).session.tree (.ofString output)
        text := by
  obtain ⟨o, log, s, hload, rfl, hrun⟩ := exists_of_stop (ofArguments_openapi source output) rfl
    (ofArguments_source_openapi hsource output) h
  exact ⟨o, log, hload, of_run_generateDocument hrun⟩

/-- A call for a collection that ended without a stop has left its text in the output file, unless it
found no controllers. -/
theorem of_run_generate (hsource : source.toList = '/' :: cs)
    (h : (run c tree (outputArguments .generate source output)).stop = none) :
    ∃ o log, (loadOptions tree none (.ofLocation tree.cwd)).runFrom [] = (.ok o, log) ∧
    ∃ controllers log, (scan tree (.ofString source)).runFrom [] = (.ok controllers, log) ∧
      (controllers ≠ [] → ∃ name baseUrl collection text,
        IsDescription tree (.ofLocation tree.cwd) "name" defaultTitle o.apiTitle name ∧
        IsAddress c.env o.baseUrl baseUrl ∧
        ((SampleCollection.ofControllers { name, baseUrl } controllers).run.run
          (o.randomSource c.script)).1 = .ok collection ∧
        dump collection.toValue Format.json.name = .ok text ∧
        Holds (run c tree (outputArguments .generate source output)).session.tree
          (.ofString output) text) := by
  obtain ⟨o, log, s, hload, rfl, hrun⟩ := exists_of_stop (ofArguments_generate source output) rfl
    (ofArguments_source_generate hsource output) h
  exact ⟨o, log, hload, of_run_generateCollection hrun⟩

end Calls

end RouteAtlas.CommandLine
