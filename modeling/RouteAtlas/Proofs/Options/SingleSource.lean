import RouteAtlas.Proofs.Options.LoadedOptions

/-!
# One source of options

Options come from one place: the file that is asked for, else the customary file if something stands in
its place, else the metadata. Trees that have the same in that place give the same options, faults and
messages, whatever they have elsewhere. `OptionField.IsFrom` says where a single field comes from, its own
name in the data of that place or its default; no field is looked up in a second place
(`loadOptions_single_source`).
-/

namespace RouteAtlas

open RouteAtlas.Document RouteAtlas.Logged RouteAtlas.Project RouteAtlas.Text

/-! ## Two trees with the same in one place -/

/-- In both trees the same stands at a path: nothing, a directory, or a file with the same bytes. -/
def SameAt (tree tree' : FileTree) (p : Project.Path) : Prop := tree.lookup? p = tree'.lookup? p

instance (tree tree' : FileTree) (p : Project.Path) : Decidable (SameAt tree tree' p) :=
  inferInstanceAs (Decidable (tree.lookup? p = tree'.lookup? p))

section TwoTrees

variable {tree tree' : FileTree} {p root root' : Project.Path}

/-- What is read at a path where something stands is decided by what it is. -/
theorem readBytes_of_lookup? {entry : Entry} (h : tree.lookup? p = some entry) :
    (∃ bytes, entry = .file bytes ∧ tree.readBytes p = .ok bytes) ∨
      (entry = .directory ∧ tree.readBytes p = .error .isDirectory) := by
  cases entry with
  | directory => exact .inr ⟨rfl, readBytes_of_isDirectory (beq_iff_eq.2 h)⟩
  | file bytes =>
    refine .inl ⟨bytes, rfl, ?_⟩
    unfold FileTree.lookup? at h
    unfold FileTree.readBytes
    revert h
    cases tree.locate p with
    | error fault => exact nofun
    | ok l =>
      dsimp only
      intro h
      rw [h]

namespace SameAt

variable (h : SameAt tree tree' p)
include h

/-- A path that shows the same is there in both trees or in neither. -/
theorem exists?_eq : tree.exists? p = tree'.exists? p := congrArg Option.isSome h

/-- A path that shows the same holds the same bytes. -/
theorem readBytes_eq (hthere : tree.exists? p = true) : tree.readBytes p = tree'.readBytes p := by
  obtain ⟨entry, hentry⟩ := Option.isSome_iff_exists.1 hthere
  rcases readBytes_of_lookup? hentry with ⟨bytes, rfl, hread⟩ | ⟨rfl, hread⟩ <;>
    rcases readBytes_of_lookup? (h.symm.trans hentry) with ⟨bytes', he, hread'⟩ | ⟨he, hread'⟩
  · cases he
    rw [hread, hread']
  · cases he
  · cases he
  · rw [hread, hread']

/-- A configuration file with the same in it is read alike. -/
theorem readConfigFile_eq (hthere : tree.exists? p = true) :
    readConfigFile tree p = readConfigFile tree' p := by
  unfold readConfigFile FileTree.readText
  rw [h.readBytes_eq hthere]

end SameAt

/-- Metadata with the same in them are read alike. -/
theorem readMetadata_congr (h : SameAt tree tree' (root.extend [metadataFile])) :
    readMetadata tree root = readMetadata tree' root := by
  unfold readMetadata
  dsimp only
  rw [← h.exists?_eq]
  cases hthere : tree.exists? (root.extend [metadataFile]) with
  | false => rfl
  | true => rw [h.readBytes_eq hthere]

/-- Where a file is asked for, nothing else is read, and not even the root of the project counts. -/
theorem readConfigData_congr_of_asked (h : SameAt tree tree' p) :
    readConfigData tree (some p) root = readConfigData tree' (some p) root' := by
  unfold readConfigData
  dsimp only [Option.getD_some, Option.isSome_some]
  rw [← h.exists?_eq, if_pos rfl, if_pos rfl]
  cases hthere : tree.exists? p with
  | false => rfl
  | true => rw [if_pos rfl, if_pos rfl, h.readConfigFile_eq hthere]

/-- Where the customary file stands, the metadata are not read. -/
theorem readConfigData_congr_of_customary (h : SameAt tree tree' (root.extend [optionsFile]))
    (hthere : tree.exists? (root.extend [optionsFile]) = true) :
    readConfigData tree none root = readConfigData tree' none root := by
  unfold readConfigData
  dsimp only [Option.getD_none]
  rw [← h.exists?_eq, if_pos hthere, if_pos hthere, h.readConfigFile_eq hthere]

/-- Without any file of options the metadata decide. -/
theorem readConfigData_congr_of_metadata (hmissing : tree.exists? (root.extend [optionsFile]) = false)
    (hmissing' : tree'.exists? (root.extend [optionsFile]) = false)
    (h : SameAt tree tree' (root.extend [metadataFile])) :
    readConfigData tree none root = readConfigData tree' none root := by
  have hmetadata : readMetadataOptions tree root = readMetadataOptions tree' root := by
    unfold readMetadataOptions
    rw [readMetadata_congr h]
  unfold readConfigData
  dsimp only [Option.getD_none]
  rw [hmissing, hmissing', hmetadata]
  rfl

/-- What is loaded depends on the data that are read and on nothing else. -/
theorem runFrom_loadOptions_congr {config config' : Option Project.Path}
    (h : readConfigData tree config root = readConfigData tree' config' root') (log : Log) :
    (loadOptions tree config root).runFrom log = (loadOptions tree' config' root').runFrom log := by
  rw [loadOptions_eq, loadOptions_eq, h]

end TwoTrees

/-! ## Where a field comes from -/

/-- A field of the options: its name in data, the check of its value, and its place in the options. -/
structure OptionField where
  Kind : Type
  name : String
  check : Value → Checked Kind
  get : Options → Kind

/-- The fields of the options, in the order in which they are checked. -/
def optionFields : List OptionField :=
  [⟨_, "path", Checked.text, Options.path⟩,
    ⟨_, "enable_mock", Checked.bool, Options.enableMock⟩,
    ⟨_, "mock_prefix", Checked.text, Options.mockPrefix⟩,
    ⟨_, "auto_export_postman", Checked.bool, Options.autoExportPostman⟩,
    ⟨_, "postman_output_path", Checked.text, Options.postmanOutputPath⟩,
    ⟨_, "base_url", Checked.nullable Checked.text, Options.baseUrl⟩,
    ⟨_, "source_path", Checked.nullable Checked.text, Options.sourcePath⟩,
    ⟨_, "api_title", Checked.nullable Checked.text, Options.apiTitle⟩,
    ⟨_, "api_version", Checked.nullable Checked.text, Options.apiVersion⟩,
    ⟨_, "api_description", Checked.text, Options.apiDescription⟩,
    ⟨_, "primary_color", Checked.text, Options.primaryColor⟩,
    ⟨_, "theme", Checked.listed Theme.ofName?, Options.theme⟩,
    ⟨_, "custom_domain_icon", Checked.text, Options.customDomainIcon⟩,
    ⟨_, "locale", Checked.text, Options.locale⟩,
    ⟨_, "seed", Checked.nullable Checked.int, Options.seed⟩]

/-- The field has the value that these data have under its name, or its default if they have none. -/
inductive OptionField.IsFrom (f : OptionField) (data : ConfigData) (o : Options) : Prop
  | given {v : Value} (h : field? f.name (withOptionNames data) = some v)
      (hv : f.check v = .valid (f.get o))
  | default (h : field? f.name (withOptionNames data) = none) (hv : f.get o = f.get {})

section Fields

variable {α β : Type}

/-- Two checks are passed together. -/
theorem seq_eq_valid_iff {f : Checked (α → β)} {x : Checked α} {b : β} :
    f <*> x = .valid b ↔ ∃ g a, f = .valid g ∧ x = .valid a ∧ g a = b := by
  change f.apply x = .valid b ↔ _
  cases f <;> cases x <;> simp [Checked.apply]

/-- A changed result comes from a valid one. -/
theorem map_eq_valid_iff {g : α → β} {x : Checked α} {b : β} :
    g <$> x = .valid b ↔ ∃ a, x = .valid a ∧ g a = b := by
  change Checked.apply (.valid g) x = .valid b ↔ _
  cases x <;> simp [Checked.apply]

variable {f : OptionField} {data : ConfigData} {o o' : Options}

/-- A checked option comes from the data. -/
theorem isFrom_of_optionalField
    (h : Checked.optionalField f.name (f.get {}) f.check (withOptionNames data) = .valid (f.get o)) :
    f.IsFrom data o := by
  unfold Checked.optionalField at h
  split at h
  · next v hv =>
    refine .given hv ?_
    cases hcheck : f.check v with
    | valid a =>
      rw [hcheck] at h
      exact h
    | invalid faults =>
      rw [hcheck] at h
      cases h
  · next hv => exact .default hv (Checked.valid.inj h).symm

/-- Data leave no choice for a field. -/
theorem OptionField.IsFrom.unique (h : f.IsFrom data o) (h' : f.IsFrom data o') :
    f.get o = f.get o' := by
  cases h with
  | given hv hcheck =>
    cases h' with
    | given hv' hcheck' =>
      obtain rfl := Option.some.inj (hv.symm.trans hv')
      exact Checked.valid.inj (hcheck.symm.trans hcheck')
    | default hv' _ => cases hv.symm.trans hv'
  | default hv hdefault =>
    cases h' with
    | given hv' _ => cases hv.symm.trans hv'
    | default _ hdefault' => exact hdefault.trans hdefault'.symm

/-- Options consist of their fields. -/
theorem Options.eq_of_fields (h : ∀ f ∈ optionFields, f.get o = f.get o') : o = o' := by
  simp only [optionFields, List.forall_mem_cons] at h
  obtain ⟨hpath, hmock, hprefix, hexport, houtput, hurl, hsource, htitle, hversion, hdescription,
    hcolor, htheme, hicon, hlocale, hseed, -⟩ := h
  cases o
  cases o'
  simp only [Options.mk.injEq]
  exact ⟨hpath, hmock, hprefix, hexport, houtput, hurl, hsource, htitle, hversion, hdescription,
    hcolor, htheme, hicon, hlocale, hseed⟩

/-- Options that are loaded are those of the data that were found. -/
theorem exists_data_of_loadOptions {tree : FileTree} {config : Option Project.Path} {root : Project.Path}
    {finding : Finding OptionsFault} {log : Log} (h : OptionsFinding tree config root finding)
    (hrun : ((loadOptions tree config root).runFrom log).1 = .ok o) :
    ∃ data, finding.data? = some data ∧ checkedOptions data = .ok o := by
  cases finding with
  | fields data =>
    rw [runFrom_loadOptions_of_fields h log] at hrun
    exact ⟨data, rfl, hrun⟩
  | unusable =>
    obtain ⟨topic, text, hwarned⟩ := runFrom_loadOptions_of_unusable h
    rw [hwarned log] at hrun
    exact ⟨[], rfl, hrun⟩
  | broken fault =>
    rw [runFrom_loadOptions_of_broken h log] at hrun
    cases hrun

/-- Each field of checked options is from the data. -/
theorem isFrom_of_checkedOptions (h : checkedOptions data = .ok o) :
    ∀ f ∈ optionFields, f.IsFrom data o := by
  have hvalid : Options.ofFields (withOptionNames data) = .valid o := by
    unfold checkedOptions at h
    split at h
    · next hvalid => exact hvalid.trans (congrArg Checked.valid (Except.ok.inj h))
    · cases h
  -- the last field is applied last, so the fields come off from the back
  obtain ⟨_, _, h₁, hseed, e₁⟩ := seq_eq_valid_iff.1 hvalid
  obtain ⟨_, _, h₂, hlocale, e₂⟩ := seq_eq_valid_iff.1 h₁
  obtain ⟨_, _, h₃, hicon, e₃⟩ := seq_eq_valid_iff.1 h₂
  obtain ⟨_, _, h₄, htheme, e₄⟩ := seq_eq_valid_iff.1 h₃
  obtain ⟨_, _, h₅, hcolor, e₅⟩ := seq_eq_valid_iff.1 h₄
  obtain ⟨_, _, h₆, hdescription, e₆⟩ := seq_eq_valid_iff.1 h₅
  obtain ⟨_, _, h₇, hversion, e₇⟩ := seq_eq_valid_iff.1 h₆
  obtain ⟨_, _, h₈, htitle, e₈⟩ := seq_eq_valid_iff.1 h₇
  obtain ⟨_, _, h₉, hsource, e₉⟩ := seq_eq_valid_iff.1 h₈
  obtain ⟨_, _, h₁₀, hurl, e₁₀⟩ := seq_eq_valid_iff.1 h₉
  obtain ⟨_, _, h₁₁, houtput, e₁₁⟩ := seq_eq_valid_iff.1 h₁₀
  obtain ⟨_, _, h₁₂, hexport, e₁₂⟩ := seq_eq_valid_iff.1 h₁₁
  obtain ⟨_, _, h₁₃, hprefix, e₁₃⟩ := seq_eq_valid_iff.1 h₁₂
  obtain ⟨_, _, h₁₄, hmock, e₁₄⟩ := seq_eq_valid_iff.1 h₁₃
  obtain ⟨_, hpath, rfl⟩ := map_eq_valid_iff.1 h₁₄
  subst e₁₄ e₁₃ e₁₂ e₁₁ e₁₀ e₉ e₈ e₇ e₆ e₅ e₄ e₃ e₂ e₁
  simp only [optionFields, List.forall_mem_cons]
  refine ⟨isFrom_of_optionalField hpath, isFrom_of_optionalField hmock,
    isFrom_of_optionalField hprefix, isFrom_of_optionalField hexport,
    isFrom_of_optionalField houtput, isFrom_of_optionalField hurl,
    isFrom_of_optionalField hsource, isFrom_of_optionalField htitle,
    isFrom_of_optionalField hversion, isFrom_of_optionalField hdescription,
    isFrom_of_optionalField hcolor, isFrom_of_optionalField htheme,
    isFrom_of_optionalField hicon, isFrom_of_optionalField hlocale,
    isFrom_of_optionalField hseed, nofun⟩

end Fields

/-! ## One source -/

/-- Options come from one source. A file that is asked for decides alone, also if nothing stands there;
else the customary file does where something stands there, and only without it the metadata. Each field
has the value that the data of this source have under its name, or its default, and this leaves no second
choice of options. -/
theorem loadOptions_single_source :
    (∀ {tree tree' : FileTree} {p : Project.Path} (root root' : Project.Path) (log : Log),
      SameAt tree tree' p →
        (loadOptions tree (some p) root).runFrom log = (loadOptions tree' (some p) root').runFrom log) ∧
    (∀ {tree tree' : FileTree} {root : Project.Path} (log : Log),
      SameAt tree tree' (root.extend [optionsFile]) →
      tree.exists? (root.extend [optionsFile]) = true →
        (loadOptions tree none root).runFrom log = (loadOptions tree' none root).runFrom log) ∧
    (∀ {tree tree' : FileTree} {root : Project.Path} (log : Log),
      tree.exists? (root.extend [optionsFile]) = false →
      tree'.exists? (root.extend [optionsFile]) = false →
      SameAt tree tree' (root.extend [metadataFile]) →
        (loadOptions tree none root).runFrom log = (loadOptions tree' none root).runFrom log) ∧
    ∀ {tree : FileTree} {config : Option Project.Path} {root : Project.Path} {log : Log} {o : Options},
      ((loadOptions tree config root).runFrom log).1 = .ok o →
        ∃ finding data, OptionsFinding tree config root finding ∧ finding.data? = some data ∧
          (∀ f ∈ optionFields, f.IsFrom data o) ∧
          ∀ o', (∀ f ∈ optionFields, f.IsFrom data o') → o' = o := by
  refine ⟨fun root root' log h => runFrom_loadOptions_congr (readConfigData_congr_of_asked h) log,
    fun log h hthere => runFrom_loadOptions_congr (readConfigData_congr_of_customary h hthere) log,
    fun log hmissing hmissing' h =>
      runFrom_loadOptions_congr (readConfigData_congr_of_metadata hmissing hmissing' h) log,
    fun {tree config root log o} hrun => ?_⟩
  obtain ⟨finding, hfinding⟩ := exists_optionsFinding tree config root
  obtain ⟨data, hdata, hchecked⟩ := exists_data_of_loadOptions hfinding hrun
  have hfrom := isFrom_of_checkedOptions hchecked
  exact ⟨finding, data, hfinding, hdata, hfrom, fun o' hfrom' =>
    Options.eq_of_fields fun f hf => (hfrom' f hf).unique (hfrom f hf)⟩

/-- A project at its working directory with these files. -/
def shopWith (files : List (String × String)) : FileTree where
  entries := (["shop"], .directory) :: files.map fun (name, s) => (["shop", name], .file s.toUTF8.toList)
  cwd := ["shop"]

/-- Metadata with a path and a locale of their own. -/
def germanMetadata : String := "[tool.api-scramble]\npath = \"/german\"\nlocale = \"de_DE\"\n"

/-- Beside a file of options the metadata have no say, whether they are well-formed or not; a file that is
asked for silences both, although it is missing; and no other file makes up for a missing one. -/
theorem loadOptions_single_source_of_layers :
    let german := shopWith [(optionsFile, "path: /api\n"), (metadataFile, germanMetadata)]
    let broken := shopWith [(optionsFile, "path: /api\n"), (metadataFile, "locale = ")]
    let bare := shopWith [(metadataFile, germanMetadata)]
    let stray := shopWith [("options.yaml", "path: /api\n"), (metadataFile, germanMetadata)]
    let here : Project.Path := .ofString "."
    let missing : Project.Path := .ofString "other.yaml"
    (loadOptions german (some missing) here).runFrom [] =
      (loadOptions broken (some missing) here).runFrom [] ∧
    (loadOptions german none here).runFrom [] = (loadOptions broken none here).runFrom [] ∧
    (loadOptions bare none here).runFrom [] = (loadOptions stray none here).runFrom [] ∧
    ∃ o, ((loadOptions german none here).runFrom []).1 = .ok o ∧ o.path = "/api" ∧ o.locale = "en_US" ∧
      ∃ finding data, OptionsFinding german none here finding ∧ finding.data? = some data ∧
        ∀ f ∈ optionFields, f.IsFrom data o := by
  intro german broken bare stray here missing
  have hloaded : ((loadOptions german none here).runFrom []).1.toOption.any (fun o =>
      o == { path := "/api" }) = true := by decide +kernel
  obtain ⟨o, log, hrun, ho⟩ := exists_run_of_any hloaded
  obtain rfl := beq_iff_eq.1 ho
  have hok := congrArg Prod.fst hrun
  obtain ⟨finding, data, hfinding, hdata, hfrom, -⟩ := loadOptions_single_source.2.2.2 hok
  exact ⟨loadOptions_single_source.1 here here [] (by decide +kernel),
    loadOptions_single_source.2.1 [] (by decide +kernel) (by decide +kernel),
    loadOptions_single_source.2.2.1 [] (by decide +kernel) (by decide +kernel) (by decide +kernel),
    _, hok, rfl, rfl, finding, data, hfinding, hdata, hfrom⟩

end RouteAtlas
