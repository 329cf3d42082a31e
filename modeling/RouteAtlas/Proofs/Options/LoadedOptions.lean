import RouteAtlas.Proofs.Options.Resolving
import RouteAtlas.Proofs.Project.MetadataFinding

/-!
# Options of any configuration

Whatever stands where configuration is looked for, loading options and describing the project from its
metadata either succeed or fail in a known way. `OptionsFinding` says what there is to configure a project
with, and `HasText` when its title or version is a text. `configuration_outcome` puts them together:
nothing but broken findings keeps options from being loaded or their faults from being listed, what is
unusable leaves the defaults and a warning, and a project is described exactly if title and version are
texts.
-/

namespace RouteAtlas

open RouteAtlas.Document RouteAtlas.Logged RouteAtlas.Project RouteAtlas.Text

/-! ## Tables inside tables -/

/-- Names lead from one table into the next, to this one; where a name is missing it is empty. -/
inductive IsTable : List String → ConfigData → ConfigData → Prop
  | here {fields : ConfigData} : IsTable [] fields fields
  | absent {name : String} {names : List String} {fields : ConfigData}
      (h : field? name fields = none) : IsTable (name :: names) fields []
  | inside {name : String} {names : List String} {fields table found : ConfigData}
      (h : field? name fields = some (.map table)) (hinside : IsTable names table found) :
      IsTable (name :: names) fields found

/-- Names lead to a value that is no table. -/
inductive IsObstructed : List String → ConfigData → Prop
  | here {name : String} {names : List String} {fields : ConfigData} {v : Value}
      (h : field? name fields = some v) (hv : ∀ table, v ≠ .map table) :
      IsObstructed (name :: names) fields
  | inside {name : String} {names : List String} {fields table : ConfigData}
      (h : field? name fields = some (.map table)) (hinside : IsObstructed names table) :
      IsObstructed (name :: names) fields

section Tables

variable {names : List String} {name : String} {fields table found : ConfigData}

/-- The table that names lead to. -/
def tableAt (names : List String) (fields : ConfigData) : Except MetadataFault ConfigData :=
  names.foldlM (fun fields name => tableOf name fields) fields

/-- A table is reached name by name. -/
theorem tableAt_cons (name : String) (names : List String) (fields : ConfigData) :
    tableAt (name :: names) fields = tableOf name fields >>= tableAt names := rfl

/-- An absent table counts as empty. -/
theorem tableOf_of_absent (h : field? name fields = none) : tableOf name fields = .ok [] := by
  unfold tableOf
  rw [h]

/-- A map is a table. -/
theorem tableOf_of_map (h : field? name fields = some (.map table)) :
    tableOf name fields = .ok table := by
  unfold tableOf
  rw [h]

/-- Any other value is no table. -/
theorem tableOf_of_value {v : Value} (h : field? name fields = some v)
    (hv : ∀ table, v ≠ .map table) : tableOf name fields = .error .noTable := by
  unfold tableOf
  rw [h]
  cases v with
  | map table => exact absurd rfl (hv table)
  | _ => rfl

/-- Nothing is found below an empty table. -/
theorem tableAt_nil (names : List String) : tableAt names [] = .ok [] := by
  induction names with
  | nil => rfl
  | cons name names ih =>
    rw [tableAt_cons, tableOf_of_absent rfl]
    exact ih

/-- A table that is there is reached. -/
theorem tableAt_of_isTable (h : IsTable names fields found) : tableAt names fields = .ok found := by
  induction h with
  | here => rfl
  | absent h =>
    rw [tableAt_cons, tableOf_of_absent h]
    exact tableAt_nil _
  | inside h _ ih =>
    rw [tableAt_cons, tableOf_of_map h]
    exact ih

/-- A value on the way is no table. -/
theorem tableAt_of_isObstructed (h : IsObstructed names fields) :
    tableAt names fields = .error .noTable := by
  induction h with
  | here h hv =>
    rw [tableAt_cons, tableOf_of_value h hv]
    rfl
  | inside h _ ih =>
    rw [tableAt_cons, tableOf_of_map h]
    exact ih

/-- There is one table at a place. -/
theorem IsTable.unique {other : ConfigData} (h : IsTable names fields found)
    (hother : IsTable names fields other) : found = other :=
  Except.ok.inj ((tableAt_of_isTable h).symm.trans (tableAt_of_isTable hother))

/-- Names lead to a table or are obstructed. -/
theorem exists_isTable_or_isObstructed (names : List String) (fields : ConfigData) :
    (∃ found, IsTable names fields found) ∨ IsObstructed names fields := by
  induction names generalizing fields with
  | nil => exact Or.inl ⟨fields, .here⟩
  | cons name names ih =>
    cases hfield : field? name fields with
    | none => exact Or.inl ⟨[], .absent hfield⟩
    | some v =>
      by_cases hv : ∃ table, v = .map table
      · obtain ⟨table, rfl⟩ := hv
        rcases ih table with ⟨found, hfound⟩ | hobstructed
        · exact Or.inl ⟨found, .inside hfield hfound⟩
        · exact Or.inr (.inside hfield hobstructed)
      · exact Or.inr (.here hfield fun table htable => hv ⟨table, htable⟩)

end Tables

/-! ## What configures a project -/

/-- The text of a file as it is read. -/
def unified (s : String) : String := String.ofList (unifyLineEnds s.toList)

/-- What a configuration file has in it. -/
inductive FileFinding (tree : FileTree) (p : Project.Path) : Finding OptionsFault → Prop
  | directory (h : tree.isDirectory p = true) : FileFinding tree p .unusable
  | undecodable (h : HoldsNoText tree p) : FileFinding tree p (.broken .undecodable)
  | malformed {s : String} (h : Holds tree p s) (hread : Yaml.read (unified s) = .error .malformed) :
      FileFinding tree p .unusable
  | noValue {s : String} {fault : Yaml.YamlFault} (h : Holds tree p s)
      (hread : Yaml.read (unified s) = .error fault) (hfault : fault ≠ .malformed) :
      FileFinding tree p (.broken (.value fault))
  | empty {s : String} (h : Holds tree p s) (hread : Yaml.read (unified s) = .ok .null) :
      FileFinding tree p (.fields [])
  | mapping {s : String} {data : ConfigData} (h : Holds tree p s)
      (hread : Yaml.read (unified s) = .ok (.map data)) : FileFinding tree p (.fields data)
  | other {s : String} {v : Value} (h : Holds tree p s) (hread : Yaml.read (unified s) = .ok v)
      (hnull : v ≠ .null) (hmap : ∀ data, v ≠ .map data) : FileFinding tree p .unusable

/-- What the metadata of the project at a path have for options. -/
inductive TableFinding (tree : FileTree) (root : Project.Path) : Finding OptionsFault → Prop
  | table {metadata data : ConfigData} (hmetadata : MetadataFinding tree root (.fields metadata))
      (h : IsTable ["tool", "api-scramble"] metadata data) : TableFinding tree root (.fields data)
  | obstructed {metadata : ConfigData} (hmetadata : MetadataFinding tree root (.fields metadata))
      (h : IsObstructed ["tool", "api-scramble"] metadata) :
      TableFinding tree root (.broken (.metadata .noTable))
  | noMetadata {finding : Finding MetadataFault} (hmetadata : MetadataFinding tree root finding)
      (h : ∀ metadata, finding ≠ .fields metadata) : TableFinding tree root (finding.mapFault .metadata)

/-- What there is to configure the project at a path with: the file that is asked for, else the customary
one, else a table of its metadata. -/
inductive OptionsFinding (tree : FileTree) (config : Option Project.Path) (root : Project.Path) :
    Finding OptionsFault → Prop
  | file {finding : Finding OptionsFault}
      (h : FileFinding tree (config.getD (root.extend [optionsFile])) finding) :
      OptionsFinding tree config root finding
  | missing {p : Project.Path} (hconfig : config = some p) (h : tree.exists? p = false) :
      OptionsFinding tree config root .unusable
  | metadata {finding : Finding OptionsFault} (hconfig : config = none)
      (hmissing : tree.exists? (root.extend [optionsFile]) = false)
      (h : TableFinding tree root finding) : OptionsFinding tree config root finding

section Finding

variable {tree : FileTree} {config : Option Project.Path} {root p : Project.Path}

/-- A file is missing or something is found in it. -/
theorem fileFinding_cases (tree : FileTree) (p : Project.Path) :
    tree.exists? p = false ∨ ∃ finding, FileFinding tree p finding := by
  rcases place_cases tree p with h | h | h | ⟨s, h⟩
  · exact Or.inl h
  · exact Or.inr ⟨_, .directory h⟩
  · exact Or.inr ⟨_, .undecodable h⟩
  · right
    match hread : Yaml.read (unified s) with
    | .ok v =>
      by_cases hnull : v = .null
      · exact ⟨_, .empty h (hnull ▸ hread)⟩
      · by_cases hmap : ∃ data, v = .map data
        · obtain ⟨data, rfl⟩ := hmap
          exact ⟨_, .mapping h hread⟩
        · exact ⟨_, .other h hread hnull fun data hdata => hmap ⟨data, hdata⟩⟩
    | .error fault =>
      by_cases hfault : fault = .malformed
      · exact ⟨_, .malformed h (hfault ▸ hread)⟩
      · exact ⟨_, .noValue h hread hfault⟩

/-- Something is found in the metadata of any project. -/
theorem exists_tableFinding (tree : FileTree) (root : Project.Path) :
    ∃ finding, TableFinding tree root finding := by
  obtain ⟨finding, hmetadata⟩ := exists_metadataFinding tree root
  by_cases hfields : ∃ metadata, finding = .fields metadata
  · obtain ⟨metadata, rfl⟩ := hfields
    rcases exists_isTable_or_isObstructed ["tool", "api-scramble"] metadata with ⟨data, h⟩ | h
    · exact ⟨_, .table hmetadata h⟩
    · exact ⟨_, .obstructed hmetadata h⟩
  · exact ⟨_, .noMetadata hmetadata fun metadata h => hfields ⟨metadata, h⟩⟩

/-- There is always a finding, if only that nothing configures the project. -/
theorem exists_optionsFinding (tree : FileTree) (config : Option Project.Path) (root : Project.Path) :
    ∃ finding, OptionsFinding tree config root finding := by
  rcases fileFinding_cases tree (config.getD (root.extend [optionsFile])) with hmissing | ⟨_, h⟩
  · cases config with
    | some p => exact ⟨_, .missing rfl hmissing⟩
    | none =>
      obtain ⟨finding, h⟩ := exists_tableFinding tree root
      exact ⟨finding, .metadata rfl hmissing h⟩
  · exact ⟨_, .file h⟩

/-- What is found never consists of wrong values: those come to light only when it is checked. -/
theorem OptionsFinding.ne_invalid {fault : OptionsFault}
    (h : OptionsFinding tree config root (.broken fault)) (faults : List LocatedFault) :
    fault ≠ .invalid faults := by
  -- the finding is an index of the relation, so it has to be a variable before the cases are taken
  generalize hbroken : Finding.broken fault = finding at h
  cases h with
  | file h => cases h <;> cases hbroken <;> exact nofun
  | missing => cases hbroken
  | metadata _ _ h =>
    cases h with
    | table => cases hbroken
    | obstructed =>
      cases hbroken
      exact nofun
    | noMetadata hmetadata => cases hmetadata <;> cases hbroken <;> exact nofun

/-- A file that holds a text is read as the text, with the line ends of any system. -/
theorem readText_of_holds {s : String} (h : Holds tree p s) : tree.readText p = .ok (unified s) := by
  unfold FileTree.readText
  rw [h]
  dsimp only
  rw [decode_of_holds]
  rfl

/-- Reading a configuration file comes to what it has in it. -/
theorem comesTo_readConfigFile {finding : Finding OptionsFault} (h : FileFinding tree p finding) :
    ComesTo (readConfigFile tree p) finding := by
  unfold readConfigFile
  dsimp only
  cases h with
  | directory h =>
    have hread : tree.readText p = .error (.file .isDirectory) := by
      unfold FileTree.readText
      rw [readBytes_of_isDirectory h]
    rw [hread]
    exact comesTo_warning _ _
  | undecodable h =>
    obtain ⟨bytes, hbytes, hnone⟩ := h
    obtain ⟨e, he⟩ := Utf8.exists_decode_eq_error_iff.2 hnone
    have hread : tree.readText p = .error (.encoding e) := by
      unfold FileTree.readText
      rw [hbytes]
      dsimp only
      rw [he]
    rw [hread]
    exact comesTo_throw _
  | malformed h hread =>
    rw [readText_of_holds h]
    dsimp only
    rw [hread]
    exact comesTo_warning _ _
  | @noValue s fault h hread hfault =>
    rw [readText_of_holds h]
    dsimp only
    rw [hread]
    cases fault with
    | malformed => exact absurd rfl hfault
    | _ => exact comesTo_throw _
  | empty h hread =>
    rw [readText_of_holds h]
    dsimp only
    rw [hread]
    exact comesTo_pure []
  | mapping h hread =>
    rw [readText_of_holds h]
    dsimp only
    rw [hread]
    exact comesTo_pure _
  | @other s v h hread hnull hmap =>
    rw [readText_of_holds h]
    dsimp only
    rw [hread]
    cases v with
    | null => exact absurd rfl hnull
    | map data => exact absurd rfl (hmap data)
    | _ => exact comesTo_warning _ _

/-- A file in which something is found is there. -/
theorem FileFinding.exists? {finding : Finding OptionsFault} (h : FileFinding tree p finding) :
    tree.exists? p = true := by
  cases h with
  | directory h => exact exists?_of_isDirectory h
  | undecodable h =>
    obtain ⟨bytes, hbytes, _⟩ := h
    exact exists?_of_readBytes hbytes
  | malformed h | noValue h | empty h | mapping h | other h => exact exists?_of_readBytes h

/-- The options in the metadata come to what the metadata have for them. -/
theorem comesTo_readMetadataOptions {finding : Finding OptionsFault} (h : TableFinding tree root finding) :
    ComesTo (readMetadataOptions tree root) finding := by
  have hread {found : Finding MetadataFault} (hmetadata : MetadataFinding tree root found) :=
    (comesTo_readMetadata hmetadata).mapFault OptionsFault.metadata
  have htables (metadata : ConfigData) : (do tableOf "api-scramble" (← tableOf "tool" metadata)) =
      tableAt ["tool", "api-scramble"] metadata := by
    rw [tableAt_cons]
    exact congrArg _ (funext fun fields => (bind_pure _).symm)
  unfold readMetadataOptions
  cases h with
  | table hmetadata h =>
    intro log
    rw [runFrom_bind, hread hmetadata log]
    dsimp only
    rw [htables, tableAt_of_isTable h]
    rfl
  | obstructed hmetadata h =>
    intro log
    rw [runFrom_bind, hread hmetadata log]
    dsimp only
    rw [htables, tableAt_of_isObstructed h]
    rfl
  | @noMetadata found hmetadata h =>
    cases found with
    | fields metadata => exact absurd rfl (h metadata)
    | unusable =>
      obtain ⟨topic, text, hrun⟩ := hread hmetadata
      refine ⟨topic, text, fun log => ?_⟩
      rw [runFrom_bind, hrun log]
      rfl
    | broken fault =>
      intro log
      rw [runFrom_bind, hread hmetadata log]

/-- Reading the configuration comes to what is found. -/
theorem comesTo_readConfigData {finding : Finding OptionsFault}
    (h : OptionsFinding tree config root finding) : ComesTo (readConfigData tree config root) finding := by
  unfold readConfigData
  dsimp only
  cases h with
  | file h =>
    rw [if_pos h.exists?]
    exact comesTo_readConfigFile h
  | missing hconfig h =>
    subst hconfig
    rw [Option.getD_some, h]
    exact comesTo_warning _ _
  | metadata hconfig hmissing h =>
    subst hconfig
    rw [Option.getD_none, hmissing]
    exact comesTo_readMetadataOptions h

/-! ## Loading -/

/-- The options that fields give, or what is wrong with them. -/
def checkedOptions (data : ConfigData) : Except OptionsFault Options :=
  match Options.ofFields (withOptionNames data) with
  | .valid options => .ok options
  | .invalid faults => .error (.invalid faults)

/-- Fields give options, or it is listed what is wrong with them. -/
theorem checkedOptions_cases (data : ConfigData) :
    (∃ o, checkedOptions data = .ok o) ∨ ∃ faults, checkedOptions data = .error (.invalid faults) := by
  unfold checkedOptions
  cases Options.ofFields (withOptionNames data) with
  | valid o => exact Or.inl ⟨o, rfl⟩
  | invalid faults => exact Or.inr ⟨faults, rfl⟩

/-- Options are loaded by reading data and checking it. -/
theorem loadOptions_eq (tree : FileTree) (config : Option Project.Path) (root : Project.Path) :
    loadOptions tree config root =
      (do liftM (checkedOptions (← readConfigData tree config root))) := by
  unfold loadOptions checkedOptions
  congr 1
  funext data
  cases Options.ofFields (withOptionNames data) <;> rfl

/-- Fields are checked, and nothing is said. -/
theorem runFrom_loadOptions_of_fields {data : ConfigData}
    (h : OptionsFinding tree config root (.fields data)) (log : Log) :
    (loadOptions tree config root).runFrom log = (checkedOptions data, log) := by
  rw [loadOptions_eq, runFrom_bind, comesTo_readConfigData h log]
  rfl

/-- What cannot be used gives the defaults and one warning. -/
theorem runFrom_loadOptions_of_unusable (h : OptionsFinding tree config root .unusable) :
    ∃ topic text, ∀ log,
      (loadOptions tree config root).runFrom log = (.ok {}, log ++ [⟨.warning, topic, text⟩]) := by
  obtain ⟨topic, text, hrun⟩ := comesTo_readConfigData h
  refine ⟨topic, text, fun log => ?_⟩
  rw [loadOptions_eq, runFrom_bind, hrun log]
  rfl

/-- What is broken breaks the loading off. -/
theorem runFrom_loadOptions_of_broken {fault : OptionsFault}
    (h : OptionsFinding tree config root (.broken fault)) (log : Log) :
    (loadOptions tree config root).runFrom log = (.error fault, log) := by
  rw [loadOptions_eq, runFrom_bind, comesTo_readConfigData h log]

/-- Options are loaded or their faults listed exactly if nothing that is found is broken. -/
theorem loadOptions_reported_iff (log : Log) :
    ((∃ o, ((loadOptions tree config root).runFrom log).1 = .ok o) ∨
        ∃ faults, ((loadOptions tree config root).runFrom log).1 = .error (.invalid faults)) ↔
      ∀ fault, ¬ OptionsFinding tree config root (.broken fault) := by
  constructor
  · intro hreported fault h
    rw [runFrom_loadOptions_of_broken h log] at hreported
    rcases hreported with ⟨o, ho⟩ | ⟨faults, hfaults⟩
    · cases ho
    · exact h.ne_invalid faults (Except.error.inj hfaults)
  · intro hnone
    obtain ⟨finding, h⟩ := exists_optionsFinding tree config root
    cases finding with
    | fields data =>
      rw [runFrom_loadOptions_of_fields h log]
      exact checkedOptions_cases data
    | unusable =>
      obtain ⟨topic, text, hrun⟩ := runFrom_loadOptions_of_unusable h
      exact Or.inl ⟨{}, congrArg Prod.fst (hrun log)⟩
    | broken fault => exact absurd h (hnone fault)

end Finding

/-! ## Describing -/

section Describing

variable {tree : FileTree} {root : Project.Path} {option : Option String} {field fallback : String}
  {metadata : ConfigData}

/-- There is a table of the project or none, and a field of it that is not passed over is a text. -/
def LeavesText (metadata : ConfigData) (field : String) : Prop :=
  ∃ table, IsTable ["project"] metadata table ∧
    ∀ v, field? field table = some v → v.isEmpty = false → ∃ s, v = .str s

/-- An option gives a text, or the metadata leave one. -/
def HasText (option : Option String) (metadata : ConfigData) (field : String) : Prop :=
  (∃ s, option = some s ∧ s ≠ "") ∨ LeavesText metadata field

/-- A text is present if it is there and not empty. -/
theorem presentText?_eq_some_iff {s : String} :
    presentText? option = some s ↔ option = some s ∧ s ≠ "" := by
  unfold presentText?
  rw [Option.filter_eq_some_iff]
  simp

/-- A field of the project is looked up in its table. -/
theorem projectField_of_isTable {table : ConfigData} (h : IsTable ["project"] metadata table) :
    projectField field metadata = .ok (present? (field? field table)) := by
  have htable : tableOf "project" metadata = .ok table :=
    (bind_pure _).symm.trans (tableAt_of_isTable h)
  unfold projectField
  rw [htable]
  rfl

/-- Without a table the field cannot be looked up. -/
theorem projectField_of_isObstructed (h : IsObstructed ["project"] metadata) :
    projectField field metadata = .error .noTable := by
  have htable : tableOf "project" metadata = .error .noTable :=
    (bind_pure _).symm.trans (tableAt_of_isObstructed h)
  unfold projectField
  rw [htable]
  rfl

/-- Without an option the metadata describes the project. -/
theorem describedBy_of_none (h : presentText? option = none) :
    describedBy option field metadata fallback =
      (projectField field metadata).map (·.getD (.str fallback)) := by
  unfold describedBy
  rw [h]
  rfl

/-- A value is present if it is there and not empty. -/
theorem present?_eq_some_iff {o : Option Value} {v : Value} :
    present? o = some v ↔ o = some v ∧ v.isEmpty = false := by
  unfold present?
  rw [Option.filter_eq_some_iff]
  simp

/-- What describes a project is a text exactly if an option gives one or the metadata leave one. -/
theorem exists_describedBy_eq_str_iff (option : Option String) (field fallback : String)
    (metadata : ConfigData) :
    (∃ s, describedBy option field metadata fallback = .ok (.str s)) ↔ HasText option metadata field := by
  cases hoption : presentText? option with
  | some s =>
    have hdescribed : describedBy option field metadata fallback = .ok (.str s) := by
      unfold describedBy
      rw [hoption]
    exact iff_of_true ⟨s, hdescribed⟩ (Or.inl ⟨s, presentText?_eq_some_iff.1 hoption⟩)
  | none =>
    have hgiven : ¬ ∃ s, option = some s ∧ s ≠ "" := fun ⟨s, hs⟩ =>
      nomatch hoption.symm.trans (presentText?_eq_some_iff.2 hs)
    rw [describedBy_of_none hoption, HasText, or_iff_right hgiven]
    rcases exists_isTable_or_isObstructed ["project"] metadata with ⟨table, htable⟩ | hobstructed
    · rw [projectField_of_isTable htable]
      constructor
      · rintro ⟨s, hs⟩
        refine ⟨table, htable, fun v hv hpresent => ?_⟩
        -- a value that is present comes out as it is, so it was a text
        rw [present?_eq_some_iff.2 ⟨hv, hpresent⟩] at hs
        exact ⟨s, Except.ok.inj hs⟩
      · rintro ⟨table', htable', htext⟩
        obtain rfl := htable.unique htable'
        cases hpresent : present? (field? field table) with
        | none => exact ⟨fallback, rfl⟩
        | some v =>
          obtain ⟨hv, hempty⟩ := present?_eq_some_iff.1 hpresent
          obtain ⟨s, rfl⟩ := htext v hv hempty
          exact ⟨s, rfl⟩
    · rw [projectField_of_isObstructed hobstructed]
      refine iff_of_false (fun ⟨_, hs⟩ => nomatch hs) fun ⟨table, htable, _⟩ => ?_
      cases (tableAt_of_isTable htable).symm.trans (tableAt_of_isObstructed hobstructed)

/-- There is always an address. -/
theorem exists_yields_addressOf (env : Environment) (option : Option String) :
    ∃ address, Yields (addressOf env option) address := by
  have hport : ∃ n, Yields (env.detectPort : Logged MetadataFault Int) n := by
    unfold Environment.detectPort
    split
    · exact ⟨_, yields_pure _⟩
    · split
      · exact ⟨_, yields_pure _⟩
      · exact ⟨defaultPort, (yields_write _ _ _).bind (yields_pure _)⟩
  obtain ⟨n, hport⟩ := hport
  unfold addressOf
  split
  · exact ⟨_, yields_pure _⟩
  · exact ⟨_, hport.bind (yields_pure _)⟩

/-- Resolved options have texts for title and version exactly if options and metadata have them. -/
theorem exists_resolved_iff (env : Environment) (layout : Layout) (o : Options) (log : Log) :
    (∃ r, ((resolveOptions env layout o).runFrom log).1 = .ok r ∧ (∃ s, r.title = .str s) ∧
        ∃ s, r.version = .str s) ↔
      HasText o.apiTitle layout.metadata "name" ∧ HasText o.apiVersion layout.metadata "version" := by
  rw [resolveOptions_eq, ← exists_describedBy_eq_str_iff o.apiTitle "name" Api.defaultTitle,
    ← exists_describedBy_eq_str_iff o.apiVersion "version" Api.defaultVersion]
  constructor
  · rintro ⟨r, hrun, ⟨title, htitle⟩, version, hversion⟩
    obtain ⟨address, between, -, h⟩ := exists_of_runFrom_bind (Prod.ext hrun rfl)
    obtain ⟨v, between', hv, h⟩ := exists_of_runFrom_bind h
    obtain ⟨w, between'', hw, h⟩ := exists_of_runFrom_bind h
    obtain rfl := eq_of_runFrom_pure h
    obtain rfl := htitle
    obtain rfl := hversion
    exact ⟨⟨title, (Prod.mk.inj hv).1⟩, version, (Prod.mk.inj hw).1⟩
  · rintro ⟨⟨title, htitle⟩, version, hversion⟩
    obtain ⟨address, haddress⟩ := exists_yields_addressOf env o.baseUrl
    obtain ⟨between, hrun⟩ := haddress log
    rw [runFrom_bind, hrun]
    dsimp only
    rw [htitle, hversion]
    exact ⟨_, rfl, ⟨title, rfl⟩, version, rfl⟩

end Describing

/-! ## Configuration of any content -/

/-- What there is of the metadata of the project at a path, if they can be gone on with. -/
def IsMetadata (tree : FileTree) (root : Project.Path) (metadata : ConfigData) : Prop :=
  ∃ finding, MetadataFinding tree root finding ∧ finding.data? = some metadata

/-- The options of a project with the gaps filled from its layout. -/
def resolveProject (tree : FileTree) (env : Environment) (root : Project.Path) (o : Options) :
    Logged MetadataFault ResolvedOptions := do
  resolveOptions env (← detectLayout tree root) o

/-- A project is described by texts exactly if its metadata can be gone on with and leave texts where the
options give none. -/
theorem exists_resolveProject_iff (tree : FileTree) (env : Environment) (root : Project.Path) (o : Options)
    (log : Log) :
    (∃ r, ((resolveProject tree env root o).runFrom log).1 = .ok r ∧ (∃ s, r.title = .str s) ∧
        ∃ s, r.version = .str s) ↔
      ∃ metadata, IsMetadata tree root metadata ∧ HasText o.apiTitle metadata "name" ∧
        HasText o.apiVersion metadata "version" := by
  unfold resolveProject
  rw [runFrom_bind]
  constructor
  · rintro ⟨r, hrun, htexts⟩
    rcases hlayout : (detectLayout tree root).runFrom log with ⟨fault | layout, between⟩
    · rw [hlayout] at hrun
      cases hrun
    · rw [hlayout] at hrun
      obtain ⟨-, log', hread⟩ := of_runFrom_detectLayout hlayout
      obtain ⟨finding, hfinding⟩ := exists_metadataFinding tree root
      exact ⟨layout.metadata, ⟨finding, hfinding, (comesTo_readMetadata hfinding).data?_of_run hread⟩,
        (exists_resolved_iff env layout o between).1 ⟨r, hrun, htexts⟩⟩
  · rintro ⟨metadata, ⟨finding, hfinding, hdata⟩, htexts⟩
    obtain ⟨layout, rfl, hlayout⟩ := exists_yields_detectLayout hfinding hdata
    obtain ⟨between, hrun⟩ := hlayout log
    rw [hrun]
    exact (exists_resolved_iff env layout o between).2 htexts

/-- What comes of a configuration with any content. Options are loaded, or their faults listed, unless
what is found is broken, and then its fault comes out; fields are checked, and what is unusable leaves the
defaults and a warning. A project is described by texts exactly if its metadata can be gone on with and
leave texts where the options give none. -/
theorem configuration_outcome (tree : FileTree) (env : Environment) (config : Option Project.Path)
    (root : Project.Path) (log : Log) :
    (((∃ o, ((loadOptions tree config root).runFrom log).1 = .ok o) ∨
        ∃ faults, ((loadOptions tree config root).runFrom log).1 = .error (.invalid faults)) ↔
      ∀ fault, ¬ OptionsFinding tree config root (.broken fault)) ∧
    (∀ fault, OptionsFinding tree config root (.broken fault) →
      (loadOptions tree config root).runFrom log = (.error fault, log)) ∧
    (∀ data, OptionsFinding tree config root (.fields data) →
      (loadOptions tree config root).runFrom log = (checkedOptions data, log)) ∧
    (OptionsFinding tree config root .unusable → ∃ topic text,
      (loadOptions tree config root).runFrom log = (.ok {}, log ++ [⟨.warning, topic, text⟩])) ∧
    ∀ o : Options,
      (∃ r, ((resolveProject tree env root o).runFrom log).1 = .ok r ∧ (∃ s, r.title = .str s) ∧
          ∃ s, r.version = .str s) ↔
        ∃ metadata, IsMetadata tree root metadata ∧ HasText o.apiTitle metadata "name" ∧
          HasText o.apiVersion metadata "version" := by
  refine ⟨loadOptions_reported_iff log, fun fault h => runFrom_loadOptions_of_broken h log,
    fun data h => runFrom_loadOptions_of_fields h log, fun h => ?_,
    fun o => exists_resolveProject_iff tree env root o log⟩
  obtain ⟨topic, text, hrun⟩ := runFrom_loadOptions_of_unusable h
  exact ⟨topic, text, hrun log⟩

/-- A project whose options file is a byte that begins no text. -/
def scrambledProject : FileTree where
  entries := [(["shop"], .directory), (["shop", optionsFile], .file [0xff])]
  cwd := ["shop"]

/-- Configuration is not always loaded or reported: bytes that are no text break loading off. -/
theorem not_forall_configuration_reported :
    ¬ ∀ (tree : FileTree) (env : Environment) (config : Option Project.Path) (root : Project.Path)
        (log : Log),
      (∃ faults, ((loadOptions tree config root).runFrom log).1 = .error (.invalid faults)) ∨
      ∃ o r, ((loadOptions tree config root).runFrom log).1 = .ok o ∧
        ((resolveProject tree env root o).runFrom log).1 = .ok r ∧ (∃ s, r.title = .str s) ∧
        ∃ s, r.version = .str s := by
  intro h
  have hbytes : HoldsNoText scrambledProject ((Path.ofString ".").extend [optionsFile]) :=
    ⟨[0xff], by decide +kernel, Utf8.exists_decode_eq_error_iff.1 ⟨_, rfl⟩⟩
  have hfinding : OptionsFinding scrambledProject none (.ofString ".") (.broken .undecodable) :=
    .file (.undecodable hbytes)
  have hrun := runFrom_loadOptions_of_broken hfinding []
  rcases h scrambledProject {} none (.ofString ".") [] with ⟨faults, hfaults⟩ | ⟨o, r, ho, -⟩
  · rw [hrun] at hfaults
    cases hfaults
  · rw [hrun] at ho
    cases ho

end RouteAtlas
