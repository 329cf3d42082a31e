import RouteAtlas.Project.Layout
import RouteAtlas.Proofs.Document.Writing
import RouteAtlas.Proofs.SteadyWork
import RouteAtlas.Proofs.Text.Encoding

/-!
# What metadata files hold

Data that a project may have can be found, unusable or broken. `MetadataFinding` says which of these the
metadata of a project are, by what stands in the place of their file; reading them comes to just that
(`comesTo_readMetadata`). The rest of detection never fails, so a layout is detected exactly if the
metadata are not broken.
-/

namespace RouteAtlas.Project

open RouteAtlas.Document RouteAtlas.Logged RouteAtlas.Scan RouteAtlas.Text

/-! ## Findings -/

/-- What there is in a place that data may come from. -/
inductive Finding (ε : Type) where
  /-- Fields, which may be none. -/
  | fields (data : List (String × Value))
  /-- Something that is passed over. -/
  | unusable
  /-- Something that cannot be passed over. -/
  | broken (fault : ε)

namespace Finding

variable {ε δ : Type}

/-- The fields to go on with. -/
def data? : Finding ε → Option (List (String × Value))
  | .fields data => some data
  | .unusable => some []
  | .broken _ => none

/-- The finding with its fault renamed. -/
def mapFault (f : ε → δ) : Finding ε → Finding δ
  | .fields data => .fields data
  | .unusable => .unusable
  | .broken fault => .broken (f fault)

end Finding

/-- After any messages the work gives the fields that were found, gives no fields and one warning, or
fails. -/
def ComesTo {ε : Type} (work : Logged ε (List (String × Value))) : Finding ε → Prop
  | .fields data => ∀ log, work.runFrom log = (.ok data, log)
  | .unusable => ∃ topic text, ∀ log, work.runFrom log = (.ok [], log ++ [⟨.warning, topic, text⟩])
  | .broken fault => ∀ log, work.runFrom log = (.error fault, log)

section ComesTo

variable {ε δ : Type} {work : Logged ε (List (String × Value))}

/-- Returned fields are found. -/
theorem comesTo_pure (data : List (String × Value)) :
    ComesTo (pure data : Logged ε (List (String × Value))) (.fields data) := fun _ => rfl

/-- Work that breaks off has found something broken. -/
theorem comesTo_throw (fault : ε) :
    ComesTo (throw fault : Logged ε (List (String × Value))) (.broken fault) := fun _ => rfl

/-- A warning with no fields means that nothing could be used. -/
theorem comesTo_warning (topic : Topic) (text : String) :
    ComesTo (do write .warning topic text; return [] : Logged ε (List (String × Value))) .unusable :=
  ⟨topic, text, fun _ => rfl⟩

/-- Renaming failures renames what is found broken. -/
theorem ComesTo.mapFault {finding : Finding ε} (f : ε → δ) (h : ComesTo work finding) :
    ComesTo (Logged.mapFault f work) (finding.mapFault f) := by
  have hrun (log : Log) : (Logged.mapFault f work).runFrom log =
      ((work.runFrom log).1.mapError f, (work.runFrom log).2) := rfl
  cases finding with
  | fields data =>
    intro log
    rw [hrun, h log]
    rfl
  | unusable =>
    obtain ⟨topic, text, h⟩ := h
    refine ⟨topic, text, fun log => ?_⟩
    rw [hrun, h log]
    rfl
  | broken fault =>
    intro log
    rw [hrun, h log]
    rfl

/-- Where there is something to go on with, the work succeeds. -/
theorem ComesTo.yields {finding : Finding ε} {data : List (String × Value)} (h : ComesTo work finding)
    (hdata : finding.data? = some data) : Yields work data := by
  cases finding with
  | fields found =>
    obtain rfl := Option.some.inj hdata
    exact fun log => ⟨log, h log⟩
  | unusable =>
    obtain rfl := Option.some.inj hdata
    obtain ⟨topic, text, h⟩ := h
    exact fun log => ⟨_, h log⟩
  | broken fault => cases hdata

/-- Work that succeeds found something to go on with. -/
theorem ComesTo.data?_of_run {finding : Finding ε} {data : List (String × Value)} {log log' : Log}
    (h : ComesTo work finding) (hrun : work.runFrom log = (.ok data, log')) :
    finding.data? = some data := by
  cases finding with
  | fields found => exact congrArg some (Except.ok.inj (Prod.mk.inj ((h log).symm.trans hrun)).1)
  | unusable =>
    obtain ⟨topic, text, h⟩ := h
    exact congrArg some (Except.ok.inj (Prod.mk.inj ((h log).symm.trans hrun)).1)
  | broken fault => cases (Prod.mk.inj ((h log).symm.trans hrun)).1

end ComesTo

/-! ## What stands in a place -/

section Place

variable {tree : FileTree} {p : Path}

/-- The bytes of the file at a path are those of no text. -/
def HoldsNoText (tree : FileTree) (p : Path) : Prop :=
  ∃ bytes, tree.readBytes p = .ok bytes ∧ ∀ s : String, s.toUTF8.toList ≠ bytes

/-- In a place there is nothing, a directory, a file with a text or a file without. -/
theorem place_cases (tree : FileTree) (p : Path) : tree.exists? p = false ∨
    tree.isDirectory p = true ∨ HoldsNoText tree p ∨ ∃ s, Holds tree p s := by
  unfold FileTree.exists? FileTree.isDirectory FileTree.lookup? HoldsNoText Holds FileTree.readBytes
  cases tree.locate p with
  | error fault =>
    -- a path through a file or a missing directory leads to nothing
    exact Or.inl rfl
  | ok l =>
    dsimp only
    match tree.at? l with
    | none => exact Or.inl rfl
    | some .directory => exact Or.inr (Or.inl (by decide))
    | some (.file bytes) =>
      refine Or.inr (Or.inr ?_)
      by_cases htext : ∃ s : String, s.toUTF8.toList = bytes
      · obtain ⟨s, rfl⟩ := htext
        exact Or.inr ⟨s, rfl⟩
      · exact Or.inl ⟨bytes, rfl, fun s hs => htext ⟨s, hs⟩⟩

/-- A directory has no bytes. -/
theorem readBytes_of_isDirectory (h : tree.isDirectory p = true) :
    tree.readBytes p = .error .isDirectory := by
  unfold FileTree.isDirectory FileTree.lookup? at h
  unfold FileTree.readBytes
  revert h
  cases tree.locate p with
  | error fault => exact nofun
  | ok l =>
    dsimp only
    intro h
    rw [beq_iff_eq.1 h]

/-- A directory is there. -/
theorem exists?_of_isDirectory (h : tree.isDirectory p = true) : tree.exists? p = true := by
  unfold FileTree.exists?
  rw [beq_iff_eq.1 h]
  rfl

/-- A file that was read is there. -/
theorem exists?_of_readBytes {bytes : List UInt8} (h : tree.readBytes p = .ok bytes) :
    tree.exists? p = true := by
  unfold FileTree.readBytes at h
  unfold FileTree.exists? FileTree.lookup?
  revert h
  cases tree.locate p with
  | error fault => exact nofun
  | ok l =>
    dsimp only
    intro h
    cases hat : tree.at? l with
    | none =>
      rw [hat] at h
      cases h
    | some entry => rfl

/-- The bytes of a text are read as the text. -/
theorem decode_of_holds {s : String} : Utf8.decode s.toUTF8.toList = .ok s :=
  Utf8.decode_eq_ok_iff.2 rfl

end Place

/-! ## Metadata -/

section Metadata

variable {tree : FileTree} {root : Path}

/-- What the metadata of the project at a path are. -/
inductive MetadataFinding (tree : FileTree) (root : Path) : Finding MetadataFault → Prop
  | absent (h : tree.exists? (root.extend [metadataFile]) = false) : MetadataFinding tree root (.fields [])
  | directory (h : tree.isDirectory (root.extend [metadataFile]) = true) :
      MetadataFinding tree root .unusable
  | undecodable (h : HoldsNoText tree (root.extend [metadataFile])) :
      MetadataFinding tree root (.broken .undecodable)
  | malformed {s : String} (h : Holds tree (root.extend [metadataFile]) s)
      (hread : Toml.read s = .error .malformed) : MetadataFinding tree root .unusable
  | longInteger {s : String} (h : Holds tree (root.extend [metadataFile]) s)
      (hread : Toml.read s = .error .longInteger) : MetadataFinding tree root (.broken .longInteger)
  | read {s : String} {data : List (String × Value)} (h : Holds tree (root.extend [metadataFile]) s)
      (hread : Toml.read s = .ok data) : MetadataFinding tree root (.fields data)

/-- Something is found of the metadata of any project. -/
theorem exists_metadataFinding (tree : FileTree) (root : Path) :
    ∃ finding, MetadataFinding tree root finding := by
  rcases place_cases tree (root.extend [metadataFile]) with h | h | h | ⟨s, h⟩
  · exact ⟨_, .absent h⟩
  · exact ⟨_, .directory h⟩
  · exact ⟨_, .undecodable h⟩
  · match hread : Toml.read s with
    | .ok data => exact ⟨_, .read h hread⟩
    | .error .malformed => exact ⟨_, .malformed h hread⟩
    | .error .longInteger => exact ⟨_, .longInteger h hread⟩

/-- Reading the metadata comes to what they are. -/
theorem comesTo_readMetadata {finding : Finding MetadataFault} (h : MetadataFinding tree root finding) :
    ComesTo (readMetadata tree root) finding := by
  have hthere {bytes : List UInt8} (hbytes : tree.readBytes (root.extend [metadataFile]) = .ok bytes) :=
    exists?_of_readBytes hbytes
  unfold readMetadata
  dsimp only
  cases h with
  | absent h =>
    rw [h]
    exact comesTo_pure []
  | directory h =>
    rw [exists?_of_isDirectory h, readBytes_of_isDirectory h]
    exact comesTo_warning _ _
  | undecodable h =>
    obtain ⟨bytes, hbytes, hnone⟩ := h
    obtain ⟨e, he⟩ := Utf8.exists_decode_eq_error_iff.2 hnone
    rw [hthere hbytes, hbytes]
    dsimp only
    rw [he]
    exact comesTo_throw _
  | malformed h hread =>
    rw [hthere h, h]
    dsimp only
    rw [decode_of_holds]
    dsimp only
    rw [hread]
    exact comesTo_warning _ _
  | longInteger h hread =>
    rw [hthere h, h]
    dsimp only
    rw [decode_of_holds]
    dsimp only
    rw [hread]
    exact comesTo_throw _
  | read h hread =>
    rw [hthere h, h]
    dsimp only
    rw [decode_of_holds]
    dsimp only
    rw [hread]
    exact comesTo_pure _

/-- Looking for routers never fails. -/
theorem exists_yields_findControllers {ε : Type} (tree : FileTree) (p : Path) :
    ∃ paths, Yields (findControllers tree p : Logged ε (List Path)) paths := by
  have hdeclares (q : Path) : ∃ b, Yields (declaresRouter tree q : Logged ε Bool) b := by
    unfold declaresRouter
    split
    · exact ⟨_, yields_pure _⟩
    · exact ⟨false, (yields_write _ _ _).bind (yields_pure false)⟩
  choose declares hdeclares using hdeclares
  unfold findControllers
  split
  · exact ⟨[], yields_pure []⟩
  · exact ⟨_, yields_filterM hdeclares _⟩

/-- Where the metadata can be gone on with, a layout with them is detected. -/
theorem exists_yields_detectLayout {finding : Finding MetadataFault} {data : List (String × Value)}
    (h : MetadataFinding tree root finding) (hdata : finding.data? = some data) :
    ∃ layout, layout.metadata = data ∧ Yields (detectLayout tree root) layout := by
  obtain ⟨paths, hpaths⟩ := exists_yields_findControllers tree (root.extend [detectSource tree root])
  exact ⟨⟨root, detectSource tree root, data, paths⟩, rfl,
    ((comesTo_readMetadata h).yields hdata).bind (hpaths.bind (yields_pure _))⟩

end Metadata

end RouteAtlas.Project
