import RouteAtlas.Proofs.Fallible
import RouteAtlas.Proofs.Project.DirectoryWay

/-!
# What an export leaves behind

An export either writes its document or reports a failure, with three exceptions that come out as they
are: a file stands where a directory above the document is needed (`IsBlocked`), a null character stands in
the path, or surrogates stand in the text. `exportTo_outcome` says when which of these happens and what is
in the file tree afterwards.
-/

namespace RouteAtlas.Document

open RouteAtlas.Project RouteAtlas.Project.FileTree

/-! ## Directories -/

section Directories

variable {t : FileTree} {p : Path} {l : Location}

/-- One directory is made where its path leads, unless a file stands there. -/
theorem makeDirectory_of_locate (h : t.locate p = .ok l) :
    (¬ t.HoldsFile l → makeDirectory t p = (t.openDirectory l, none)) ∧
      (t.HoldsFile l → makeDirectory t p = (t, some .fileExists)) := by
  unfold makeDirectory openDirectory HoldsFile
  rw [h]
  dsimp only
  match hat : t.at? l with
  | none => exact ⟨fun _ => rfl, fun ⟨bytes, hfile⟩ => nomatch hfile⟩
  | some .directory => exact ⟨fun _ => rfl, fun ⟨bytes, hfile⟩ => nomatch hfile⟩
  | some (.file bytes) => exact ⟨fun hno => absurd ⟨bytes, rfl⟩ hno, fun _ => rfl⟩

/-- A directory after a missing one is not made. -/
theorem makeDirectory_of_missing (h : t.locate p = .error .missing) :
    makeDirectory t p = (t, some .missing) := by
  unfold makeDirectory
  rw [h]

/-- A directory after a file is not made. -/
theorem makeDirectory_of_notDirectory (h : t.locate p = .error .notDirectory) :
    makeDirectory t p = (t, some .notDirectory) := by
  unfold makeDirectory
  rw [h]

/-- No directory is made on a path with a null character, wherever it stands. -/
theorem makeDirectories_of_null (depth : Nat) (h : p.hasNull = true) :
    makeDirectories depth t p = (t, some .nullCharacter) := by
  rw [makeDirectories, makeDirectory, locate_of_null h]

/-- A directory whose path leads somewhere needs no other to be made first. -/
theorem makeDirectories_of_locate (depth : Nat) (h : t.locate p = .ok l) :
    makeDirectories depth t p = makeDirectory t p := by
  obtain ⟨hfree, hfile⟩ := makeDirectory_of_locate h
  by_cases hl : t.HoldsFile l
  · rw [makeDirectories, hfile hl]
  · rw [makeDirectories, hfree hl]

/-- A directory whose path leads through a missing one comes after the directories above it. -/
theorem makeDirectories_of_missing {depth : Nat} (h : makeDirectory t p = (t, some .missing)) :
    makeDirectories (depth + 1) t p =
      match makeDirectories depth t p.parent with
      | (t, none) => makeDirectory t p
      | (t, some fault) => (t, some fault) := by
  rcases hmade : makeDirectories depth t p.parent with ⟨t', _ | fault⟩
  · rw [makeDirectories, h]
    dsimp only
    rw [hmade]
  · rw [makeDirectories, h]
    dsimp only
    rw [hmade]

/-- Some location is the first without a directory, or all have one. -/
theorem directories_or_obstacle (t : FileTree) (ls : List Location) :
    (∀ k ∈ ls, t.at? k = some .directory) ∨
      ∃ before k after, ls = before ++ k :: after ∧ t.at? k ≠ some .directory ∧
        ∀ j ∈ before, t.at? j = some .directory := by
  by_cases h : ∀ k ∈ ls, t.at? k = some .directory
  · exact Or.inl h
  · push Not at h
    obtain ⟨before, k, after, hls, hk, hbefore⟩ := exists_first h
    exact Or.inr ⟨before, k, after, hls, hk, fun j hj => not_ne_iff.1 (hbefore j hj)⟩

/-- Where neither a file nor a directory stands there is nothing. -/
theorem eq_none_of_not_holdsFile (hfile : ¬ t.HoldsFile l) (h : t.at? l ≠ some .directory) :
    t.at? l = none := by
  match hat : t.at? l with
  | none => rfl
  | some .directory => exact absurd hat h
  | some (.file bytes) => exact absurd ⟨bytes, hat⟩ hfile

/-- A directory whose parent's way can be opened is made after all directories on that way. -/
theorem makeDirectories_succ_of_open {depth : Nat} (hnull : p.hasNull = false)
    (hparts : p.parts ≠ []) (hparent : ∀ k ∈ t.wayTo p.parent, ¬ t.HoldsFile k)
    (hmade : makeDirectories depth t p.parent = (t.openWay (t.wayTo p.parent), none)) :
    makeDirectories (depth + 1) t p = makeDirectory (t.openWay (t.wayTo p.parent)) p := by
  rcases directories_or_obstacle t (t.wayTo p.parent) with
    hdirectories | ⟨before, k, after, hway, hk, hbefore⟩
  · rw [openWay_of_directories hdirectories]
    exact makeDirectories_of_locate _ (locate_of_directories hnull hdirectories)
  · have hmem : k ∈ t.wayTo p.parent := hway ▸ List.mem_append_right before List.mem_cons_self
    have hnone := eq_none_of_not_holdsFile (hparent k hmem) hk
    have hmissing := (locate_of_obstacle hnull hparts hway hbefore).1 hnone
    rw [makeDirectories_of_missing (makeDirectory_of_missing hmissing), hmade]

/-- The start of paths is made like any directory. -/
theorem makeDirectories_of_nil (depth : Nat) (h : p.parts = []) :
    (¬ t.HoldsFile (t.target p) → makeDirectories depth t p = (t.openWay (t.wayTo p), none)) ∧
      (t.HoldsFile (t.target p) → makeDirectories depth t p = (t, some .fileExists)) := by
  rw [makeDirectories_of_locate depth (locate_of_nil h), wayTo_of_nil h]
  exact makeDirectory_of_locate (locate_of_nil h)

/-- The parent of a path has one name less. -/
theorem length_parent_le {depth : Nat} (h : p.parts.length ≤ depth + 1) :
    p.parent.parts.length ≤ depth := by
  rw [Path.parent, List.length_dropLast]
  omega

/-- Where no file is in the way, all directories are made. -/
theorem makeDirectories_of_open {depth : Nat} (hnull : p.hasNull = false) (hdepth : p.parts.length ≤ depth)
    (h : ∀ k ∈ t.wayTo p, ¬ t.HoldsFile k) :
    makeDirectories depth t p = (t.openWay (t.wayTo p), none) := by
  induction depth generalizing p with
  | zero =>
    have hnil : p.parts = [] := List.length_eq_zero_iff.1 (Nat.le_zero.1 hdepth)
    exact (makeDirectories_of_nil 0 hnil).1 (h _ (target_mem_wayTo t p))
  | succ depth ih =>
    by_cases hnil : p.parts = []
    · exact (makeDirectories_of_nil (depth + 1) hnil).1 (h _ (target_mem_wayTo t p))
    · have hway := wayTo_eq (t := t) hnil
      have hparent : ∀ k ∈ t.wayTo p.parent, ¬ t.HoldsFile k := fun k hk =>
        h k (hway ▸ List.mem_append_left _ hk)
      have htarget := h _ (target_mem_wayTo t p)
      have hmade := ih (hasNull_parent hnull) (length_parent_le hdepth) hparent
      rw [makeDirectories_succ_of_open hnull hnil hparent hmade, hway, openWay_append]
      exact (makeDirectory_of_locate (locate_openWay hnull hparent)).1 fun hfile =>
        htarget (holdsFile_openWay_iff.1 hfile)

/-- A file is what is in the way of a directory. -/
def DirectoryFault.IsOfFile (fault : DirectoryFault) : Prop :=
  fault = .fileExists ∨ fault = .notDirectory

/-- The first file in the way stops the making of directories, after those before it. -/
theorem makeDirectories_of_blocked {depth : Nat} {before after : List Location} {k : Location}
    (hnull : p.hasNull = false) (hdepth : p.parts.length ≤ depth)
    (hway : t.wayTo p = before ++ k :: after) (hbefore : ∀ j ∈ before, ¬ t.HoldsFile j)
    (hk : t.HoldsFile k) :
    ∃ fault, fault.IsOfFile ∧ makeDirectories depth t p = (t.openWay before, some fault) := by
  have hstart (depth : Nat) {p : Path} {after : List Location} (hnil : p.parts = [])
      (hway : t.wayTo p = before ++ k :: after) :
      ∃ fault, fault.IsOfFile ∧ makeDirectories depth t p = (t.openWay before, some fault) := by
    rw [wayTo_of_nil hnil] at hway
    obtain ⟨rfl, hlast⟩ : before = [] ∧ t.target p = k := by
      rcases List.append_eq_singleton_iff.1 hway.symm with ⟨hbefore, hlast⟩ | ⟨_, hnone⟩
      · exact ⟨hbefore, (List.cons.inj hlast).1.symm⟩
      · cases hnone
    exact ⟨.fileExists, .inl rfl, (makeDirectories_of_nil depth hnil).2 (hlast ▸ hk)⟩
  induction depth generalizing p after with
  | zero => exact hstart 0 (List.length_eq_zero_iff.1 (Nat.le_zero.1 hdepth)) hway
  | succ depth ih =>
    by_cases hnil : p.parts = []
    · exact hstart (depth + 1) hnil hway
    · rw [wayTo_eq hnil] at hway
      have hlength := length_parent_le hdepth
      have hnullParent := hasNull_parent hnull
      rcases after.eq_nil_or_concat with rfl | ⟨between, last, hafter⟩
      · -- the file stands where the directory itself is needed
        obtain ⟨hparentWay, hlast⟩ := List.append_inj' hway rfl
        obtain ⟨htarget, -⟩ := List.cons.inj hlast
        have hparent : ∀ j ∈ t.wayTo p.parent, ¬ t.HoldsFile j := hparentWay ▸ hbefore
        have hmade := makeDirectories_of_open hnullParent hlength hparent
        rw [makeDirectories_succ_of_open hnull hnil hparent hmade, ← hparentWay]
        exact ⟨.fileExists, .inl rfl, (makeDirectory_of_locate (locate_openWay hnull hparent)).2
          (holdsFile_openWay_iff.2 (htarget ▸ hk))⟩
      · -- the file stands above the directory
        rw [hafter, List.concat_eq_append, ← List.cons_append, ← List.append_assoc] at hway
        obtain ⟨hparentWay, -⟩ := List.append_inj' hway rfl
        rcases directories_or_obstacle t before with hdirectories | ⟨front, j, back, rfl, hj, hfront⟩
        · have hlocate := (locate_of_obstacle hnull hnil hparentWay hdirectories).2 hk
          refine ⟨.notDirectory, .inr rfl, ?_⟩
          rw [makeDirectories, makeDirectory_of_notDirectory hlocate, openWay_of_directories hdirectories]
        · obtain ⟨fault, hof, hfault⟩ := ih hnullParent hlength hparentWay
          have hnone := eq_none_of_not_holdsFile (hbefore j (by simp)) hj
          rw [List.append_assoc, List.cons_append] at hparentWay
          have hmissing := (locate_of_obstacle hnull hnil hparentWay hfront).1 hnone
          refine ⟨fault, hof, ?_⟩
          rw [makeDirectories_of_missing (makeDirectory_of_missing hmissing), hfault]

end Directories

/-! ## Exports -/

section Exports

variable {t : FileTree} {document : Value} {output : Path} {formatName text : String}

/-- A file stands where a directory above the output is needed. -/
def IsBlocked (t : FileTree) (output : Path) : Prop := ∃ l ∈ t.wayTo output.parent, t.HoldsFile l

/-- The output cannot be a file: a directory stands there, or is needed there by the way to it. -/
def IsOccupied (t : FileTree) (output : Path) : Prop :=
  t.at? (t.target output) = some .directory ∨ t.target output ∈ t.wayTo output.parent

/-- A tree differs from another at most by directories on the way to the output, where nothing was. -/
def OpensWay (t t' : FileTree) (output : Path) : Prop :=
  ∀ k, t'.at? k = t.at? k ∨ k ∈ t.wayTo output.parent ∧ t.at? k = none ∧ t'.at? k = some .directory

/-- A tree differs from another by the text at the output, and else at most by directories on the way to
it, where nothing was. -/
def WritesOutput (t t' : FileTree) (output : Path) (text : String) : Prop :=
  Holds t' output text ∧ ∀ k ≠ t.target output, t'.at? k = t.at? k ∨
    k ∈ t.wayTo output.parent ∧ t.at? k = none ∧ t'.at? k = some .directory

/-- Opening a part of the way to the output opens its way. -/
theorem opensWay_openWay {ls : List Location} (h : ∀ k ∈ ls, k ∈ t.wayTo output.parent) :
    OpensWay t (t.openWay ls) output := by
  intro k
  rw [at?_openWay]
  split
  · next hk => exact Or.inr ⟨h k hk.2, hk.1, rfl⟩
  · exact Or.inl rfl

/-- On an open way the output is a directory exactly if it is occupied. -/
theorem at?_target_openWay_iff (hopen : ¬ IsBlocked t output) :
    (t.openWay (t.wayTo output.parent)).at? (t.target output) = some .directory ↔
      IsOccupied t output := by
  constructor
  · intro hat
    rw [at?_openWay] at hat
    split at hat
    · next hnew => exact Or.inr hnew.2
    · exact Or.inl hat
  · rintro (hat | hmem)
    · rw [at?_openWay, if_neg fun hnew => ?_, hat]
      cases hnew.1.symm.trans hat
    · exact directories_openWay (fun k hk hfile => hopen ⟨k, hk, hfile⟩) hmem

/-- Where the way to the output is open it is opened, and then a text is written into the file; the export
reports what came of that. -/
theorem exportTo_of_open (htext : dump document formatName = .ok text)
    (hnull : output.parent.hasNull = false) (hopen : ¬ IsBlocked t output) {t' : FileTree}
    {fault : Option FileFault} (hwritten : writeText (t.openWay (t.wayTo output.parent)) output
      (if lacksBytes document formatName then "" else text) = (t', fault)) :
    (fault = some (.path .nullCharacter) →
      exportTo t document output formatName = (t', some (.unreported .nullCharacter))) ∧
    (fault = some .isDirectory →
      exportTo t document output formatName = (t', some (.emit (.file output .isDirectory)))) ∧
    (fault = none → exportTo t document output formatName =
      (t', if lacksBytes document formatName then some (.unreported .surrogate) else none)) := by
  have hfree : ∀ k ∈ t.wayTo output.parent, ¬ t.HoldsFile k := fun k hk hfile => hopen ⟨k, hk, hfile⟩
  have hmade := makeDirectories_of_open hnull (Nat.le_refl output.parent.parts.length) hfree
  unfold exportTo
  rw [htext]
  dsimp only
  rw [hmade]
  dsimp only
  rw [hwritten]
  refine ⟨?_, ?_, ?_⟩
  all_goals
    rintro rfl
    rfl

/-- A null character in the name of a file keeps it from being written. -/
theorem writeText_of_null (t : FileTree) (text : String) (h : output.hasNull = true) :
    writeText t output text = (t, some (.path .nullCharacter)) := by
  unfold writeText
  rw [locate_of_null h]

/-- On an open way any text is written, unless the output is a directory. -/
theorem writeText_of_open (hnull : output.hasNull = false) (hopen : ¬ IsBlocked t output)
    (text : String) :
    (IsOccupied t output → writeText (t.openWay (t.wayTo output.parent)) output text =
      (t.openWay (t.wayTo output.parent), some .isDirectory)) ∧
    (¬ IsOccupied t output → writeText (t.openWay (t.wayTo output.parent)) output text =
      ((t.openWay (t.wayTo output.parent)).put (t.target output) (.file text.toUTF8.toList), none)) := by
  have hfree : ∀ k ∈ t.wayTo output.parent, ¬ t.HoldsFile k := fun k hk hfile => hopen ⟨k, hk, hfile⟩
  unfold writeText
  rw [locate_openWay hnull hfree, ← at?_target_openWay_iff hopen]
  dsimp only
  constructor
  · intro hoccupied
    rw [hoccupied]
  · intro hfreeTarget
    match hat : (t.openWay (t.wayTo output.parent)).at? (t.target output) with
    | none => rfl
    | some .directory => exact absurd hat hfreeTarget
    | some (.file bytes) => rfl

/-- A null character in a name above the output stops an export before anything is made. -/
theorem exportTo_of_null_above (htext : dump document formatName = .ok text)
    (hnull : output.parent.hasNull = true) : exportTo t document output formatName =
      (t, some (.unreported (.directory .nullCharacter))) := by
  unfold exportTo
  rw [htext]
  dsimp only
  rw [makeDirectories_of_null _ hnull]

/-- The first file in the way stops an export. -/
theorem exportTo_of_blocked (htext : dump document formatName = .ok text)
    (hnull : output.parent.hasNull = false) (hblocked : IsBlocked t output) :
    ∃ t' fault, exportTo t document output formatName =
        (t', some (.unreported (.directory fault))) ∧
      fault.IsOfFile ∧ OpensWay t t' output := by
  obtain ⟨before, k, after, hway, hk, hbefore⟩ := exists_first hblocked
  obtain ⟨fault, hof, hfault⟩ :=
    makeDirectories_of_blocked hnull (Nat.le_refl output.parent.parts.length) hway hbefore hk
  refine ⟨t.openWay before, fault, ?_, hof, ?_⟩
  · unfold exportTo
    rw [htext]
    dsimp only
    rw [hfault]
  · exact opensWay_openWay fun j hj => hway ▸ List.mem_append_left _ hj

/-- A document without a text is not exported. -/
theorem exportTo_of_error {e : EmitError} (h : dump document formatName = .error e) :
    exportTo t document output formatName = (t, some (.emit e)) := by
  unfold exportTo
  rw [h]

/-- No document has a text in a format of another name. -/
theorem dump_of_unknown (hjson : formatName ≠ "json") (hyaml : formatName ≠ "yaml") :
    dump document formatName = .error (.unknownFormat formatName) := by
  unfold dump Format.ofName?
  rw [if_neg hjson, if_neg hyaml]

/-- Where nothing is in the way and nothing stands in its place but a file, the file holds the text
afterwards, or nothing if the text has no bytes. -/
theorem exportTo_writes (htext : dump document formatName = .ok text) (hnull : output.hasNull = false)
    (hopen : ¬ IsBlocked t output) (hfree : ¬ IsOccupied t output) :
    (lacksBytes document formatName = true → ∃ t', exportTo t document output formatName =
      (t', some (.unreported .surrogate)) ∧ WritesOutput t t' output "") ∧
    (lacksBytes document formatName = false → ∃ t', exportTo t document output formatName =
      (t', none) ∧ WritesOutput t t' output text) := by
  have hparent := hasNull_parent hnull
  have hwritten (written : String) := (writeText_of_open hnull hopen written).2 hfree
  have hwrites (written : String) : WritesOutput t
      ((t.openWay (t.wayTo output.parent)).put (t.target output) (.file written.toUTF8.toList))
      output written := by
    refine ⟨holds_of_writeText (hwritten written), fun k hk => ?_⟩
    rw [at?_put_of_ne _ _ hk]
    exact opensWay_openWay (fun _ => id) k
  constructor
  · intro hlacking
    have hrun := (exportTo_of_open htext hparent hopen (hwritten _)).2.2 rfl
    rw [hlacking, if_pos rfl, if_pos rfl] at hrun
    exact ⟨_, hrun, hwrites ""⟩
  · intro hbytes
    have hrun := (exportTo_of_open htext hparent hopen (hwritten _)).2.2 rfl
    rw [hbytes, if_neg Bool.false_ne_true, if_neg Bool.false_ne_true] at hrun
    exact ⟨_, hrun, hwrites text⟩

/-- What an export does. A document without a text, and so any in an unknown format, leaves the tree as it
was. Of a document with a text the export breaks off without a report where a null character stands in the
path or a file above the output; otherwise it is reported that the output is a directory, or the output is
written, and nothing else is changed but that directories above it are made. A text with surrogates breaks
the writing off and leaves the output empty. -/
theorem exportTo_outcome (t : FileTree) (document : Value) (output : Path) (formatName : String) :
    (∀ e, dump document formatName = .error e →
      exportTo t document output formatName = (t, some (.emit e))) ∧
    (formatName ≠ "json" → formatName ≠ "yaml" →
      exportTo t document output formatName = (t, some (.emit (.unknownFormat formatName)))) ∧
    ∀ text, dump document formatName = .ok text →
      (output.parent.hasNull = true → exportTo t document output formatName =
        (t, some (.unreported (.directory .nullCharacter)))) ∧
      (output.parent.hasNull = false → IsBlocked t output →
        ∃ t' fault, exportTo t document output formatName =
            (t', some (.unreported (.directory fault))) ∧
          fault.IsOfFile ∧ OpensWay t t' output) ∧
      (output.parent.hasNull = false → output.hasNull = true → ¬ IsBlocked t output →
        ∃ t', exportTo t document output formatName = (t', some (.unreported .nullCharacter)) ∧
          OpensWay t t' output) ∧
      (output.hasNull = false → ¬ IsBlocked t output → IsOccupied t output →
        ∃ t', exportTo t document output formatName =
          (t', some (.emit (.file output .isDirectory))) ∧ OpensWay t t' output) ∧
      (output.hasNull = false → ¬ IsBlocked t output → ¬ IsOccupied t output →
        (lacksBytes document formatName = true → ∃ t', exportTo t document output formatName =
          (t', some (.unreported .surrogate)) ∧ WritesOutput t t' output "") ∧
        (lacksBytes document formatName = false → ∃ t', exportTo t document output formatName =
          (t', none) ∧ WritesOutput t t' output text)) := by
  refine ⟨fun e => exportTo_of_error, fun hjson hyaml => ?_, fun text htext => ⟨?_, ?_, ?_, ?_, ?_⟩⟩
  · exact exportTo_of_error (dump_of_unknown hjson hyaml)
  · exact exportTo_of_null_above htext
  · exact exportTo_of_blocked htext
  · intro hparent hnull hopen
    have hrun := exportTo_of_open htext hparent hopen (writeText_of_null _ _ hnull)
    exact ⟨_, hrun.1 rfl, opensWay_openWay fun _ => id⟩
  · intro hnull hopen hoccupied
    have hrun := exportTo_of_open htext (hasNull_parent hnull) hopen
      ((writeText_of_open hnull hopen _).1 hoccupied)
    exact ⟨_, hrun.2.1 rfl, opensWay_openWay fun _ => id⟩
  · exact exportTo_writes htext

end Exports

/-- A file where a directory would be needed. -/
def takenTree : FileTree where
  entries := [(["project"], .directory), (["project", "taken"], .file [])]
  cwd := ["project"]

/-- An export does not always write its document or report why not: a file that stands in the way of a
directory breaks it off. -/
theorem not_forall_exportTo_reported :
    ¬ ∀ (t : FileTree) (document : Value) (output : Path) (formatName : String),
      (∃ t' text, exportTo t document output formatName = (t', none) ∧
        dump document formatName = .ok text ∧ Holds t' output text) ∨
      ∃ t' e, exportTo t document output formatName = (t', some (.emit e)) := by
  intro h
  have htext : dump (.map []) "json" = .ok "\x7b\x7d" := by cbv
  have hblocked : IsBlocked takenTree (.ofString "taken/out.json") :=
    ⟨["project", "taken"], by decide +kernel, [], by decide +kernel⟩
  obtain ⟨t', fault, hrun, -⟩ := exportTo_of_blocked htext (by decide +kernel) hblocked
  rcases h takenTree (.map []) (.ofString "taken/out.json") "json" with
    ⟨t'', text, hwritten, -⟩ | ⟨t'', e, hreported⟩
  · cases hrun.symm.trans hwritten
  · cases hrun.symm.trans hreported

end RouteAtlas.Document
