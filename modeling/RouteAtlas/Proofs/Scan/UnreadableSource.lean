import RouteAtlas.Proofs.Scan.ScanRun

/-!
# Sources that cannot be read

The first source that cannot be read decides a scan, whatever the others hold (`FirstUnreadable`). It
empties the scan with one message, unless it is a text with a null character, which breaks the scan off
(`scan_unreadable`).
-/

namespace RouteAtlas.Scan

open RouteAtlas.Project RouteAtlas.Syntax

/-! ## Texts with a null character -/

/-- Unifying line ends changes no other characters. -/
theorem mem_sourceLines_iff {c : Char} (hfeed : c ≠ '\n') (hreturn : c ≠ '\r') (cs : List Char) :
    c ∈ sourceLines cs ↔ c ∈ cs := by
  induction cs using sourceLines.induct with
  | case1 r ih => simp [sourceLines, ih, hfeed, hreturn]
  | case2 r hother ih => simp [sourceLines, ih, hfeed, hreturn]
  | case3 d r hother hother' ih => simp [sourceLines, ih]
  | case4 => simp [sourceLines]

/-- The grammar never complains about null characters. -/
theorem readAll_ne_nullCharacter {α : Type} (p : Reading α) (tokens : List Token) :
    readAll p tokens ≠ .error .nullCharacter := by
  unfold readAll
  split <;> simp

/-- Reading fails for a null character exactly if the text holds one. -/
theorem readSource_eq_nullCharacter_iff {α : Type} (p : Nat → Reading α) (cs : List Char) :
    readSource p cs = .error .nullCharacter ↔ Char.ofNat 0 ∈ cs := by
  unfold readSource
  by_cases hnull : Char.ofNat 0 ∈ cs
  · simp [hnull]
  · have hcontains : cs.contains (Char.ofNat 0) = false := by simpa using hnull
    rw [hcontains, if_neg Bool.false_ne_true]
    refine iff_of_false ?_ hnull
    split
    · simp
    · exact readAll_ne_nullCharacter _ _

/-- A module is refused for a null character exactly if its text holds one. -/
theorem readModule_eq_nullCharacter_iff (text : String) :
    readModule text = .error .nullCharacter ↔ Char.ofNat 0 ∈ text.toList := by
  have hlines := mem_sourceLines_iff (c := Char.ofNat 0) (by decide) (by decide) text.toList
  unfold readModule
  rw [readSource_eq_nullCharacter_iff, ← hlines]
  split
  · rfl
  · simp

/-- The file at a path is a text, and a null character stands in it. -/
def HoldsNull (tree : FileTree) (path : Path) : Prop :=
  ∃ text, tree.readText path = .ok text ∧ Char.ofNat 0 ∈ text.toList

instance (tree : FileTree) (path : Path) : Decidable (HoldsNull tree path) :=
  decidable_of_iff ((tree.readText path).toOption.any (·.toList.contains (Char.ofNat 0)) = true) <| by
    unfold HoldsNull
    cases tree.readText path <;> simp [Except.toOption]

/-- A source file is refused for a null character exactly if it is a text that holds one. -/
theorem readSourceFile_eq_nullCharacter_iff (tree : FileTree) (path : Path) :
    readSourceFile tree path = .error (.malformed .nullCharacter) ↔ HoldsNull tree path := by
  unfold readSourceFile HoldsNull
  cases htext : tree.readText path with
  | error fault => simp
  | ok text =>
    have hnull := readModule_eq_nullCharacter_iff text
    have hholds : (∃ text', Except.ok text = (.ok text' : Except ReadFault String) ∧
        Char.ofNat 0 ∈ text'.toList) ↔ Char.ofNat 0 ∈ text.toList := by simp
    rw [hholds, ← hnull]
    dsimp only
    cases readModule text with
    | error fault => simp
    | ok m => simp

/-! ## The first source that cannot be read -/

/-- The path is the first of these that leads to no source file, for this reason. -/
structure FirstUnreadable (tree : FileTree) (paths : List Path) (path : Path) (fault : SourceFault) :
    Prop where
  first : ∃ before after, paths = before ++ path :: after ∧
    ∀ p ∈ before, ∃ file, readSourceFile tree p = .ok file
  unreadable : readSourceFile tree path = .error fault

section First

variable {tree : FileTree} {paths : List Path} {head path : Path} {fault : SourceFault}

/-- A first source that cannot be read is the first of all that cannot. -/
theorem firstUnreadable_here (h : readSourceFile tree head = .error fault) :
    FirstUnreadable tree (head :: paths) head fault :=
  ⟨⟨[], paths, rfl, fun _ hp => absurd hp List.not_mem_nil⟩, h⟩

/-- A source that can be read before them changes nothing. -/
theorem FirstUnreadable.later {file : SourceFile} (hhead : readSourceFile tree head = .ok file)
    (h : FirstUnreadable tree paths path fault) : FirstUnreadable tree (head :: paths) path fault := by
  obtain ⟨before, after, rfl, hbefore⟩ := h.first
  refine ⟨⟨head :: before, after, rfl, fun p hp => ?_⟩, h.unreadable⟩
  rcases List.mem_cons.1 hp with rfl | hp
  · exact ⟨file, hhead⟩
  · exact hbefore p hp

/-- Reading sources fails with the first that cannot be read. -/
theorem firstUnreadable_of_readSourceFiles (h : readSourceFiles tree paths = .error (path, fault)) :
    FirstUnreadable tree paths path fault := by
  induction paths with
  | nil => cases h
  | cons head rest ih =>
    unfold readSourceFiles at h
    cases hhead : readSourceFile tree head with
    | error fault' =>
      rw [hhead] at h
      obtain ⟨rfl, rfl⟩ := Prod.mk.inj (Except.error.inj h)
      exact firstUnreadable_here hhead
    | ok file =>
      rw [hhead] at h
      cases hrest : readSourceFiles tree rest with
      | ok files =>
        rw [hrest] at h
        cases h
      | error found =>
        rw [hrest] at h
        obtain rfl := Except.error.inj h
        exact (ih hrest).later hhead

/-- The sources before the first that cannot be read change nothing, and those after it are not read. -/
theorem readSourceFiles_of_firstUnreadable (h : FirstUnreadable tree paths path fault) :
    readSourceFiles tree paths = .error (path, fault) := by
  obtain ⟨⟨before, after, rfl, hbefore⟩, hfault⟩ := h
  induction before with
  | nil =>
    rw [List.nil_append, readSourceFiles, hfault]
  | cons head before ih =>
    obtain ⟨file, hhead⟩ := hbefore head List.mem_cons_self
    have hrest := ih fun p hp => hbefore p (List.mem_cons_of_mem head hp)
    rw [List.cons_append, readSourceFiles, hhead]
    dsimp only
    rw [hrest]
    rfl

/-- Sources that were read can each be read. -/
theorem exists_file_of_readSourceFiles {files : List SourceFile}
    (h : readSourceFiles tree paths = .ok files) {p : Path} (hp : p ∈ paths) :
    ∃ file, readSourceFile tree p = .ok file := by
  obtain ⟨file, _, hfile⟩ := exists_of_mem_right (forall₂_of_readSourceFiles h).flip hp
  exact ⟨file, hfile⟩

/-- Where some source cannot be read there is a first one. -/
theorem exists_firstUnreadable
    (h : ∃ p ∈ paths, ∃ fault, readSourceFile tree p = .error fault) :
    ∃ path fault, FirstUnreadable tree paths path fault := by
  obtain ⟨p, hp, fault, hfault⟩ := h
  cases hread : readSourceFiles tree paths with
  | error found => exact ⟨found.1, found.2, firstUnreadable_of_readSourceFiles hread⟩
  | ok files =>
    obtain ⟨file, hfile⟩ := exists_file_of_readSourceFiles hread hp
    rw [hfault] at hfile
    cases hfile

end First

/-! ## Scans -/

/-- The message with which every scan begins. -/
def startMessage (tree : FileTree) (root : Path) : LogEntry :=
  ⟨.info, .scan, s!"Scanning directory: {tree.resolve root}"⟩

/-- The message of a scan that a source empties. -/
def abortMessage (path : Path) (fault : SourceFault) : LogEntry :=
  ⟨.error, .scan, s!"Scan aborted, {path}: {fault.message path}"⟩

section Scan

variable {tree : FileTree} {root path : Path} {fault : SourceFault}

/-- Sources of which one cannot be read are not loaded. -/
theorem runFrom_loadSources_of_firstUnreadable
    (h : FirstUnreadable tree (sourcePaths tree root skippedDirectories) path fault) (log : Log) :
    (loadSources tree root).runFrom log =
      if fault = .malformed .nullCharacter then (.error (.nullCharacter path), log)
      else (.ok none, log ++ [abortMessage path fault]) := by
  unfold loadSources
  rw [readSourceFiles_of_firstUnreadable h]
  match fault with
  | .malformed .nullCharacter => rfl
  | .malformed .malformed | .read reason => rfl

/-- A scan ends with the first source that cannot be read: without a result if that holds a null
character, and else with no controllers and a message. -/
theorem runFrom_scan_of_firstUnreadable (hdirectory : tree.isDirectory root = true)
    (h : FirstUnreadable tree (sourcePaths tree root skippedDirectories) path fault) (log : Log) :
    (scan tree root).runFrom log =
      if fault = .malformed .nullCharacter then
        (.error (.nullCharacter path), log ++ [startMessage tree root])
      else (.ok [], log ++ [startMessage tree root, abortMessage path fault]) := by
  have hload := runFrom_loadSources_of_firstUnreadable h (log ++ [startMessage tree root])
  have hnote : (note .info s!"Scanning directory: {tree.resolve root}").runFrom log =
      (.ok (), log ++ [startMessage tree root]) := rfl
  unfold scan
  rw [announce_of_isDirectory hdirectory, Logged.runFrom_bind, hnote, hdirectory]
  dsimp only
  rw [if_neg (show ¬ (!true) = true by decide), Logged.runFrom_bind, hload]
  by_cases hnull : fault = .malformed .nullCharacter
  · rw [if_pos hnull, if_pos hnull]
  · rw [if_neg hnull, if_neg hnull, List.append_cons log _ [abortMessage path fault]]
    rfl

/-- In a directory with a source that cannot be read the first such source decides: a text with a null
character breaks the scan off, and any other empties it. -/
theorem scan_unreadable (hdirectory : tree.isDirectory root = true)
    (hunreadable : ∃ p ∈ sourcePaths tree root skippedDirectories, ∃ reason,
      readSourceFile tree p = .error reason) (log : Log) :
    ∃ path fault, FirstUnreadable tree (sourcePaths tree root skippedDirectories) path fault ∧
      (HoldsNull tree path → (scan tree root).runFrom log =
        (.error (.nullCharacter path), log ++ [startMessage tree root])) ∧
      (¬ HoldsNull tree path → (scan tree root).runFrom log =
        (.ok [], log ++ [startMessage tree root, abortMessage path fault])) := by
  obtain ⟨path, fault, hfirst⟩ := exists_firstUnreadable hunreadable
  have hrun := runFrom_scan_of_firstUnreadable hdirectory hfirst log
  have hnull : fault = .malformed .nullCharacter ↔ HoldsNull tree path := by
    rw [← readSourceFile_eq_nullCharacter_iff, hfirst.unreadable, Except.error.injEq]
  refine ⟨path, fault, hfirst, fun hholds => ?_, fun hholds => ?_⟩
  · rw [hrun, if_pos (hnull.2 hholds)]
  · rw [hrun, if_neg fun hfault => hholds (hnull.1 hfault)]

end Scan

/-- A directory with a good source, one that is no text, and one that is no program. -/
def brokenProject : FileTree where
  entries := [(["project"], .directory),
    (["project", "a.py"], .file "r=APIRouter()\n@r.get(\"/a\")\ndef f():...\n".toUTF8.toList),
    (["project", "b.py"], .file [0xff]),
    (["project", "c.py"], .file "def broken(:\n".toUTF8.toList)]
  cwd := ["project"]

/-- The sources of that directory, in the order of reading. -/
theorem sourcePaths_brokenProject :
    sourcePaths brokenProject (.ofString ".") skippedDirectories =
      [⟨"", ["a.py"]⟩, ⟨"", ["b.py"]⟩, ⟨"", ["c.py"]⟩] := by
  have hlocation : brokenProject.locate (.ofString ".") = .ok ["project"] := by decide +kernel
  unfold sourcePaths FileTree.withExtension
  rw [hlocation]
  dsimp only
  rw [List.mergeSort_of_pairwise (by decide +kernel)]
  decide +kernel

/-- The scan of that directory finds nothing, not even the route of its good source. -/
theorem scan_unreadable_of_brokenProject :
    ∃ log, (scan brokenProject (.ofString ".")).runFrom [] = (.ok [], log) ∧
      log.map (·.level) = [.info, .error] := by
  have hpaths := sourcePaths_brokenProject
  have hfails : (readSourceFile brokenProject ⟨"", ["b.py"]⟩).isOk = false := by decide +kernel
  have hbad : ∃ p ∈ sourcePaths brokenProject (.ofString ".") skippedDirectories, ∃ reason,
      readSourceFile brokenProject p = .error reason := by
    refine ⟨⟨"", ["b.py"]⟩, by simp [hpaths], ?_⟩
    cases hread : readSourceFile brokenProject ⟨"", ["b.py"]⟩ with
    | error reason => exact ⟨reason, rfl⟩
    | ok file =>
      rw [hread] at hfails
      cases hfails
  obtain ⟨path, fault, hfirst, _, hempty⟩ := scan_unreadable (by decide +kernel) hbad []
  have hmem : path ∈ [(⟨"", ["a.py"]⟩ : Path), ⟨"", ["b.py"]⟩, ⟨"", ["c.py"]⟩] := by
    obtain ⟨before, after, hsplit, _⟩ := hfirst.first
    rw [← hpaths, hsplit]
    simp
  have hfree : ∀ p ∈ [(⟨"", ["a.py"]⟩ : Path), ⟨"", ["b.py"]⟩, ⟨"", ["c.py"]⟩],
      ¬ HoldsNull brokenProject p := by decide +kernel
  exact ⟨_, hempty (hfree path hmem), rfl⟩

/-- A directory with one source, which holds a null character. -/
def nullProject : FileTree where
  entries := [(["project"], .directory), (["project", "a.py"], .file "x = '\x00'\n".toUTF8.toList)]
  cwd := ["project"]

/-- A source that cannot be read does not always empty the scan: one with a null character leaves it
without a result. -/
theorem not_forall_scan_unreadable :
    ¬ ∀ (tree : FileTree) (root : Path) (log : Log), tree.isDirectory root = true →
      (∃ p ∈ sourcePaths tree root skippedDirectories, ∃ reason,
        readSourceFile tree p = .error reason) →
      ∃ log', (scan tree root).runFrom log = (.ok [], log') := by
  intro h
  have hread : readSourceFile nullProject ⟨"", ["a.py"]⟩ = .error (.malformed .nullCharacter) := by
    rw [readSourceFile_eq_nullCharacter_iff]
    decide +kernel
  obtain ⟨log, hrun⟩ := h nullProject (.ofString ".") [] (by decide +kernel)
    ⟨⟨"", ["a.py"]⟩, by decide +kernel, _, hread⟩
  have hfails : ((scan nullProject (.ofString ".")).runFrom []).1.isOk = false := by decide +kernel
  rw [hrun] at hfails
  cases hfails

end RouteAtlas.Scan
