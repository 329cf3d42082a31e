import Mathlib.Data.List.Basic
import RouteAtlas.Proofs.Document.Writing

/-!
# The way to a path

The locations that a path leads through follow from its names alone, whatever stands there. A path can be
followed exactly if directories stand on its way (`follow_of_directories`, `follow_of_obstacle`) and no
null character stands in it; opening a way puts directories where nothing stands and leaves everything
else alone.
-/

namespace RouteAtlas.Project.FileTree

/-- The location a name leads to. -/
def step (l : Location) (n : String) : Location := if n = ".." then l.dropLast else l ++ [n]

/-- The locations that names lead through, from the first one on. -/
def way (l : Location) : List String → List Location
  | [] => [l]
  | n :: names => l :: way (step l n) names

/-- The location that a path starts from. -/
def start (t : FileTree) (p : Path) : Location := if p.isAbsolute then [] else t.cwd

/-- The locations that a path leads through. -/
def wayTo (t : FileTree) (p : Path) : List Location := way (t.start p) p.parts

/-- The location that a path leads to. -/
def target (t : FileTree) (p : Path) : Location := p.parts.foldl step (t.start p)

/-- A file stands at the location. -/
def HoldsFile (t : FileTree) (l : Location) : Prop := ∃ bytes, t.at? l = some (.file bytes)

/-- A directory stands at the location, put there if nothing was. -/
def openDirectory (t : FileTree) (l : Location) : FileTree :=
  if (t.at? l).isSome then t else t.put l .directory

/-- Directories stand at the locations where nothing was. -/
def openWay (t : FileTree) (ls : List Location) : FileTree := ls.foldl openDirectory t

section Way

variable {l k : Location} {names : List String} {n : String}

/-- One name more leads through one location more. -/
theorem way_concat (l : Location) (names : List String) (n : String) :
    way l (names ++ [n]) = way l names ++ [step (names.foldl step l) n] := by
  induction names generalizing l with
  | nil => rfl
  | cons m names ih =>
    rw [List.cons_append, way, way, ih, List.cons_append, List.foldl_cons]

/-- A way ends where its names lead. -/
theorem foldl_step_mem_way (l : Location) (names : List String) : names.foldl step l ∈ way l names := by
  induction names generalizing l with
  | nil => exact List.mem_singleton_self l
  | cons n names ih => exact List.mem_cons_of_mem l (ih (step l n))

variable {t : FileTree}

/-- Names lead on from directories. -/
theorem follow_of_directories (h : ∀ k ∈ way l names, t.at? k = some .directory) :
    t.follow l (names ++ [n]) = .ok (step (names.foldl step l) n) := by
  induction names generalizing l with
  | nil =>
    have hl := h l List.mem_cons_self
    simp only [List.nil_append, follow, hl]
    rfl
  | cons m names ih =>
    have hl := h l List.mem_cons_self
    rw [List.cons_append, follow, hl]
    exact ih fun k hk => h k (List.mem_cons_of_mem l hk)

/-- Names lead nowhere from the first location without a directory on. -/
theorem follow_of_obstacle {before after : List Location} (hway : way l names = before ++ k :: after)
    (hbefore : ∀ j ∈ before, t.at? j = some .directory) :
    (t.at? k = none → t.follow l (names ++ [n]) = .error .missing) ∧
      (t.HoldsFile k → t.follow l (names ++ [n]) = .error .notDirectory) := by
  induction names generalizing l before with
  | nil =>
    cases before with
    | nil =>
      obtain ⟨rfl, -⟩ := List.cons.inj hway
      rw [List.nil_append, follow]
      exact ⟨fun hk => by rw [hk], fun ⟨bytes, hk⟩ => by rw [hk]⟩
    | cons j before =>
      have htail := (List.cons.inj hway).2
      exact absurd htail.symm (List.append_ne_nil_of_right_ne_nil before (List.cons_ne_nil k after))
  | cons m names ih =>
    rw [List.cons_append, follow]
    cases before with
    | nil =>
      obtain ⟨rfl, -⟩ := List.cons.inj hway
      exact ⟨fun hk => by rw [hk], fun ⟨bytes, hk⟩ => by rw [hk]⟩
    | cons j before =>
      obtain ⟨rfl, htail⟩ := List.cons.inj hway
      rw [hbefore l List.mem_cons_self]
      exact ih htail fun i hi => hbefore i (List.mem_cons_of_mem l hi)

end Way

section Paths

variable {t : FileTree} {p : Path}

/-- A path and its parent start alike. -/
theorem start_parent (t : FileTree) (p : Path) : t.start p.parent = t.start p := rfl

/-- A way to a path is the way to its parent and one location more. -/
theorem wayTo_eq (h : p.parts ≠ []) : t.wayTo p = t.wayTo p.parent ++ [t.target p] := by
  obtain ⟨names, n, hparts⟩ := p.parts.eq_nil_or_concat.resolve_left h
  rw [List.concat_eq_append] at hparts
  unfold wayTo target
  rw [start_parent, Path.parent, hparts, List.dropLast_concat, way_concat, List.foldl_append]
  rfl

/-- A path without names leads through its start alone. -/
theorem wayTo_of_nil (h : p.parts = []) : t.wayTo p = [t.target p] := by
  unfold wayTo target
  rw [h]
  rfl

/-- A path leads through its target. -/
theorem target_mem_wayTo (t : FileTree) (p : Path) : t.target p ∈ t.wayTo p :=
  foldl_step_mem_way _ _

/-- The names above a path are names of the path. -/
theorem hasNull_parent (h : p.hasNull = false) : p.parent.hasNull = false := by
  unfold Path.hasNull at h ⊢
  rw [List.any_eq_false] at h ⊢
  exact fun n hn => h n ((List.dropLast_subset p.parts) hn)

/-- A path without names leads to its start, whatever stands there. -/
theorem locate_of_nil (h : p.parts = []) : t.locate p = .ok (t.target p) := by
  have hnull : p.hasNull = false := by
    unfold Path.hasNull
    rw [h, List.any_nil]
  rw [locate_eq_follow hnull]
  unfold target start
  rw [h]
  rfl

/-- A path whose way is open leads to its target. -/
theorem locate_of_directories (hnull : p.hasNull = false)
    (h : ∀ k ∈ t.wayTo p.parent, t.at? k = some .directory) : t.locate p = .ok (t.target p) := by
  unfold wayTo at h
  rw [start_parent] at h
  rw [locate_eq_follow hnull]
  unfold target start at *
  cases p.parts.eq_nil_or_concat with
  | inl hnil =>
    rw [hnil]
    rfl
  | inr hconcat =>
    obtain ⟨names, n, hparts⟩ := hconcat
    rw [List.concat_eq_append] at hparts
    rw [Path.parent, hparts, List.dropLast_concat] at h
    rw [hparts, follow_of_directories h, List.foldl_append]
    rfl

/-- A path leads nowhere from the first location without a directory on. -/
theorem locate_of_obstacle {before after : List Location} {k : Location}
    (hnull : p.hasNull = false) (hparts : p.parts ≠ []) (hway : t.wayTo p.parent = before ++ k :: after)
    (hbefore : ∀ j ∈ before, t.at? j = some .directory) :
    (t.at? k = none → t.locate p = .error .missing) ∧
      (t.HoldsFile k → t.locate p = .error .notDirectory) := by
  obtain ⟨names, n, hparts⟩ := p.parts.eq_nil_or_concat.resolve_left hparts
  rw [List.concat_eq_append] at hparts
  unfold wayTo at hway
  rw [start_parent, Path.parent, hparts, List.dropLast_concat] at hway
  rw [locate_eq_follow hnull, hparts]
  exact follow_of_obstacle hway hbefore

end Paths

section Opening

variable {t : FileTree} {l k : Location} {ls : List Location}

/-- Opening a location puts a directory there if nothing was, and nothing else. -/
theorem at?_openDirectory (t : FileTree) (l k : Location) : (t.openDirectory l).at? k =
    if t.at? k = none ∧ k = l then some .directory else t.at? k := by
  unfold openDirectory
  cases hl : t.at? l with
  | some e =>
    have hnot : ¬ (t.at? k = none ∧ k = l) := by
      rintro ⟨hk, rfl⟩
      cases hk.symm.trans hl
    rw [Option.isSome_some, if_pos rfl, if_neg hnot]
  | none =>
    have hne : l ≠ [] := by
      rintro rfl
      cases hl
    rw [Option.isSome_none, if_neg Bool.false_ne_true]
    by_cases hk : k = l
    · rw [hk, at?_put_self t _ hne, if_pos ⟨hl, rfl⟩]
    · rw [at?_put_of_ne t _ hk, if_neg fun h => hk h.2]

/-- Opening a way puts directories where nothing was, and nothing else. -/
theorem at?_openWay (t : FileTree) (ls : List Location) (k : Location) : (t.openWay ls).at? k =
    if t.at? k = none ∧ k ∈ ls then some .directory else t.at? k := by
  induction ls generalizing t with
  | nil => rw [if_neg fun h => absurd h.2 List.not_mem_nil]; rfl
  | cons l ls ih =>
    rw [openWay, List.foldl_cons, ← openWay, ih, at?_openDirectory]
    by_cases hk : t.at? k = none
    · by_cases hl : k = l
      · subst hl
        simp [hk]
      · simp [hk, hl]
    · simp [hk]

/-- A way can be opened in two parts. -/
theorem openWay_append (t : FileTree) (ls ls' : List Location) :
    t.openWay (ls ++ ls') = (t.openWay ls).openWay ls' := List.foldl_append

/-- An open location needs no opening. -/
theorem openDirectory_of_directory (h : t.at? l = some .directory) : t.openDirectory l = t := by
  unfold openDirectory
  rw [h, Option.isSome_some, if_pos rfl]

/-- An open way needs no opening. -/
theorem openWay_of_directories (h : ∀ k ∈ ls, t.at? k = some .directory) : t.openWay ls = t := by
  induction ls with
  | nil => rfl
  | cons l ls ih =>
    obtain ⟨hl, hls⟩ := List.forall_mem_cons.1 h
    rw [openWay, List.foldl_cons, openDirectory_of_directory hl]
    exact ih hls

/-- Directories stand on a way that was opened, where no files did. -/
theorem directories_openWay (h : ∀ k ∈ ls, ¬ t.HoldsFile k) (hk : k ∈ ls) :
    (t.openWay ls).at? k = some .directory := by
  rw [at?_openWay]
  match hat : t.at? k with
  | none => rw [if_pos ⟨rfl, hk⟩]
  | some .directory => rw [if_neg fun hnone => nomatch hnone.1]
  | some (.file bytes) => exact absurd ⟨bytes, hat⟩ (h k hk)

/-- Files stay where they are. -/
theorem holdsFile_openWay_iff : (t.openWay ls).HoldsFile k ↔ t.HoldsFile k := by
  unfold HoldsFile
  rw [at?_openWay]
  split
  · next h => simp [h.1]
  · rfl

/-- Opening a way changes no start. -/
theorem start_openWay (t : FileTree) (ls : List Location) (p : Path) :
    (t.openWay ls).start p = t.start p := by
  have hcwd : (t.openWay ls).cwd = t.cwd := by
    induction ls generalizing t with
    | nil => rfl
    | cons l ls ih =>
      rw [openWay, List.foldl_cons, ← openWay, ih]
      unfold openDirectory
      split <;> rfl
  unfold start
  rw [hcwd]

/-- Opening a way changes no other way. -/
theorem wayTo_openWay (t : FileTree) (ls : List Location) (p : Path) :
    (t.openWay ls).wayTo p = t.wayTo p := by
  unfold wayTo
  rw [start_openWay]

/-- Opening a way changes no target. -/
theorem target_openWay (t : FileTree) (ls : List Location) (p : Path) :
    (t.openWay ls).target p = t.target p := by
  unfold target
  rw [start_openWay]

/-- Where no file is in the way, a path can be followed after its way was opened. -/
theorem locate_openWay {p : Path} (hnull : p.hasNull = false)
    (h : ∀ k ∈ t.wayTo p.parent, ¬ t.HoldsFile k) :
    (t.openWay (t.wayTo p.parent)).locate p = .ok (t.target p) := by
  rw [← target_openWay t (t.wayTo p.parent) p]
  refine locate_of_directories hnull fun k hk => ?_
  rw [wayTo_openWay] at hk
  exact directories_openWay h hk

end Opening

end RouteAtlas.Project.FileTree
