import Mathlib.Data.List.Basic
import RouteAtlas.Project.Layout
import RouteAtlas.Proofs.Fallible

/-!
# The choice of a source directory

Detection goes by names: it takes the first customary directory below which anything is called like a
source, even a directory, and even where no scan looks. `detectSource_eq_iff` compares it with the first
customary directory that holds a source which a scan reads: detection finds that one exactly if none of
those before it shows such a name.
-/

namespace RouteAtlas.Project

open RouteAtlas.Scan RouteAtlas.Text

/-! ## Sources below a directory -/

/-- The entry stands below the directory at a path, at the end of these names. -/
def StandsBelow (tree : FileTree) (p : Path) (names : List String) (e : Entry) : Prop :=
  ∃ l, tree.locate p = .ok l ∧ names ≠ [] ∧ (l ++ names, e) ∈ tree.entries

/-- The last of the names has the extension of sources. -/
def IsSourceName (names : List String) : Prop :=
  ∃ n stem, names.getLast? = some n ∧ n.toList = stem ++ sourceExtension.toList

/-- Something below the directory is called like a source. -/
structure ShowsSource (tree : FileTree) (p : Path) : Prop where
  directory : tree.isDirectory p = true
  shown : ∃ names e, StandsBelow tree p names e ∧ IsSourceName names

/-- A file below the directory is called like a source and stands where a scan looks. -/
structure HoldsSource (tree : FileTree) (p : Path) : Prop where
  directory : tree.isDirectory p = true
  held : ∃ names bytes, StandsBelow tree p names (.file bytes) ∧ IsSourceName names ∧
    ∀ n ∈ names, n ∉ skippedDirectories

/-- A directory that holds a source shows one. -/
theorem HoldsSource.showsSource {tree : FileTree} {p : Path} (h : HoldsSource tree p) :
    ShowsSource tree p := by
  obtain ⟨names, bytes, hbelow, hname, _⟩ := h.held
  exact ⟨h.directory, names, .file bytes, hbelow, hname⟩

section Listing

variable {tree : FileTree} {p : Path} {l : Location} {names : List String} {e : Entry}

/-- What stands below a place is what the tree has under longer names. -/
theorem mem_below_iff : (names, e) ∈ tree.below l ↔ names ≠ [] ∧ (l ++ names, e) ∈ tree.entries := by
  unfold FileTree.below
  rw [List.mem_filterMap]
  constructor
  · rintro ⟨⟨place, entry⟩, hmem, hsome⟩
    dsimp only at hsome
    split_ifs at hsome with hbelow
    obtain ⟨rfl, rfl⟩ := Prod.mk.inj (Option.some.inj hsome)
    obtain ⟨hpre, hlength⟩ := Bool.and_eq_true_iff.1 hbelow
    obtain ⟨rest, rfl⟩ := List.isPrefixOf_iff_prefix.1 hpre
    rw [List.drop_left]
    refine ⟨?_, hmem⟩
    rintro rfl
    simp at hlength
  · rintro ⟨hne, hmem⟩
    refine ⟨(l ++ names, e), hmem, ?_⟩
    have hlength : 0 < names.length := List.length_pos_iff.2 hne
    have hpre : l.isPrefixOf (l ++ names) = true :=
      List.isPrefixOf_iff_prefix.2 (List.prefix_append l names)
    dsimp only
    rw [hpre, List.drop_left, Bool.true_and, if_pos (by simpa using hlength)]

/-- A name that ends like a source is the name of one. -/
theorem isSourceName_iff : endsIn (names.getLast?.getD "") sourceExtension = true ↔ IsSourceName names := by
  unfold endsIn IsSourceName
  rw [List.isSuffixOf_iff_suffix]
  cases hlast : names.getLast? with
  | none =>
    refine iff_of_false (fun hsuffix => ?_) fun ⟨n, _, hn, _⟩ => nomatch hn
    exact absurd (hsuffix.length_le) (by decide)
  | some n =>
    constructor
    · rintro ⟨stem, hstem⟩
      exact ⟨n, stem, rfl, hstem.symm⟩
    · rintro ⟨m, stem, hm, hstem⟩
      obtain rfl := Option.some.inj hm
      exact ⟨stem, hstem.symm⟩

/-- The entries with an extension are those below the directory that are called so. -/
theorem mem_withExtension_iff : (names, e) ∈ tree.withExtension p sourceExtension ↔
    StandsBelow tree p names e ∧ IsSourceName names := by
  unfold FileTree.withExtension StandsBelow
  cases hlocate : tree.locate p with
  | error fault => exact iff_of_false List.not_mem_nil fun ⟨⟨l, hl, _⟩, _⟩ => nomatch hl
  | ok l =>
    dsimp only
    rw [List.mem_mergeSort, List.mem_filter, mem_below_iff, isSourceName_iff]
    constructor
    · rintro ⟨⟨hne, hmem⟩, hname⟩
      exact ⟨⟨l, rfl, hne, hmem⟩, hname⟩
    · rintro ⟨⟨m, hm, hne, hmem⟩, hname⟩
      obtain rfl := Except.ok.inj hm
      exact ⟨⟨hne, hmem⟩, hname⟩

/-- A scan reads the entries below its directory that are called like sources, outside those it skips. -/
theorem mem_sourcePaths_iff {skipped : List String} {q : Path} : q ∈ sourcePaths tree p skipped ↔
    ∃ names e, StandsBelow tree p names e ∧ IsSourceName names ∧ (∀ n ∈ names, n ∉ skipped) ∧
      q = p.extend names := by
  unfold sourcePaths
  simp only [List.mem_map, List.mem_filter, Prod.exists, mem_withExtension_iff,
    Bool.not_eq_true', List.any_eq_false, List.contains_iff_mem]
  constructor
  · rintro ⟨names, e, ⟨⟨hbelow, hname⟩, hskipped⟩, rfl⟩
    exact ⟨names, e, hbelow, hname, hskipped, rfl⟩
  · rintro ⟨names, e, hbelow, hname, hskipped, rfl⟩
    exact ⟨names, e, ⟨⟨hbelow, hname⟩, hskipped⟩, rfl⟩

end Listing

/-- Where no source is held, all that a scan comes to are directories. -/
theorem standsBelow_directory_of_not_holdsSource {tree : FileTree} {p q : Path}
    (h : ¬ HoldsSource tree p) (hdirectory : tree.isDirectory p = true)
    (hq : q ∈ sourcePaths tree p skippedDirectories) :
    ∃ names, StandsBelow tree p names .directory ∧ q = p.extend names := by
  obtain ⟨names, e, hbelow, hname, hskipped, rfl⟩ := mem_sourcePaths_iff.1 hq
  cases e with
  | directory => exact ⟨names, hbelow, rfl⟩
  | file bytes => exact absurd ⟨hdirectory, names, bytes, hbelow, hname, hskipped⟩ h

/-! ## Detection -/

section Detection

variable {tree : FileTree} {root : Path}

/-- The test finds exactly the directories that show a source. -/
theorem detects_iff {p : Path} :
    (tree.isDirectory p && !(tree.withExtension p sourceExtension).isEmpty) = true ↔
      ShowsSource tree p := by
  rw [Bool.and_eq_true_iff, Bool.not_eq_true', List.isEmpty_eq_false_iff_exists_mem]
  constructor
  · rintro ⟨hdirectory, ⟨names, e⟩, hmem⟩
    obtain ⟨hbelow, hname⟩ := mem_withExtension_iff.1 hmem
    exact ⟨hdirectory, names, e, hbelow, hname⟩
  · rintro ⟨hdirectory, names, e, hbelow, hname⟩
    exact ⟨hdirectory, (names, e), mem_withExtension_iff.2 ⟨hbelow, hname⟩⟩

/-- Detection gives a customary directory that shows a source before all others that do. -/
theorem detectSource_eq_of_first {earlier later : List String} {c : String}
    (hcandidates : sourceCandidates = earlier ++ c :: later) (hc : ShowsSource tree (root.extend [c]))
    (hfirst : ∀ d ∈ earlier, ¬ ShowsSource tree (root.extend [d])) : detectSource tree root = c := by
  have hnone : earlier.find? (fun name => tree.isDirectory (root.extend [name]) &&
      !(tree.withExtension (root.extend [name]) sourceExtension).isEmpty) = none := by
    rw [List.find?_eq_none]
    exact fun d hd hshows => hfirst d hd (detects_iff.1 hshows)
  unfold detectSource
  dsimp only
  rw [hcandidates, List.find?_append, hnone, Option.none_or, List.find?_cons, detects_iff.2 hc]
  rfl

/-- Detection gives the first customary directory that holds a source exactly if none before it shows
one. Otherwise it gives one of those before it, and a scan of that finds no file. -/
theorem detectSource_eq_iff {earlier later : List String} {c : String}
    (hcandidates : sourceCandidates = earlier ++ c :: later)
    (hc : HoldsSource tree (root.extend [c]))
    (hfirst : ∀ d ∈ earlier, ¬ HoldsSource tree (root.extend [d])) :
    (detectSource tree root = c ↔ ∀ d ∈ earlier, ¬ ShowsSource tree (root.extend [d])) ∧
      (detectSource tree root ≠ c → ∃ d ∈ earlier, detectSource tree root = d ∧
        ∀ q ∈ sourcePaths tree (root.extend [d]) skippedDirectories,
          ∃ names, StandsBelow tree (root.extend [d]) names .directory ∧
            q = (root.extend [d]).extend names) := by
  by_cases hshown : ∃ d ∈ earlier, ShowsSource tree (root.extend [d])
  · obtain ⟨before, n, after, hearlier, hn, hbefore⟩ := exists_first hshown
    obtain ⟨d, hd, hshows⟩ := hshown
    have hmem : n ∈ earlier := hearlier ▸ List.mem_append_right before List.mem_cons_self
    have hsplit : sourceCandidates = before ++ n :: (after ++ c :: later) := by
      rw [hcandidates, hearlier, List.append_assoc, List.cons_append]
    have hdetects := detectSource_eq_of_first hsplit hn hbefore
    have hne : detectSource tree root ≠ c := by
      have hnodup : (earlier ++ c :: later).Nodup := hcandidates ▸ by decide
      rintro heq
      exact (List.nodup_append.1 hnodup).2.2 n hmem c List.mem_cons_self (hdetects.symm.trans heq)
    refine ⟨iff_of_false hne fun hnone => hnone d hd hshows, fun _ => ⟨n, hmem, hdetects, ?_⟩⟩
    exact fun q hq => standsBelow_directory_of_not_holdsSource (hfirst n hmem) hn.directory hq
  · have hnone : ∀ d ∈ earlier, ¬ ShowsSource tree (root.extend [d]) :=
      fun d hd hshows => hshown ⟨d, hd, hshows⟩
    have hdetects := detectSource_eq_of_first hcandidates hc.showsSource hnone
    exact ⟨iff_of_true hdetects hnone, fun hne => absurd hdetects hne⟩

end Detection

/-- A project whose sources stand in `app`, beside a directory without any and one with more. -/
def layeredProject : FileTree where
  entries := [(["shop"], .directory), (["shop", "src"], .directory),
    (["shop", "src", "notes.txt"], .file []), (["shop", "app"], .directory),
    (["shop", "app", "routers"], .directory), (["shop", "app", "routers", "users.py"], .file []),
    (["shop", "lib"], .directory), (["shop", "lib", "tools.py"], .file [])]
  cwd := ["shop"]

/-- Detection finds the sources of that project. -/
theorem detectSource_of_layeredProject : detectSource layeredProject (.ofString ".") = "app" := by
  have hsrc : layeredProject.locate ((Path.ofString ".").extend ["src"]) = .ok ["shop", "src"] := by
    decide +kernel
  have happ : layeredProject.locate ((Path.ofString ".").extend ["app"]) = .ok ["shop", "app"] := by
    decide +kernel
  have hholds : HoldsSource layeredProject ((Path.ofString ".").extend ["app"]) :=
    ⟨by decide +kernel, ["routers", "users.py"], [], ⟨_, happ, by decide, by decide +kernel⟩,
      ⟨"users.py", "users".toList, rfl, by decide +kernel⟩, by decide +kernel⟩
  have hshows : ∀ d ∈ ["src"], ¬ ShowsSource layeredProject ((Path.ofString ".").extend [d]) := by
    rintro d hd ⟨_, names, e, ⟨l, hl, hne, hmem⟩, hname⟩
    obtain rfl := List.mem_singleton.1 hd
    obtain rfl := Except.ok.inj (hsrc.symm.trans hl)
    have hbelow : layeredProject.below ["shop", "src"] = [(["notes.txt"], .file [])] := by
      decide +kernel
    have hnotes := mem_below_iff.2 ⟨hne, hmem⟩
    rw [hbelow, List.mem_singleton] at hnotes
    rw [← isSourceName_iff, (Prod.mk.inj hnotes).1] at hname
    exact absurd hname (by decide +kernel)
  have hfirst : ∀ d ∈ ["src"], ¬ HoldsSource layeredProject ((Path.ofString ".").extend [d]) :=
    fun d hd hholds => hshows d hd hholds.showsSource
  have hcandidates : sourceCandidates = ["src"] ++ "app" :: ["lib", "source"] := rfl
  exact (detectSource_eq_iff hcandidates hholds hfirst).1.2 hshows

/-- A project whose sources stand in `app`, while `src` holds installed packages alone. -/
def shadowedProject : FileTree where
  entries := [(["shop"], .directory), (["shop", "src"], .directory),
    (["shop", "src", "venv"], .directory), (["shop", "src", "venv", "site.py"], .file []),
    (["shop", "app"], .directory), (["shop", "app", "main.py"], .file [])]
  cwd := ["shop"]

/-- Detection does not always find the first customary directory with a source that a scan reads: it
stops at installed packages. -/
theorem not_forall_detectSource_eq :
    ¬ ∀ (tree : FileTree) (root : Path) (earlier later : List String) (c : String),
      sourceCandidates = earlier ++ c :: later → HoldsSource tree (root.extend [c]) →
      (∀ d ∈ earlier, ¬ HoldsSource tree (root.extend [d])) → detectSource tree root = c := by
  intro h
  have hsrc : shadowedProject.locate ((Path.ofString ".").extend ["src"]) = .ok ["shop", "src"] := by
    decide +kernel
  have happ : shadowedProject.locate ((Path.ofString ".").extend ["app"]) = .ok ["shop", "app"] := by
    decide +kernel
  have hholds : HoldsSource shadowedProject ((Path.ofString ".").extend ["app"]) :=
    ⟨by decide +kernel, ["main.py"], [], ⟨_, happ, by decide, by decide +kernel⟩,
      ⟨"main.py", "main".toList, rfl, by decide +kernel⟩, by decide +kernel⟩
  have hshows : ShowsSource shadowedProject ((Path.ofString ".").extend ["src"]) :=
    ⟨by decide +kernel, ["venv", "site.py"], .file [], ⟨_, hsrc, by decide, by decide +kernel⟩,
      "site.py", "site".toList, rfl, by decide +kernel⟩
  have hfirst : ∀ d ∈ ["src"], ¬ HoldsSource shadowedProject ((Path.ofString ".").extend [d]) := by
    rintro d hd ⟨_, names, bytes, ⟨l, hl, hne, hmem⟩, _, hskipped⟩
    obtain rfl := List.mem_singleton.1 hd
    obtain rfl := Except.ok.inj (hsrc.symm.trans hl)
    have hbelow : shadowedProject.below ["shop", "src"] =
        [(["venv"], .directory), (["venv", "site.py"], .file [])] := by decide +kernel
    have hsite := mem_below_iff.2 ⟨hne, hmem⟩
    rw [hbelow, List.mem_pair] at hsite
    obtain hvenv | hsite := hsite
    · cases (Prod.mk.inj hvenv).2
    · rw [(Prod.mk.inj hsite).1] at hskipped
      exact hskipped "venv" List.mem_cons_self (by decide)
  have hfound := h shadowedProject (.ofString ".") ["src"] ["lib", "source"] "app" rfl hholds hfirst
  have hcandidates : sourceCandidates = [] ++ "src" :: ["app", "lib", "source"] := rfl
  have hdetects : detectSource shadowedProject (.ofString ".") = "src" :=
    detectSource_eq_of_first hcandidates hshows fun d hd => absurd hd List.not_mem_nil
  exact absurd (hdetects.symm.trans hfound) (by decide)

end RouteAtlas.Project
