import Mathlib.Data.List.Basic
import RouteAtlas.Document.Export

/-!
# Written files

What is written at a path is read there afterwards, and where writing fails reading fails as well. A
written file takes the place of no directory, so all paths still lead where they led before.
-/

namespace RouteAtlas.Project.FileTree

variable {t : FileTree} {k l m : Location} {e : Entry}

/-- What was put at a location stands there. -/
theorem at?_put_self (t : FileTree) (e : Entry) (h : l ≠ []) : (t.put l e).at? l = some e := by
  have hl : l.isEmpty = false := List.isEmpty_eq_false_iff.2 h
  have hnone : (t.entries.filter (·.1 != l)).find? (·.1 == l) = none := by
    rw [List.find?_eq_none]
    intro entry hentry heq
    exact bne_iff_ne.1 (List.mem_filter.1 hentry).2 (beq_iff_eq.1 heq)
  unfold at? put
  rw [hl, if_neg Bool.false_ne_true, List.find?_append, hnone, Option.none_or,
    List.find?_singleton, if_pos (beq_self_eq_true l)]
  rfl

/-- What was put at a location changes no other. -/
theorem at?_put_of_ne (t : FileTree) (e : Entry) (h : k ≠ l) : (t.put l e).at? k = t.at? k := by
  have hkept : (t.entries.filter (·.1 != l) ++ [(l, e)]).find? (·.1 == k) =
      t.entries.find? (·.1 == k) := by
    have hnew : [(l, e)].find? (·.1 == k) = none := by
      rw [List.find?_singleton, if_neg fun heq => h (beq_iff_eq.1 heq).symm]
    rw [List.find?_append, hnew, Option.or_none, List.find?_filter]
    congr 1
    funext entry
    by_cases hentry : entry.1 = k
    · simp [hentry, h]
    · simp [hentry]
  unfold at? put
  dsimp only
  rw [hkept]

/-- Names lead through directories, so an entry that stands for none of them changes nothing. -/
theorem follow_put {names : List String} (h : t.follow k names = .ok m)
    (hl : t.at? l ≠ some .directory) : (t.put l e).follow k names = .ok m := by
  induction names generalizing k with
  | nil => exact h
  | cons n names ih =>
    unfold follow at h ⊢
    split at h
    · cases h
    · cases h
    · next hdirectory =>
      have hne : k ≠ l := fun heq => hl (heq ▸ hdirectory)
      rw [at?_put_of_ne t e hne, hdirectory]
      exact ih h

variable {p : Path}

/-- A path with a null character leads nowhere. -/
theorem locate_of_null (h : p.hasNull = true) : t.locate p = .error .nullCharacter := by
  unfold locate
  rw [if_pos h]

/-- A path without null characters is followed name by name. -/
theorem locate_eq_follow (h : p.hasNull = false) :
    t.locate p = t.follow (if p.isAbsolute then [] else t.cwd) p.parts := by
  unfold locate
  rw [h, if_neg Bool.false_ne_true]

/-- A path that leads somewhere has no null character. -/
theorem hasNull_of_locate (h : t.locate p = .ok m) : p.hasNull = false := by
  cases hnull : p.hasNull with
  | false => rfl
  | true => cases (locate_of_null hnull).symm.trans h

/-- Paths lead where they led, unless an entry takes the place of a directory. -/
theorem locate_put (h : t.locate p = .ok m) (hl : t.at? l ≠ some .directory) :
    (t.put l e).locate p = .ok m := by
  have hnull := hasNull_of_locate h
  rw [locate_eq_follow hnull] at h ⊢
  exact follow_put h hl

end RouteAtlas.Project.FileTree

namespace RouteAtlas.Document

open RouteAtlas.Project

/-- The file at a path holds a text. -/
def Holds (t : FileTree) (p : Path) (text : String) : Prop :=
  t.readBytes p = .ok text.toUTF8.toList

section Writing

variable {t t' : FileTree} {p : Path} {text : String}

/-- A text that was written is what the file holds. -/
theorem holds_of_writeText (h : writeText t p text = (t', none)) : Holds t' p text := by
  unfold writeText at h
  split at h
  · cases (Prod.mk.inj h).2
  · next l hl =>
    split at h
    · cases (Prod.mk.inj h).2
    · next hdirectory =>
      obtain rfl := (Prod.mk.inj h).1
      have hne : l ≠ [] := by
        rintro rfl
        exact hdirectory rfl
      unfold Holds FileTree.readBytes
      rw [FileTree.locate_put hl hdirectory]
      dsimp only
      rw [FileTree.at?_put_self t _ hne]

/-- Where no text can be written none can be read. -/
theorem readBytes_of_writeText_fault {fault : FileFault} (h : writeText t p text = (t', some fault)) :
    t'.readBytes p = .error fault := by
  unfold writeText at h
  unfold FileTree.readBytes
  split at h
  · next hl =>
    obtain ⟨rfl, hfault⟩ := Prod.mk.inj h
    obtain rfl := Option.some.inj hfault
    rw [hl]
  · next l hl =>
    split at h
    · next hdirectory =>
      obtain ⟨rfl, hfault⟩ := Prod.mk.inj h
      obtain rfl := Option.some.inj hfault
      rw [hl]
      dsimp only
      rw [hdirectory]
    · cases (Prod.mk.inj h).2

variable {document : Value} {formatName : String}

/-- An exported document is what the file holds, as its text, which has bytes. -/
theorem holds_of_exportTo (h : exportTo t document p formatName = (t', none)) :
    ∃ text, dump document formatName = .ok text ∧ lacksBytes document formatName = false ∧
      Holds t' p text := by
  unfold exportTo at h
  split at h
  · cases (Prod.mk.inj h).2
  next text htext =>
  split at h
  · cases (Prod.mk.inj h).2
  dsimp only at h
  split at h
  · cases (Prod.mk.inj h).2
  · cases (Prod.mk.inj h).2
  next hwritten =>
  obtain ⟨rfl, hlacking⟩ := Prod.mk.inj h
  cases hbytes : lacksBytes document formatName with
  | true =>
    rw [hbytes] at hlacking
    cases hlacking
  | false =>
    rw [hbytes, if_neg Bool.false_ne_true] at hwritten
    exact ⟨text, htext, rfl, holds_of_writeText hwritten⟩

/-- If a document that has a text cannot be written, there is no file to be read. -/
theorem readBytes_of_exportTo_fault {error : EmitError} (htext : dump document formatName = .ok text)
    (h : exportTo t document p formatName = (t', some (.emit error))) :
    ∃ fault, t'.readBytes p = .error fault := by
  unfold exportTo at h
  rw [htext] at h
  dsimp only at h
  split at h
  · cases (Prod.mk.inj h).2
  split at h
  · cases (Prod.mk.inj h).2
  · next fault _ hfailed =>
    obtain rfl := (Prod.mk.inj h).1
    exact ⟨fault, readBytes_of_writeText_fault hfailed⟩
  · have hfault := (Prod.mk.inj h).2
    split at hfault <;> cases hfault

end Writing

end RouteAtlas.Document
