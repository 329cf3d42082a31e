import RouteAtlas.Api.TypeShape
import RouteAtlas.Document.Value
import RouteAtlas.Proofs.Syntax.ScanCost
import RouteAtlas.Reflect.Field

/-!
# Reflecting annotations

`reflect` turns an annotation into the shape of the type it denotes. Classes of the index are expanded
into their fields, inherited ones first; a class that is already being expanded further out stays a
leaf, so the expansion ends. Whatever has no structure of its own is a leaf with its printed form.

The recursion is measured by the classes that are not being expanded, then, inside one class, by the
classes that are not yet on the line of inheritance, then by the weight of the annotation.
-/

namespace RouteAtlas.Reflect

open RouteAtlas.Api RouteAtlas.Document RouteAtlas.Syntax

/-- Why an annotation cannot be reflected. -/
inductive ReflectFault where
  /-- A quoted annotation holds a null character. -/
  | nullCharacter
  /-- A quoted annotation holds a surrogate. -/
  | surrogate
  /-- Some part has no printed form. -/
  | unprintable
deriving Repr, DecidableEq, Inhabited

/-- The printed form of an annotation. -/
def printed (e : Expr) : Except ReflectFault String :=
  match e.print? with
  | some s => .ok s
  | none => .error .unprintable

/-- How many classes of the index have a name that is not in the list. -/
def ClassIndex.room (index : ClassIndex) (names : List String) : Nat :=
  index.classes.countP fun c => !names.contains c.name

/-- A class that contains another one and one member more counts more. -/
theorem countP_lt_countP {α : Type} {p q : α → Bool} {l : List α} {a : α} (ha : a ∈ l)
    (hp : p a = false) (hq : q a = true) (h : ∀ x ∈ l, p x → q x) :
    l.countP p < l.countP q := by
  induction l with
  | nil => simp at ha
  | cons b r ih =>
    have hr : ∀ x ∈ r, p x → q x := fun x hx => h x (List.mem_cons_of_mem _ hx)
    have hle : r.countP p ≤ r.countP q := List.countP_mono_left hr
    rcases List.mem_cons.1 ha with rfl | ha
    · rw [List.countP_cons_of_neg (by simp [hp]), List.countP_cons_of_pos (by simp [hq])]
      omega
    · have hlt := ih ha hr
      have hb : (if p b then 1 else 0) ≤ if q b then 1 else 0 := by
        by_cases hpb : p b = true
        · exact Nat.le_of_eq ((if_pos hpb).trans (if_pos (h b List.mem_cons_self hpb)).symm)
        · exact Nat.le_trans (Nat.le_of_eq (if_neg hpb)) (Nat.zero_le _)
      rw [List.countP_cons, List.countP_cons]
      omega

/-- A class that becomes active leaves less room. -/
theorem ClassIndex.room_cons_lt {index : ClassIndex} {names : List String} {c : ClassDecl}
    (hc : c ∈ index.classes) (hn : names.contains c.name = false) :
    index.room (c.name :: names) < index.room names := by
  apply countP_lt_countP hc
  · simp
  · simp only [hn, Bool.not_false]
  · intro x _ hx
    simp only [List.contains_cons, Bool.not_or, Bool.and_eq_true] at hx
    exact hx.2

/-- A class that is found stands in the index. -/
theorem ClassIndex.mem_of_get? {index : ClassIndex} {name : String} {c : ClassDecl}
    (h : index.get? name = some c) : c ∈ index.classes := List.mem_of_find?_eq_some h

/-- A quoted annotation weighs more than whatever its text spells. -/
theorem weight_lt_of_forward {e inner : Expr} {text : String}
    (hf : TypeForm.ofExpr e = .forward text) (hr : readExpr text = .ok inner) :
    weight inner < weight e := by
  obtain ⟨marked, rfl⟩ := TypeForm.eq_constant_of_ofExpr_eq_forward hf
  have := weight_le_of_readExpr hr
  simp only [weight]
  omega

mutual

/-- The shape of the type that an annotation denotes, while the classes `active` are being expanded. -/
def reflect (index : ClassIndex) (active : List String) (isOptional : Bool) (e : Expr) :
    Except ReflectFault TypeShape :=
  match hf : TypeForm.ofExpr e with
  | .forward text =>
    match hr : readExpr text with
    | .error .nullCharacter => .error .nullCharacter
    | .error .malformed => .ok (.leaf text isOptional)
    | .ok inner =>
      have := weight_lt_of_forward hf hr
      reflect index active isOptional inner
  | .illegible => .error .surrogate
  | .null => .ok (.leaf "None" isOptional)
  | .union members =>
    match hm : members.filter (!isNullType ·) with
    | [] => .ok (.leaf "None" isOptional)
    | [m] =>
      have : m ∈ members := (List.mem_filter.1 (hm ▸ List.mem_singleton_self m)).1
      have : weight m < weight e := weight_lt_of_mem_inner (hf ▸ this)
      reflect index active isOptional m
    | several => do
      return .union (← printed e) isOptional (← several.mapM printed)
  | .wrapped inner =>
    have : weight inner < weight e :=
      weight_lt_of_mem_inner (hf ▸ List.mem_singleton_self inner)
    reflect index active isOptional inner
  | .choice values => do
    return .union (← printed e) isOptional (← values.mapM printed)
  | .array item => do
    have : weight item < weight e :=
      weight_lt_of_mem_inner (hf ▸ List.mem_singleton_self item)
    return .array (← printed e) isOptional (← reflect index active false item)
  | .named name =>
    match hc : index.get? name with
    | none => return .leaf (← printed e) isOptional
    | some c =>
      if c.isEnum then
        match c.enumValues? with
        | none => .error .unprintable
        | some [] => .ok (.leaf c.name isOptional)
        | some values => .ok (.union c.name isOptional values)
      else if ha : active.contains c.name then .ok (.leaf c.name isOptional)
      else do
        have := ClassIndex.room_cons_lt (ClassIndex.mem_of_get? hc) (Bool.eq_false_iff.2 ha)
        return .object c.name isOptional (← classFields index (c.name :: active) [c.name] c)
  | .leaf => return .leaf (← printed e) isOptional
termination_by (index.room active, 0, weight e)

/-- The fields of a class with those it inherits; `lineage` holds the classes between it and the one
that is expanded, itself included. -/
def classFields (index : ClassIndex) (active lineage : List String) (c : ClassDecl) :
    Except ReflectFault (List (String × TypeShape)) := do
  let inherited ← c.bases.foldlM (fun fields base =>
    match hb : index.get? base.simpleName with
    | none => return fields
    | some b =>
      if hl : lineage.contains b.name then return fields
      else if b.isEnum then return fields
      else do
        have := ClassIndex.room_cons_lt (ClassIndex.mem_of_get? hb) (Bool.eq_false_iff.2 hl)
        return (← classFields index active (b.name :: lineage) b).foldl
          (fun fields f => setField f.1 f.2 fields) fields) []
  c.fieldDecls.foldlM (fun fields d => do
    return setField d.name (← reflect index active d.isOptional d.hint) fields) inherited
termination_by (index.room active, index.room lineage + 1, 0)

end

/-- The shape of an optional annotation; where there is none, any value fits. -/
def reflectHint (index : ClassIndex) (isOptional : Bool) :
    Option Expr → Except ReflectFault TypeShape
  | none => .ok (.leaf "Any" isOptional)
  | some e => reflect index [] isOptional e

end RouteAtlas.Reflect
