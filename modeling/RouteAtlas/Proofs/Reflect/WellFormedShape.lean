import RouteAtlas.Proofs.Reflect.SettledRegistry

/-!
# Well-formed shapes

Nothing in the type of shapes keeps a node from having several parts, or an object from naming one
property twice. Reflection makes no such node, at the root or below it (`reflectHint_isWellFormed`), so
what reads a reflected shape may read its parts in any order and its properties by name.
-/

namespace RouteAtlas.Reflect

open RouteAtlas.Api RouteAtlas.Document RouteAtlas.Syntax

/-- The node has at most one kind of part, is marked as an array exactly if it has items, and the names
of its properties are distinct. -/
structure IsWellFormed (t : TypeShape) : Prop where
  parts : [t.items.isSome, t.unionTypes.isSome, t.properties.isSome].count true ≤ 1
  isArray_iff : t.isArray = true ↔ t.items.isSome = true
  nodup : ∀ properties, t.properties = some properties → (fieldNames properties).Nodup

section Forms

variable (text : String) (isOptional : Bool)

/-- A leaf is well formed. -/
theorem isWellFormed_leaf : IsWellFormed (.leaf text isOptional) :=
  ⟨by simp [TypeShape.leaf], by simp [TypeShape.leaf], nofun⟩

/-- A union is well formed. -/
theorem isWellFormed_union (members : List String) : IsWellFormed (.union text isOptional members) :=
  ⟨by simp [TypeShape.union], by simp [TypeShape.union], nofun⟩

/-- An array is well formed. -/
theorem isWellFormed_array (items : TypeShape) : IsWellFormed (.array text isOptional items) :=
  ⟨by simp [TypeShape.array], by simp [TypeShape.array], nofun⟩

/-- An object with distinct names is well formed. -/
theorem isWellFormed_object {fields : List (String × TypeShape)} (h : (fieldNames fields).Nodup) :
    IsWellFormed (.object text isOptional fields) :=
  ⟨by simp [TypeShape.object], by simp [TypeShape.object], fun _ hp => Option.some.inj hp ▸ h⟩

end Forms

/-- A shape as reflection makes it is well formed at its root. -/
theorem Reflected.isWellFormed {index : ClassIndex} {active : List String} {t : TypeShape}
    (h : Reflected index active t) : IsWellFormed t := by
  cases h with
  | leaf => exact isWellFormed_leaf _ _
  | union => exact isWellFormed_union _ _ _
  | array => exact isWellFormed_array _ _ _
  | object _ _ _ hfields _ =>
    -- fields are assigned, and assigning one never makes a second entry of its name
    exact isWellFormed_object _ _ (nodup_fieldNames_classFields hfields)

/-- Every node of a reflected annotation is well formed. -/
theorem reflectHint_isWellFormed {index : ClassIndex} {isOptional : Bool} {hint : Option Expr}
    {root : TypeShape} (h : reflectHint index isOptional hint = .ok root) {above : List TypeShape}
    {node : TypeShape} (hn : Reaches root above node) : IsWellFormed node := by
  cases hint with
  | none =>
    obtain rfl := Except.ok.inj h
    obtain ⟨_, rfl⟩ := eq_of_reaches_leaf hn
    exact isWellFormed_leaf _ _
  | some e => exact (reflected_of_reaches (reflect_reflected h) hn).1.isWellFormed

/-- A class that declares a field again which it inherits from one base along two others. -/
theorem reflectHint_isWellFormed_of_diamond :
    let declared : Stmt := .annAssign (.name "key") (.name "int") none
    let top : ClassDecl := ⟨"Top", [], [], [declared]⟩
    let left : ClassDecl := ⟨"Left", [.name "Top"], [], []⟩
    let right : ClassDecl := ⟨"Right", [.name "Top"], [], []⟩
    let joint : ClassDecl := ⟨"Joint", [.name "Left", .name "Right"], [], [declared]⟩
    let root := TypeShape.object "Joint" false [("key", .leaf "int" false)]
    reflectHint ⟨[top, left, right, joint]⟩ false (some (.name "Joint")) = .ok root ∧
      IsWellFormed root := by
  intro declared top left right joint root
  let index : ClassIndex := ⟨[top, left, right, joint]⟩
  have hkey : reflect index ["Joint"] false (.name "int") = .ok (.leaf "int" false) :=
    reflect_unknown rfl rfl
  have htop {lineage : List String} :
      classFields index ["Joint"] lineage top = .ok [("key", .leaf "int" false)] := by
    have hdecls : top.fieldDecls = [⟨"key", .name "int", false⟩] := rfl
    rw [classFields_eq, hdecls, List.foldlM_nil, pure_bind, List.foldlM_cons, declareField, hkey]
    rfl
  have hleft : classFields index ["Joint"] ["Left", "Joint"] left =
      .ok [("key", .leaf "int" false)] := by
    rw [classFields_eq, List.foldlM_cons, inheritFields_base (b := top) rfl (by decide) rfl htop]
    rfl
  have hright : classFields index ["Joint"] ["Right", "Joint"] right =
      .ok [("key", .leaf "int" false)] := by
    rw [classFields_eq, List.foldlM_cons, inheritFields_base (b := top) rfl (by decide) rfl htop]
    rfl
  have hinherited : joint.bases.foldlM (inheritFields index ["Joint"] ["Joint"]) [] =
      .ok [("key", .leaf "int" false)] := by
    rw [List.foldlM_cons, inheritFields_base (b := left) rfl (by decide) rfl hleft]
    show List.foldlM (inheritFields index ["Joint"] ["Joint"]) [("key", .leaf "int" false)]
      [.name "Right"] = _
    rw [List.foldlM_cons, inheritFields_base (b := right) rfl (by decide) rfl hright]
    rfl
  have hfields : classFields index ["Joint"] ["Joint"] joint = .ok [("key", .leaf "int" false)] := by
    have hdecls : joint.fieldDecls = [⟨"key", .name "int", false⟩] := rfl
    rw [classFields_eq, hinherited, hdecls]
    show List.foldlM (declareField index ["Joint"]) [("key", .leaf "int" false)]
      [⟨"key", .name "int", false⟩] = _
    rw [List.foldlM_cons, declareField, hkey]
    rfl
  have hroot : reflectHint index false (some (.name "Joint")) = .ok root := by
    show reflect index [] false (.name "Joint") = _
    rw [reflect_class (c := joint) rfl rfl rfl (by decide), hfields]
    rfl
  exact ⟨hroot, reflectHint_isWellFormed hroot .root⟩

end RouteAtlas.Reflect
