import RouteAtlas.Syntax.Expr
import RouteAtlas.Text.Cut

/-!
# Annotations

What a type annotation says by its outermost form. `TypeForm.ofExpr` tells the forms apart, and every
annotation inside a form weighs less than the whole, where a quoted annotation weighs as much as its
text.
-/

namespace RouteAtlas.Reflect

open RouteAtlas.Syntax RouteAtlas.Text

/-- The outermost form of an annotation. -/
inductive TypeForm where
  /-- An annotation in quotes. -/
  | forward (text : String)
  /-- An annotation in quotes with surrogates, which cannot be read. -/
  | illegible
  | null
  | union (members : List Expr)
  /-- A marker around the annotation that counts. -/
  | wrapped (inner : Expr)
  /-- One of some literal values. -/
  | choice (values : List Expr)
  /-- A list, set or uniform tuple. -/
  | array (item : Expr)
  | named (name : String)
  /-- A form that stands for itself. -/
  | leaf
deriving Inhabited

/-- The generic names of lists. -/
def arrayNames : List String :=
  ["list", "List", "Sequence", "MutableSequence", "Iterable", "Collection", "set", "Set",
    "frozenset", "FrozenSet", "tuple", "Tuple"]

/-- The names of markers around an annotation. -/
def wrapperNames : List String := ["Annotated", "Required", "NotRequired", "Final", "ReadOnly"]

/-- The names of tuples. -/
def tupleNames : List String := ["tuple", "Tuple"]

/-- The arguments of a tuple of one type and any length. -/
def isUniform : List Expr → Bool
  | [_, e] => e.isEllipsis
  | _ => false

/-- The operands of a union that is written with bars. -/
def barOperands : Expr → List Expr
  | .binary .bitOr left right => barOperands left ++ barOperands right
  | e => [e]

/-- The annotation stands for the absence of a value. -/
def isNullType : Expr → Bool
  | .constant .none => true
  | .constant (.str s _) => s == "None"
  | .name id => id == "None" || id == "NoneType"
  | _ => false

/-- The form of a generic name with arguments. -/
def TypeForm.ofGeneric (name : String) (args : List Expr) : TypeForm :=
  match args with
  | [] =>
    if name = "Union" then .union []
    else if name = "Literal" then .choice []
    else .leaf
  | arg :: _ =>
    if wrapperNames.contains name then .wrapped arg
    else if name = "Optional" ∨ name = "Union" then .union args
    else if name = "Literal" then .choice args
    else if arrayNames.contains name && (!tupleNames.contains name || isUniform args) then .array arg
    else .leaf

/-- The form of an annotation. -/
def TypeForm.ofExpr : Expr → TypeForm
  | .constant (.str s _) => .forward s
  | .constant (.surrogate _ _) => .illegible
  | .constant .none => .null
  | .binary .bitOr left right => .union (barOperands left ++ barOperands right)
  | .subscript value index => .ofGeneric value.simpleName (Expr.subscriptArgs index)
  | .name id => .named id
  | .attribute _ attr => .named attr
  | _ => .leaf

/-- The form of a generic is never a quoted annotation. -/
theorem TypeForm.ofGeneric_ne_forward (name : String) (args : List Expr) (text : String) :
    ofGeneric name args ≠ .forward text := by
  unfold ofGeneric
  split
  · split
    · exact nofun
    · split <;> exact nofun
  · repeat' split
    all_goals exact nofun

/-- Only a text constant is an annotation in quotes. -/
theorem TypeForm.eq_constant_of_ofExpr_eq_forward {e : Expr} {text : String}
    (h : ofExpr e = .forward text) : ∃ marked, e = .constant (.str text marked) := by
  unfold ofExpr at h
  split at h
  · next s marked => exact ⟨marked, by rw [TypeForm.forward.inj h]⟩
  any_goals cases h
  · exact absurd h (ofGeneric_ne_forward _ _ _)

/-- The annotation is a generic of this name. -/
def isGeneric (name : String) : Expr → Bool
  | .subscript value _ => value.simpleName == name
  | _ => false

/-! ## Weights -/

mutual

/-- The weight of an annotation. -/
def weight : Expr → Nat
  | .constant (.str s _) => s.length + 1
  | .binary _ left right => weight left + weight right + 1
  | .subscript _ index => weight index + 1
  | .tuple items => weights items + 1
  | _ => 1

/-- The weight of annotations together. -/
def weights : List Expr → Nat
  | [] => 0
  | e :: r => weight e + weights r

end

/-- An expression of a list weighs no more than the list. -/
theorem weight_le_weights {e : Expr} {items : List Expr} (h : e ∈ items) :
    weight e ≤ weights items := by
  induction items with
  | nil => simp at h
  | cons a r ih =>
    simp only [weights]
    rcases List.mem_cons.1 h with rfl | h
    · omega
    · have := ih h
      omega

/-- An argument in brackets weighs no more than what stands in the brackets. -/
theorem weight_le_of_mem_subscriptArgs {e index : Expr} (h : e ∈ Expr.subscriptArgs index) :
    weight e ≤ weight index := by
  unfold Expr.subscriptArgs at h
  split at h
  · have := weight_le_weights h
    simp only [weight]
    omega
  · simp only [List.mem_singleton] at h
    simp [h]

/-- An operand of a bar weighs no more than the whole. -/
theorem weight_le_of_mem_barOperands {m : Expr} (e : Expr) (h : m ∈ barOperands e) :
    weight m ≤ weight e := by
  fun_induction barOperands e with
  | case1 left right ihl ihr =>
    simp only [weight]
    rcases List.mem_append.1 h with h | h
    · have := ihl h
      omega
    · have := ihr h
      omega
  | case2 e => simp_all

/-- The annotations inside a form that are read further. -/
def TypeForm.inner : TypeForm → List Expr
  | .union members => members
  | .wrapped e => [e]
  | .array e => [e]
  | _ => []

/-- What a generic form reflects further is among its arguments. -/
theorem mem_args_of_mem_inner_ofGeneric {e : Expr} {name : String} {args : List Expr}
    (h : e ∈ (TypeForm.ofGeneric name args).inner) : e ∈ args := by
  unfold TypeForm.ofGeneric at h
  split at h
  · split at h
    · exact h
    · split at h <;> simp [TypeForm.inner] at h
  · split at h
    · simp only [TypeForm.inner, List.mem_singleton] at h
      simp [h]
    · split at h
      · exact h
      · split at h
        · simp [TypeForm.inner] at h
        · split at h
          · simp only [TypeForm.inner, List.mem_singleton] at h
            simp [h]
          · simp [TypeForm.inner] at h

/-- What is inside a form weighs less than the annotation. -/
theorem weight_lt_of_mem_inner {m e : Expr} (h : m ∈ (TypeForm.ofExpr e).inner) :
    weight m < weight e := by
  unfold TypeForm.ofExpr at h
  split at h <;> try (simp [TypeForm.inner] at h; done)
  · rename_i left right
    simp only [TypeForm.inner, List.mem_append] at h
    simp only [weight]
    rcases h with h | h
    · have := weight_le_of_mem_barOperands left h
      omega
    · have := weight_le_of_mem_barOperands right h
      omega
  · have := weight_le_of_mem_subscriptArgs (mem_args_of_mem_inner_ofGeneric h)
    simp only [weight]
    omega

end RouteAtlas.Reflect
