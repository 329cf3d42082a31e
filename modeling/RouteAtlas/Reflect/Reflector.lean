import Mathlib.Data.Finset.Erase
import Mathlib.Data.Finset.Insert
import RouteAtlas.Reflect.Reflection

/-!
# The reflector

A reflector keeps the names of the classes that it is expanding. It marks a class before it reads the
fields and takes the mark away afterwards, also where reading them fails; a class that it meets marked
stays a leaf. Whatever is reflected on the way finds the marks that stand at that moment.

The recursion is measured as that of `reflect`, with the classes that have no mark as its first measure.
They do not become more on the way, since no work takes away a mark that it has found: `Run` carries
that along.
-/

namespace RouteAtlas.Reflect

open RouteAtlas.Api RouteAtlas.Document RouteAtlas.Syntax

/-- Work that begins with the names `before` marked: its outcome, and the names that are marked when it is
over. -/
structure Run (before : Finset String) (α : Type) where
  outcome : Except ReflectFault α
  after : Finset String
  before_subset : before ⊆ after

namespace Run

variable {before : Finset String} {α β σ : Type}

/-- Work that leaves the marks alone. -/
def of (before : Finset String) (outcome : Except ReflectFault α) : Run before α :=
  ⟨outcome, before, Finset.Subset.refl before⟩

/-- More work under the marks that are left by then, unless the work so far has failed. -/
def andThen (run : Run before α) (next : ∀ marks, before ⊆ marks → α → Run marks β) : Run before β :=
  match run.outcome with
  | .error fault => ⟨.error fault, run.after, run.before_subset⟩
  | .ok a =>
    let rest := next run.after run.before_subset a
    ⟨rest.outcome, rest.after, run.before_subset.trans rest.before_subset⟩

/-- The result of the work in another form. -/
def map (f : α → β) (run : Run before α) : Run before β :=
  run.andThen fun marks _ a => of marks (.ok (f a))

/-- One step for each element of a list, in order. -/
def fold (step : ∀ marks, before ⊆ marks → σ → β → Run marks σ) (l : List β) (s : σ) : Run before σ :=
  l.foldl (fun run b => run.andThen fun marks h s => step marks h s b) (of before (.ok s))

/-- Work under one mark more, which is taken away in the end whatever the outcome. -/
def marking (name : String) (hname : name ∉ before) (run : Run (insert name before) α) :
    Run before α where
  outcome := run.outcome
  after := run.after.erase name
  before_subset _ h :=
    Finset.mem_erase.2 ⟨ne_of_mem_of_not_mem h hname, run.before_subset (Finset.mem_insert_of_mem h)⟩

end Run

/-- How many classes of the index have a name without a mark. -/
def ClassIndex.unmarked (index : ClassIndex) (marks : Finset String) : Nat :=
  index.classes.countP fun c => decide (c.name ∉ marks)

/-- With more marks no more classes are left unmarked. -/
theorem ClassIndex.unmarked_le {index : ClassIndex} {marks more : Finset String} (h : marks ⊆ more) :
    index.unmarked more ≤ index.unmarked marks := by
  refine List.countP_mono_left fun c _ hc => ?_
  simp only [decide_eq_true_eq] at hc ⊢
  exact fun hm => hc (h hm)

/-- Marking a class leaves fewer unmarked. -/
theorem ClassIndex.unmarked_insert_lt {index : ClassIndex} {marks : Finset String} {c : ClassDecl}
    (hc : c ∈ index.classes) (hmark : c.name ∉ marks) :
    index.unmarked (insert c.name marks) < index.unmarked marks := by
  refine countP_lt_countP hc (by simp) (by simpa using hmark) fun b _ hb => ?_
  simp only [decide_eq_true_eq] at hb ⊢
  exact fun hm => hb (Finset.mem_insert_of_mem hm)

mutual

/-- The shape of the type that an annotation denotes, by a reflector with these marks. -/
def reflectMarking (index : ClassIndex) (marks : Finset String) (isOptional : Bool) (e : Expr) :
    Run marks TypeShape :=
  match hf : TypeForm.ofExpr e with
  | .forward text =>
    match hr : readExpr text with
    | .error .nullCharacter => .of marks (.error .nullCharacter)
    | .error .malformed => .of marks (.ok (.leaf text isOptional))
    | .ok inner =>
      have := weight_lt_of_forward hf hr
      reflectMarking index marks isOptional inner
  | .illegible => .of marks (.error .surrogate)
  | .null => .of marks (.ok (.leaf "None" isOptional))
  | .union members =>
    match hm : members.filter (!isNullType ·) with
    | [] => .of marks (.ok (.leaf "None" isOptional))
    | [m] =>
      have : m ∈ members := (List.mem_filter.1 (hm ▸ List.mem_singleton_self m)).1
      have : weight m < weight e := weight_lt_of_mem_inner (hf ▸ this)
      reflectMarking index marks isOptional m
    | several => .of marks do return .union (← printed e) isOptional (← several.mapM printed)
  | .wrapped inner =>
    have : weight inner < weight e :=
      weight_lt_of_mem_inner (hf ▸ List.mem_singleton_self inner)
    reflectMarking index marks isOptional inner
  | .choice values => .of marks do
    return .union (← printed e) isOptional (← values.mapM printed)
  | .array item =>
    have : weight item < weight e :=
      weight_lt_of_mem_inner (hf ▸ List.mem_singleton_self item)
    match printed e with
    | .error fault => .of marks (.error fault)
    | .ok text => (reflectMarking index marks false item).map (.array text isOptional)
  | .named name =>
    match hc : index.get? name with
    | none => .of marks do return .leaf (← printed e) isOptional
    | some c =>
      if c.isEnum then
        match c.enumValues? with
        | none => .of marks (.error .unprintable)
        | some [] => .of marks (.ok (.leaf c.name isOptional))
        | some values => .of marks (.ok (.union c.name isOptional values))
      else if hmark : c.name ∈ marks then .of marks (.ok (.leaf c.name isOptional))
      else
        have := ClassIndex.unmarked_insert_lt (ClassIndex.mem_of_get? hc) hmark
        (Run.marking c.name hmark (classFieldsMarking index _ [c.name] c)).map
          (.object c.name isOptional)
  | .leaf => .of marks do return .leaf (← printed e) isOptional
termination_by (index.unmarked marks, 0, weight e)

/-- The fields of a class with those it inherits, by a reflector with these marks. -/
def classFieldsMarking (index : ClassIndex) (marks : Finset String) (lineage : List String)
    (c : ClassDecl) : Run marks (List (String × TypeShape)) :=
  let inherit (marks' : Finset String) (_ : marks ⊆ marks')
      (fields : List (String × TypeShape)) (base : Expr) : Run marks' (List (String × TypeShape)) :=
    match hb : index.get? base.simpleName with
    | none => .of marks' (.ok fields)
    | some b =>
      if hl : lineage.contains b.name then .of marks' (.ok fields)
      else if b.isEnum then .of marks' (.ok fields)
      else
        have := ClassIndex.room_cons_lt (ClassIndex.mem_of_get? hb) (Bool.eq_false_iff.2 hl)
        (classFieldsMarking index marks' (b.name :: lineage) b).map fun own =>
          own.foldl (fun fields f => setField f.1 f.2 fields) fields
  let declare (marks' : Finset String) (_ : marks ⊆ marks')
      (fields : List (String × TypeShape)) (d : FieldDecl) : Run marks' (List (String × TypeShape)) :=
    (reflectMarking index marks' d.isOptional d.hint).map fun t => setField d.name t fields
  (Run.fold inherit c.bases []).andThen fun _ hkept inherited =>
    Run.fold (fun marks' h => declare marks' (hkept.trans h)) c.fieldDecls inherited
termination_by (index.unmarked marks, index.room lineage + 1, 0)
decreasing_by
  · exact .right' _ (ClassIndex.unmarked_le ‹marks ⊆ marks'›) (.left _ _ (Nat.succ_lt_succ this))
  · exact .right' _ (ClassIndex.unmarked_le ‹marks ⊆ marks'›) (.left _ _ (Nat.succ_pos _))

end

/-- A reflector: the classes that it knows and the names of those that it is expanding. -/
structure Reflector where
  index : ClassIndex
  active : Finset String

/-- What a reflector is asked for. -/
structure ReflectCall where
  hint : Option Expr
  isOptional : Bool

/-- A reflector that is expanding nothing. -/
def Reflector.idle (index : ClassIndex) : Reflector := ⟨index, ∅⟩

/-- One call: what it gives, and the reflector as it leaves it. -/
def Reflector.reflect (r : Reflector) (call : ReflectCall) :
    Except ReflectFault TypeShape × Reflector :=
  match call.hint with
  | none => (.ok (.leaf "Any" call.isOptional), r)
  | some e =>
    let run := reflectMarking r.index r.active call.isOptional e
    (run.outcome, { r with active := run.after })

/-- One call after the other on the same reflector: what each gives, and the reflector after it. -/
def Reflector.reflectAll (r : Reflector) :
    List ReflectCall → List (Except ReflectFault TypeShape × Reflector)
  | [] => []
  | call :: calls =>
    let answer := r.reflect call
    answer :: answer.2.reflectAll calls

end RouteAtlas.Reflect
