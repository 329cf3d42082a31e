import Mathlib.Data.List.Forall2
import RouteAtlas.Log

/-!
# Runs of work

A run that succeeds is a chain of steps that succeed. The lemmas take such a run apart, for results
with or without a state, and carry what the steps keep over folds. Lists are gone through item by item,
so that the results of a run belong to its items in order. What is put together step by step from work
that matches (`Matches`), matches.
-/

namespace RouteAtlas

/-- What belongs to a list item by item comes from one of its items. -/
theorem exists_of_mem_right {α β : Type} {R : α → β → Prop} {xs : List α} {ys : List β}
    (h : List.Forall₂ R xs ys) {y : β} (hy : y ∈ ys) : ∃ x ∈ xs, R x y := by
  induction h with
  | nil => cases hy
  | @cons x z xs ys hxz _ ih =>
    rcases List.mem_cons.1 hy with rfl | hy
    · exact ⟨x, List.mem_cons_self, hxz⟩
    · obtain ⟨other, hother, hr⟩ := ih hy
      exact ⟨other, List.mem_cons_of_mem x hother, hr⟩

/-- Of the items with a property one is the first. -/
theorem exists_first {α : Type} {P : α → Prop} {xs : List α} (h : ∃ x ∈ xs, P x) :
    ∃ before x after, xs = before ++ x :: after ∧ P x ∧ ∀ y ∈ before, ¬ P y := by
  induction xs with
  | nil =>
    obtain ⟨_, hx, _⟩ := h
    cases hx
  | cons x xs ih =>
    by_cases hP : P x
    · exact ⟨[], x, xs, rfl, hP, fun y hy => absurd hy List.not_mem_nil⟩
    · obtain ⟨before, y, after, rfl, hy, hbefore⟩ :=
        ih ((List.exists_mem_cons_iff P x xs).1 h |>.resolve_left hP)
      exact ⟨x :: before, y, after, rfl, hy, List.forall_mem_cons.2 ⟨hP, hbefore⟩⟩

/-- Steps with a state give their results one by one, each from the state that it meets. -/
theorem forall₂_run_mapM {σ α β : Type} (f : α → StateM σ β) (xs : List α) (s : σ) :
    List.Forall₂ (fun x y => ∃ before, ((f x).run before).1 = y) xs ((xs.mapM f).run s).1 := by
  induction xs generalizing s with
  | nil => exact .nil
  | cons x xs ih =>
    rw [List.mapM_cons]
    exact .cons ⟨s, rfl⟩ (ih ((f x).run s).2)

/-- The state passes from one step to the next. -/
theorem run_mapM_snd {σ α β : Type} (f : α → StateM σ β) (xs : List α) (s : σ) :
    ((xs.mapM f).run s).2 = xs.foldl (fun s x => ((f x).run s).2) s := by
  induction xs generalizing s with
  | nil => rfl
  | cons x xs ih =>
    rw [List.mapM_cons]
    exact ih ((f x).run s).2

/-- The result of an item stands among the results, given from the state that the items before it
leave. -/
theorem exists_run_mapM_eq {σ α β : Type} (f : α → StateM σ β) (xs : List α) (x : α) (more : List α)
    (s : σ) : ∃ ys zs, (((xs ++ x :: more).mapM f).run s).1 =
      ys ++ ((f x).run ((xs.mapM f).run s).2).1 :: zs := by
  induction xs generalizing s with
  | nil =>
    rw [List.nil_append, List.mapM_cons]
    exact ⟨[], _, rfl⟩
  | cons y xs ih =>
    obtain ⟨ys, zs, h⟩ := ih ((f y).run s).2
    rw [List.cons_append, List.mapM_cons, List.mapM_cons]
    exact ⟨((f y).run s).1 :: ys, zs, congrArg (((f y).run s).1 :: ·) h⟩

section Option

variable {α β : Type} {f : α → Option β} {xs : List α}

/-- A list whose items all have a result is gone through with these results. -/
theorem exists_mapM_eq_some {P : α → β → Prop} (h : ∀ x ∈ xs, ∃ y, f x = some y ∧ P x y) :
    ∃ ys, xs.mapM f = some ys ∧ List.Forall₂ P xs ys := by
  induction xs with
  | nil => exact ⟨[], rfl, .nil⟩
  | cons x xs ih =>
    obtain ⟨⟨y, hy, hP⟩, hxs⟩ := List.forall_mem_cons.1 h
    obtain ⟨ys, hys, hPs⟩ := ih hxs
    exact ⟨y :: ys, by rw [List.mapM_cons, hy, hys]; rfl, .cons hP hPs⟩

/-- A list of which one element gives nothing gives nothing. -/
theorem mapM_eq_none_of_mem {x : α} (hx : x ∈ xs) (h : f x = none) : xs.mapM f = none := by
  induction xs with
  | nil => cases hx
  | cons y xs ih =>
    rw [List.mapM_cons]
    rcases List.mem_cons.1 hx with rfl | hx
    · rw [h]
      rfl
    · rw [ih hx]
      cases f y <;> rfl

end Option

section Except

variable {ε α β : Type}

/-- Both parts of a sequence with a result have one. -/
theorem exists_of_bind_eq_ok {x : Except ε α} {f : α → Except ε β} {b : β}
    (h : x >>= f = .ok b) : ∃ a, x = .ok a ∧ f a = .ok b := by
  cases x with
  | error _ => cases h
  | ok a => exact ⟨a, rfl, h⟩

/-- Renaming failures makes no results. -/
theorem eq_ok_of_mapError_eq_ok {δ : Type} {f : ε → δ} {x : Except ε α} {a : α}
    (h : x.mapError f = .ok a) : x = .ok a := by
  cases x with
  | error _ => cases h
  | ok _ => exact congrArg Except.ok (Except.ok.inj h)

/-- A checked result is there and passes the check. -/
theorem exists_eq_ok_of_any {x : Except ε α} {p : α → Bool} (h : x.toOption.any p = true) :
    ∃ a, x = .ok a ∧ p a = true := by
  cases x with
  | error _ => cases h
  | ok a => exact ⟨a, rfl, h⟩

/-- A list is gone through with success exactly if each of its items is. -/
theorem mapM_eq_ok_iff {f : α → Except ε β} {xs : List α} {ys : List β} :
    xs.mapM f = .ok ys ↔ List.Forall₂ (fun x y => f x = .ok y) xs ys := by
  induction xs generalizing ys with
  | nil =>
    rw [List.mapM_nil, List.forall₂_nil_left_iff]
    exact ⟨fun h => (Except.ok.inj h).symm, fun h => congrArg Except.ok h.symm⟩
  | cons x xs ih =>
    rw [List.mapM_cons, List.forall₂_cons_left_iff]
    constructor
    · intro h
      obtain ⟨y, hy, h⟩ := exists_of_bind_eq_ok h
      obtain ⟨rest, hrest, h⟩ := exists_of_bind_eq_ok h
      exact ⟨y, rest, hy, ih.1 hrest, (Except.ok.inj h).symm⟩
    · rintro ⟨y, rest, hy, hrest, rfl⟩
      rw [hy, ih.2 hrest]
      rfl

/-- A step that succeeds hands its result to the rest of the fold. -/
theorem foldlM_cons_of_ok {f : β → α → Except ε β} {x : α} {b c : β} (h : f b x = .ok c)
    (xs : List α) : (x :: xs).foldlM f b = xs.foldlM f c := by
  rw [List.foldlM_cons, h]
  rfl

/-- What every step of a fold keeps, the fold keeps. -/
theorem foldlM_ok_induction {f : β → α → Except ε β} {P : β → Prop} (xs : List α) {b b' : β}
    (hstep : ∀ b, ∀ x ∈ xs, ∀ b', f b x = .ok b' → P b → P b') (hb : P b)
    (h : xs.foldlM f b = .ok b') : P b' := by
  induction xs generalizing b with
  | nil => exact Except.ok.inj h ▸ hb
  | cons x xs ih =>
    rw [List.foldlM_cons] at h
    obtain ⟨c, hc, h⟩ := exists_of_bind_eq_ok h
    exact ih (fun b y hy => hstep b y (List.mem_cons_of_mem x hy))
      (hstep b x List.mem_cons_self c hc hb) h

/-- What steps side by side keep, their folds keep. -/
theorem foldlM_ok_induction₂ {γ : Type} {f : β → α → Except ε β} {g : γ → α → Except ε γ}
    {R : β → γ → Prop} (xs : List α) {b b' : β} {c c' : γ}
    (hstep : ∀ b c, ∀ x ∈ xs, ∀ b' c', f b x = .ok b' → g c x = .ok c' → R b c → R b' c')
    (hR : R b c) (hf : xs.foldlM f b = .ok b') (hg : xs.foldlM g c = .ok c') : R b' c' := by
  induction xs generalizing b c with
  | nil =>
    obtain rfl := Except.ok.inj hf
    obtain rfl := Except.ok.inj hg
    exact hR
  | cons x xs ih =>
    rw [List.foldlM_cons] at hf hg
    obtain ⟨b₁, hb₁, hf⟩ := exists_of_bind_eq_ok hf
    obtain ⟨c₁, hc₁, hg⟩ := exists_of_bind_eq_ok hg
    exact ih (fun b c y hy => hstep b c y (List.mem_cons_of_mem x hy))
      (hstep b c x List.mem_cons_self b₁ c₁ hb₁ hc₁ hR) hf hg

end Except

section Matching

variable {ε δ α α' β β' : Type}

/-- Two pieces of work match: both fail with one fault, or both succeed with results that belong
together. -/
inductive Matches (R : α → α' → Prop) : Except ε α → Except ε α' → Prop
  | error (fault : ε) : Matches R (.error fault) (.error fault)
  | ok {a : α} {a' : α'} (h : R a a') : Matches R (.ok a) (.ok a')

variable {R : α → α' → Prop} {S : β → β' → Prop} {x : Except ε α} {x' : Except ε α'}

/-- A reflexive relation relates every outcome to itself. -/
theorem matches_self {R : α → α → Prop} (h : ∀ a, R a a) (x : Except ε α) : Matches R x x := by
  cases x with
  | error fault => exact .error fault
  | ok a => exact .ok (h a)

/-- Outcomes with equal results are equal. -/
theorem matches_eq_iff {x y : Except ε α} : Matches Eq x y ↔ x = y := by
  constructor
  · rintro (fault | rfl)
    · rfl
    · rfl
  · rintro rfl
    exact matches_self (fun _ => rfl) x

/-- Outcomes whose results look the same are the same to who looks. -/
theorem matches_map_eq_iff {γ : Type} {view : α → γ} {x y : Except ε α} :
    Matches (fun a b => view a = view b) x y ↔ view <$> x = view <$> y := by
  constructor
  · rintro (fault | h)
    · rfl
    · exact congrArg Except.ok h
  · intro h
    cases x with
    | error fault =>
      cases y with
      | error fault' => exact Except.error.inj h ▸ .error fault
      | ok b => cases h
    | ok a =>
      cases y with
      | error fault' => cases h
      | ok b => exact .ok (Except.ok.inj h)

/-- Matching outcomes can be chained. -/
theorem Matches.trans {R : α → α → Prop} (hR : ∀ a b c, R a b → R b c → R a c) {x y z : Except ε α}
    (hxy : Matches R x y) (hyz : Matches R y z) : Matches R x z := by
  cases hxy with
  | error => exact hyz
  | ok hab =>
    cases hyz with
    | ok hbc => exact .ok (hR _ _ _ hab hbc)

/-- Sequences match part by part. -/
theorem Matches.bind {f : α → Except ε β} {f' : α' → Except ε β'} (h : Matches R x x')
    (hf : ∀ a a', R a a' → Matches S (f a) (f' a')) : Matches S (x >>= f) (x' >>= f') := by
  cases h with
  | error fault => exact .error fault
  | ok h => exact hf _ _ h

/-- Work that goes on without failing. -/
theorem Matches.map {f : α → β} {f' : α' → β'} (h : Matches R x x')
    (hf : ∀ a a', R a a' → S (f a) (f' a')) :
    Matches S (do return f (← x)) (do return f' (← x')) :=
  h.bind fun a a' ha => .ok (hf a a' ha)

/-- Renaming failures keeps a match. -/
theorem Matches.mapError {f : ε → δ} (h : Matches R x x') :
    Matches R (x.mapError f) (x'.mapError f) := by
  cases h with
  | error fault => exact .error (f fault)
  | ok h => exact .ok h

/-- Folds match step by step. -/
theorem matches_foldlM {γ γ' : Type} {f : α → γ → Except ε α} {f' : α' → γ' → Except ε α'}
    {xs : List γ} {xs' : List γ'}
    (h : List.Forall₂ (fun x x' => ∀ a a', R a a' → Matches R (f a x) (f' a' x')) xs xs')
    {a : α} {a' : α'} (ha : R a a') : Matches R (xs.foldlM f a) (xs'.foldlM f' a') := by
  induction h generalizing a a' with
  | nil => exact .ok ha
  | cons hstep _ ih =>
    rw [List.foldlM_cons, List.foldlM_cons]
    exact (hstep a a' ha).bind fun _ _ hb => ih hb

/-- Lists match element by element. -/
theorem matches_mapM {γ γ' : Type} {f : γ → Except ε α} {f' : γ' → Except ε α'} {xs : List γ}
    {xs' : List γ'} (h : List.Forall₂ (fun x x' => Matches R (f x) (f' x')) xs xs') :
    Matches (List.Forall₂ R) (xs.mapM f) (xs'.mapM f') := by
  induction h with
  | nil => exact .ok .nil
  | cons hstep _ ih =>
    rw [List.mapM_cons, List.mapM_cons]
    exact hstep.bind fun _ _ ha => ih.map fun _ _ hrest => .cons ha hrest

end Matching

section State

variable {σ ε α β : Type}

/-- A sequence runs its second part from where the first one ended. -/
theorem run_bind (x : ExceptT ε (StateM σ) α) (f : α → ExceptT ε (StateM σ) β) (s : σ) :
    (x >>= f).run.run s =
      match x.run.run s with
      | (.ok a, t) => (f a).run.run t
      | (.error fault, t) => (.error fault, t) := by
  rw [ExceptT.run_bind, StateT.run_bind]
  rcases x.run.run s with ⟨_ | _, t⟩ <;> rfl

/-- Both parts of a sequence that succeeds do. -/
theorem exists_of_run_bind {x : ExceptT ε (StateM σ) α} {f : α → ExceptT ε (StateM σ) β} {s s' : σ}
    {b : β} (h : (x >>= f).run.run s = (.ok b, s')) :
    ∃ a t, x.run.run s = (.ok a, t) ∧ (f a).run.run t = (.ok b, s') := by
  rw [run_bind] at h
  rcases hx : x.run.run s with ⟨fault | a, t⟩
  · rw [hx] at h
    cases (Prod.mk.inj h).1
  · rw [hx] at h
    exact ⟨a, t, rfl, h⟩

end State

namespace Logged

variable {ε α β : Type} {log log' : Log}

/-- A sequence runs its second part after the messages of the first. -/
theorem runFrom_bind (x : Logged ε α) (f : α → Logged ε β) (log : Log) :
    (x >>= f).runFrom log =
      match x.runFrom log with
      | (.ok a, between) => (f a).runFrom between
      | (.error fault, between) => (.error fault, between) := by
  unfold runFrom
  rw [run_bind]
  rcases x.run.run log with ⟨_ | _, between⟩ <;> rfl

/-- Both parts of a sequence that succeeds do, one after the other. -/
theorem exists_of_runFrom_bind {x : Logged ε α} {f : α → Logged ε β} {b : β}
    (h : (x >>= f).runFrom log = (.ok b, log')) :
    ∃ a between, x.runFrom log = (.ok a, between) ∧ (f a).runFrom between = (.ok b, log') :=
  exists_of_run_bind h

/-- The work adds messages behind those before it. -/
def Extends (work : Logged ε α) : Prop := ∀ log, log <+: (work.runFrom log).2

/-- A new message comes after the others. -/
theorem extends_write (level : Level) (topic : Topic) (text : String) :
    Extends (write level topic text : Logged ε Unit) := fun log => List.prefix_append log _

/-- A sequence keeps the messages that both of its parts keep. -/
theorem Extends.bind {x : Logged ε α} {f : α → Logged ε β} (hx : Extends x)
    (hf : ∀ a, Extends (f a)) : Extends (x >>= f) := by
  intro log
  have hbetween := hx log
  rw [runFrom_bind]
  revert hbetween
  rcases x.runFrom log with ⟨fault | a, between⟩
  · exact id
  · exact fun hbetween => hbetween.trans (hf a between)

/-- A checked run has a result that passes the check. -/
theorem exists_run_of_any {x : Logged ε α} {p : α → Bool}
    (h : (x.runFrom log).1.toOption.any p = true) :
    ∃ a log', x.runFrom log = (.ok a, log') ∧ p a = true := by
  obtain ⟨a, ha, hp⟩ := exists_eq_ok_of_any h
  exact ⟨a, (x.runFrom log).2, Prod.ext ha rfl, hp⟩

/-- Work that only returns has that result. -/
theorem eq_of_runFrom_pure {a b : α} (h : (pure a : Logged ε α).runFrom log = (.ok b, log')) :
    a = b := Except.ok.inj (Prod.mk.inj h).1

/-- A filter all of whose steps depend on their items alone keeps what the steps keep, in order, and
each of its steps succeeds. -/
theorem filterMapM_eq {f : α → Logged ε (Option β)} {g : α → Option β}
    (hg : ∀ x log log' o, (f x).runFrom log = (.ok o, log') → o = g x) {xs : List α} {ys : List β}
    (h : (xs.filterMapM f).runFrom log = (.ok ys, log')) :
    ys = xs.filterMap g ∧ ∀ x ∈ xs, ∃ before after o, (f x).runFrom before = (.ok o, after) := by
  induction xs generalizing ys log log' with
  | nil => exact ⟨(eq_of_runFrom_pure h).symm, fun x hx => absurd hx List.not_mem_nil⟩
  | cons x xs ih =>
    rw [List.filterMapM_cons] at h
    obtain ⟨found, between, hx, h⟩ := exists_of_runFrom_bind h
    have hfound : found = g x := hg x log between found hx
    have hrest : ∃ rest between', (xs.filterMapM f).runFrom between = (.ok rest, between') ∧
        ys = found.toList ++ rest := by
      cases found with
      | none => exact ⟨ys, log', h, rfl⟩
      | some z =>
        obtain ⟨rest, between', hrest, h⟩ := exists_of_runFrom_bind h
        exact ⟨rest, between', hrest, (eq_of_runFrom_pure h).symm⟩
    obtain ⟨rest, between', hrest, rfl⟩ := hrest
    obtain ⟨rfl, hsteps⟩ := ih hrest
    constructor
    · rw [List.filterMap_cons, ← hfound]
      cases found <;> rfl
    · intro y hy
      rcases List.mem_cons.1 hy with rfl | hy
      · exact ⟨log, between, found, hx⟩
      · exact hsteps y hy

end Logged

end RouteAtlas
