import RouteAtlas.Proofs.Fallible

/-!
# Work that does not see a difference

Work with a state is oblivious of a difference between states if its result is the same from states that
differ so, and they differ no more after it. `Oblivious` says this for any relation of states; it is kept
by sequences and folds of work. `Steady` is the case of logged work, whose result does not depend on the
messages before.
-/

namespace RouteAtlas

section Oblivious

variable {σ ε α β : Type} {R : σ → σ → Prop}

/-- From related states the work has the same result and leaves related states. -/
def Oblivious (R : σ → σ → Prop) (work : ExceptT ε (StateM σ) α) : Prop :=
  ∀ s t, R s t →
    (work.run.run s).1 = (work.run.run t).1 ∧ R (work.run.run s).2 (work.run.run t).2

/-- A result does not see the state. -/
theorem oblivious_pure (a : α) : Oblivious R (pure a : ExceptT ε (StateM σ) α) :=
  fun _ _ h => ⟨rfl, h⟩

/-- A fault does not see the state. -/
theorem oblivious_throw (fault : ε) : Oblivious R (throw fault : ExceptT ε (StateM σ) α) :=
  fun _ _ h => ⟨rfl, h⟩

/-- Work without a state does not see any. -/
theorem oblivious_lift (x : Except ε α) : Oblivious R (liftM x : ExceptT ε (StateM σ) α) :=
  fun _ _ h => ⟨rfl, h⟩

/-- A sequence sees a difference only if a part of it does. -/
theorem Oblivious.bind {x : ExceptT ε (StateM σ) α} {f : α → ExceptT ε (StateM σ) β}
    (hx : Oblivious R x) (hf : ∀ a, Oblivious R (f a)) : Oblivious R (x >>= f) := by
  intro s t h
  obtain ⟨hresult, hstate⟩ := hx s t h
  rw [run_bind, run_bind]
  revert hresult hstate
  rcases x.run.run s with ⟨fault | a, s'⟩ <;> rcases x.run.run t with ⟨fault' | a', t'⟩ <;>
    intro hresult hstate
  · obtain rfl := Except.error.inj hresult
    exact ⟨rfl, hstate⟩
  · cases hresult
  · cases hresult
  · obtain rfl := Except.ok.inj hresult
    exact hf a s' t' hstate

/-- A choice sees a difference only if a branch of it does. -/
theorem oblivious_ite {c : Prop} [Decidable c] {x y : ExceptT ε (StateM σ) α} (hx : Oblivious R x)
    (hy : Oblivious R y) : Oblivious R (if c then x else y) := by
  split
  · exact hx
  · exact hy

/-- Work that differs in nothing but the names of its failures. -/
theorem Oblivious.of_mapError {δ : Type} {x : ExceptT ε (StateM σ) α} {y : ExceptT δ (StateM σ) α}
    {f : ε → δ} (hx : Oblivious R x)
    (h : ∀ s, y.run.run s = ((x.run.run s).1.mapError f, (x.run.run s).2)) : Oblivious R y := by
  intro s t hst
  obtain ⟨hresult, hstate⟩ := hx s t hst
  rw [h, h, hresult]
  exact ⟨rfl, hstate⟩

/-- The same work for each element sees a difference only if it does for one of them. -/
theorem oblivious_mapM {f : α → ExceptT ε (StateM σ) β} {xs : List α}
    (h : ∀ x ∈ xs, Oblivious R (f x)) : Oblivious R (xs.mapM f) := by
  induction xs with
  | nil => exact oblivious_pure []
  | cons x xs ih =>
    obtain ⟨hx, hxs⟩ := List.forall_mem_cons.1 h
    rw [List.mapM_cons]
    exact hx.bind fun y => (ih hxs).bind fun ys => oblivious_pure (y :: ys)

/-- A fold sees a difference only if a step of it does. -/
theorem oblivious_foldlM {f : β → α → ExceptT ε (StateM σ) β} (xs : List α)
    (h : ∀ b x, Oblivious R (f b x)) (b : β) : Oblivious R (xs.foldlM f b) := by
  induction xs generalizing b with
  | nil => exact oblivious_pure b
  | cons x xs ih =>
    rw [List.foldlM_cons]
    exact (h b x).bind ih

/-- A selection sees a difference only if a test of it does. -/
theorem oblivious_filterMapM {f : α → ExceptT ε (StateM σ) (Option β)} (xs : List α)
    (h : ∀ x, Oblivious R (f x)) : Oblivious R (xs.filterMapM f) := by
  induction xs with
  | nil => exact oblivious_pure []
  | cons x xs ih =>
    rw [List.filterMapM_cons]
    refine (h x).bind fun found => ?_
    cases found with
    | none => exact ih
    | some y => exact ih.bind fun ys => oblivious_pure (y :: ys)

end Oblivious

namespace Logged

variable {ε δ α β : Type}

/-- The result does not depend on the messages before. -/
def Steady (work : Logged ε α) : Prop := Oblivious (fun _ _ => True) work

/-- Work that only returns is steady. -/
theorem steady_pure (a : α) : Steady (pure a : Logged ε α) := oblivious_pure a

/-- Work that breaks off is steady. -/
theorem steady_throw (fault : ε) : Steady (throw fault : Logged ε α) := oblivious_throw fault

/-- Writing a message is steady. -/
theorem steady_write (level : Level) (topic : Topic) (text : String) :
    Steady (write level topic text : Logged ε Unit) := fun _ _ _ => ⟨rfl, trivial⟩

/-- A sequence of steady work is steady. -/
theorem Steady.bind {x : Logged ε α} {f : α → Logged ε β} (hx : Steady x) (hf : ∀ a, Steady (f a)) :
    Steady (x >>= f) := Oblivious.bind hx hf

/-- A message and a result. -/
theorem steady_write_pure (level : Level) (topic : Topic) (text : String) (a : α) :
    Steady (do write level topic text; return a : Logged ε α) :=
  (steady_write level topic text).bind fun _ => steady_pure a

/-- Renaming failures keeps work steady. -/
theorem Steady.mapFault {x : Logged ε α} (f : ε → δ) (hx : Steady x) : Steady (mapFault f x) :=
  hx.of_mapError fun _ => rfl

/-- Two runs of steady work that succeed have one result. -/
theorem Steady.eq_of_runs {work : Logged ε α} (h : Steady work) {log₁ log₂ log₁' log₂' : Log}
    {a b : α} (ha : work.runFrom log₁ = (.ok a, log₁')) (hb : work.runFrom log₂ = (.ok b, log₂')) :
    a = b := by
  have hresult := (h log₁ log₂ trivial).1
  change (work.runFrom log₁).1 = (work.runFrom log₂).1 at hresult
  rw [ha, hb] at hresult
  exact Except.ok.inj hresult

/-- Work that succeeds with renamed failures succeeds without. -/
theorem exists_of_runFrom_mapFault {x : Logged ε α} {f : ε → δ} {log log' : Log} {a : α}
    (h : (mapFault f x).runFrom log = (.ok a, log')) : x.runFrom log = (.ok a, log') := by
  change ((x.runFrom log).1.mapError f, (x.runFrom log).2) = (.ok a, log') at h
  rcases hx : x.runFrom log with ⟨fault | b, between⟩
  · rw [hx] at h
    cases (Prod.mk.inj h).1
  · rw [hx] at h
    exact Prod.ext (congrArg Except.ok (Except.ok.inj (Prod.mk.inj h).1)) (Prod.mk.inj h).2

/-! ## Work that succeeds -/

/-- The work succeeds with this result, whatever messages were before. -/
def Yields (work : Logged ε α) (a : α) : Prop := ∀ log, ∃ log', work.runFrom log = (.ok a, log')

/-- Steady work that succeeds once always does. -/
theorem Steady.yields {work : Logged ε α} (h : Steady work) {log log' : Log} {a : α}
    (ha : work.runFrom log = (.ok a, log')) : Yields work a := by
  intro before
  have hresult := (h log before trivial).1
  change (work.runFrom log).1 = (work.runFrom before).1 at hresult
  rw [ha] at hresult
  exact ⟨(work.runFrom before).2, Prod.ext hresult.symm rfl⟩

/-- Work that only returns yields its result. -/
theorem yields_pure (a : α) : Yields (pure a : Logged ε α) a := fun log => ⟨log, rfl⟩

/-- A message can always be written. -/
theorem yields_write (level : Level) (topic : Topic) (text : String) :
    Yields (write level topic text : Logged ε Unit) () := fun _ => ⟨_, rfl⟩

/-- What comes after work that succeeds. -/
theorem exists_runFrom_bind {x : Logged ε α} {f : α → Logged ε β} {log between : Log} {a : α} {b : β}
    (hx : x.runFrom log = (.ok a, between)) (hf : Yields (f a) b) :
    ∃ log', (x >>= f).runFrom log = (.ok b, log') := by
  rw [runFrom_bind, hx]
  exact hf between

/-- A sequence yields what its second part does after the first. -/
theorem Yields.bind {x : Logged ε α} {f : α → Logged ε β} {a : α} {b : β} (hx : Yields x a)
    (hf : Yields (f a) b) : Yields (x >>= f) b := fun log => by
  obtain ⟨between, hrun⟩ := hx log
  exact exists_runFrom_bind hrun hf

/-- Renaming failures keeps results. -/
theorem Yields.mapFault {x : Logged ε α} {a : α} (f : ε → δ) (hx : Yields x a) :
    Yields (mapFault f x) a := fun log => by
  obtain ⟨log', hrun⟩ := hx log
  refine ⟨log', ?_⟩
  change ((x.runFrom log).1.mapError f, (x.runFrom log).2) = _
  rw [hrun]
  rfl

/-- A filter whose tests succeed. -/
theorem yields_filterM {f : α → Logged ε Bool} {p : α → Bool} (h : ∀ x, Yields (f x) (p x))
    (xs : List α) : Yields (xs.filterM f) (xs.filter p) := by
  have haux (kept : List α) : Yields (xs.filterAuxM f kept) ((xs.filter p).reverse ++ kept) := by
    induction xs generalizing kept with
    | nil => exact yields_pure kept
    | cons x xs ih =>
      refine (h x).bind ?_
      rw [List.filter_cons]
      cases p x with
      | false => exact ih kept
      | true =>
        rw [if_pos rfl, List.reverse_cons, List.append_assoc]
        exact ih (x :: kept)
  have hall := haux []
  rw [List.append_nil] at hall
  have hresult := hall.bind (f := fun kept => pure kept.reverse) (yields_pure _)
  rwa [List.reverse_reverse] at hresult

end Logged

end RouteAtlas
