import RouteAtlas.Proofs.Fallible

/-!
# Exactly when work fails

`FailsWith x faults` says that the result `x` is a failure with one of these faults, and a success if
there are none. Unlike a bound on the faults it settles both directions, and it is put together from the
steps of the work: a sequence fails with the faults of its parts.
-/

namespace RouteAtlas

section Except

variable {ε δ α β : Type}

/-- The result is a failure with one of these faults, or a success, and then there are none. -/
structure FailsWith (x : Except ε α) (faults : ε → Prop) : Prop where
  of_error : ∀ fault, x = .error fault → faults fault
  of_ok : ∀ a, x = .ok a → ∀ fault, ¬ faults fault

variable {x : Except ε α} {A B : ε → Prop}

/-- A result is no failure. -/
theorem failsWith_ok {a : α} (h : ∀ fault, ¬ A fault) : FailsWith (.ok a : Except ε α) A :=
  ⟨nofun, fun _ _ => h⟩

/-- A failure is one. -/
theorem failsWith_error {fault : ε} (h : A fault) : FailsWith (.error fault : Except ε α) A :=
  ⟨fun _ he => Except.error.inj he ▸ h, nofun⟩

/-- The faults may be described in other words. -/
theorem FailsWith.congr (hx : FailsWith x A) (h : ∀ fault, A fault ↔ B fault) : FailsWith x B :=
  ⟨fun fault he => (h fault).1 (hx.of_error fault he),
    fun a ha fault hfault => hx.of_ok a ha fault ((h fault).2 hfault)⟩

/-- There is a result exactly if there are no faults. -/
theorem FailsWith.exists_ok_iff (hx : FailsWith x A) :
    (∃ a, x = .ok a) ↔ ∀ fault, ¬ A fault := by
  cases x with
  | ok a => exact iff_of_true ⟨a, rfl⟩ (hx.of_ok a rfl)
  | error fault =>
    exact iff_of_false (fun ⟨_, ha⟩ => nomatch ha) fun h => h fault (hx.of_error fault rfl)

/-- A sequence fails as one of its parts does. -/
theorem FailsWith.bind {f : α → Except ε β} (hx : FailsWith x A)
    (hf : ∀ a, FailsWith (f a) B) : FailsWith (x >>= f) fun fault => A fault ∨ B fault := by
  cases x with
  | error fault => exact failsWith_error (Or.inl (hx.of_error fault rfl))
  | ok a =>
    have hA := hx.of_ok a rfl
    exact (hf a).congr fun fault => (or_iff_right (hA fault)).symm

/-- Work that goes on without failing. -/
theorem FailsWith.map {f : α → β} (hx : FailsWith x A) :
    FailsWith (do return f (← x)) A :=
  (hx.bind (B := fun _ => False) fun _ => failsWith_ok fun _ => id).congr fun _ => iff_of_eq (or_false _)

/-- Renamed faults are those of the work, renamed. -/
theorem FailsWith.mapError {f : ε → δ} (hx : FailsWith x A) :
    FailsWith (x.mapError f) fun fault => ∃ inner, A inner ∧ fault = f inner := by
  cases x with
  | error fault => exact failsWith_error ⟨fault, hx.of_error fault rfl, rfl⟩
  | ok a => exact failsWith_ok fun _ ⟨inner, hinner, _⟩ => hx.of_ok a rfl inner hinner

/-- A fold fails with the faults of its steps. -/
theorem failsWith_foldlM {f : β → α → Except ε β} {xs : List α} {faults : α → ε → Prop}
    (h : ∀ b, ∀ x ∈ xs, FailsWith (f b x) (faults x)) (b : β) :
    FailsWith (xs.foldlM f b) fun fault => ∃ x ∈ xs, faults x fault := by
  induction xs generalizing b with
  | nil => exact failsWith_ok fun _ ⟨_, hx, _⟩ => absurd hx List.not_mem_nil
  | cons x xs ih =>
    rw [List.foldlM_cons]
    have hrest := ih fun b y hy => h b y (List.mem_cons_of_mem x hy)
    refine ((h b x List.mem_cons_self).bind hrest).congr fun fault => ?_
    exact (List.exists_mem_cons_iff (faults · fault) x xs).symm

/-- Work on a list fails as it does on an element. -/
theorem failsWith_mapM {f : α → Except ε β} {xs : List α} {faults : α → ε → Prop}
    (h : ∀ x ∈ xs, FailsWith (f x) (faults x)) :
    FailsWith (xs.mapM f) fun fault => ∃ x ∈ xs, faults x fault := by
  induction xs with
  | nil => exact failsWith_ok fun _ ⟨_, hx, _⟩ => absurd hx List.not_mem_nil
  | cons x xs ih =>
    rw [List.mapM_cons]
    have hrest := ih fun y hy => h y (List.mem_cons_of_mem x hy)
    refine ((h x List.mem_cons_self).bind fun _ => hrest.map).congr fun fault => ?_
    exact (List.exists_mem_cons_iff (faults · fault) x xs).symm

end Except

namespace Logged

variable {ε α β : Type}

/-- After any messages the work fails with these faults, or succeeds, and then there are none. -/
def Fails (work : Logged ε α) (faults : ε → Prop) : Prop :=
  ∀ log, FailsWith (work.runFrom log).1 faults

variable {x : Logged ε α} {A B : ε → Prop}

/-- Work that breaks off fails with that. -/
theorem fails_throw {fault : ε} (h : A fault) : Fails (throw fault : Logged ε α) A :=
  fun _ => failsWith_error h

/-- Work that only returns never fails. -/
theorem fails_pure (a : α) : Fails (pure a : Logged ε α) fun _ => False :=
  fun _ => failsWith_ok fun _ => id

/-- A message can always be written. -/
theorem fails_write (level : Level) (topic : Topic) (text : String) :
    Fails (write level topic text : Logged ε Unit) fun _ => False :=
  fun _ => failsWith_ok fun _ => id

/-- The faults may be described in other words. -/
theorem Fails.congr (hx : Fails x A) (h : ∀ fault, A fault ↔ B fault) : Fails x B :=
  fun log => (hx log).congr h

/-- A sequence fails as one of its parts does. -/
theorem Fails.bind {f : α → Logged ε β} (hx : Fails x A) (hf : ∀ a, Fails (f a) B) :
    Fails (x >>= f) fun fault => A fault ∨ B fault := by
  intro log
  have hresult := hx log
  rw [runFrom_bind]
  revert hresult
  rcases x.runFrom log with ⟨fault | a, between⟩
  · exact fun hresult => failsWith_error (Or.inl (hresult.of_error fault rfl))
  · intro hresult
    have hA := hresult.of_ok a rfl
    exact (hf a between).congr fun fault => (or_iff_right (hA fault)).symm

/-- Work after which nothing fails. -/
theorem Fails.before {f : α → Logged ε β} (hx : Fails x A) (hf : ∀ a, Fails (f a) fun _ => False) :
    Fails (x >>= f) A :=
  (hx.bind hf).congr fun _ => iff_of_eq (or_false _)

/-- Work before which nothing fails. -/
theorem Fails.after {f : α → Logged ε β} (hx : Fails x fun _ => False)
    (hf : ∀ a, Fails (f a) B) : Fails (x >>= f) B :=
  (hx.bind hf).congr fun _ => iff_of_eq (false_or _)

/-- A message and a result. -/
theorem fails_write_pure (level : Level) (topic : Topic) (text : String) (a : α) :
    Fails (do write level topic text; return a : Logged ε α) fun _ => False :=
  (fails_write level topic text).after fun _ => fails_pure a

/-- A fold whose steps never fail. -/
theorem runFrom_foldlM {f : β → α → Logged ε β} {g : β → α → β}
    (h : ∀ b x log, ((f b x).runFrom log).1 = .ok (g b x)) (xs : List α) (b : β) (log : Log) :
    ((xs.foldlM f b).runFrom log).1 = .ok (xs.foldl g b) := by
  induction xs generalizing b log with
  | nil => rfl
  | cons x xs ih =>
    have hstep := h b x log
    rw [List.foldlM_cons, runFrom_bind, List.foldl_cons]
    revert hstep
    rcases (f b x).runFrom log with ⟨fault | b', between⟩
    · exact nofun
    · intro hstep
      rw [← Except.ok.inj hstep]
      exact ih b' between

/-- Work on a list fails as it does on an element. -/
theorem fails_filterMapM {f : α → Logged ε (Option β)} {xs : List α} (faults : α → ε → Prop)
    (h : ∀ x ∈ xs, Fails (f x) (faults x)) :
    Fails (xs.filterMapM f) fun fault => ∃ x ∈ xs, faults x fault := by
  induction xs with
  | nil => exact fun _ => failsWith_ok fun _ ⟨_, hx, _⟩ => absurd hx List.not_mem_nil
  | cons x xs ih =>
    have hrest := ih fun y hy => h y (List.mem_cons_of_mem x hy)
    have hall : Fails ((x :: xs).filterMapM f) fun fault =>
        faults x fault ∨ ∃ y ∈ xs, faults y fault := by
      rw [List.filterMapM_cons]
      refine (h x List.mem_cons_self).bind fun found => ?_
      cases found with
      | none => exact hrest
      | some y => exact hrest.before fun ys => fails_pure _
    exact hall.congr fun fault => (List.exists_mem_cons_iff (faults · fault) x xs).symm

end Logged

end RouteAtlas
