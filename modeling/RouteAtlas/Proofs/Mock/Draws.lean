import RouteAtlas.Mock.Generator
import RouteAtlas.Proofs.Fallible

/-!
# Generators and the numbers they draw

`Gen.Leads` speaks about the runs of a generator from the sources that meet a condition. Two cases of it
are used: `Gen.Gives` says what a generator gives from every source, and `Gen.Follows` what it gives if
the source yields certain numbers, which it uses up. There is a source for every list of numbers, so what
follows from some numbers does happen. This and all else that is relied on of sources is collected in
`SourceLaws`.
-/

namespace RouteAtlas.Mock

/-! ## Sources -/

/-- The next numbers of the source are these. -/
def Source.Yields (s : Source) : List Nat → Prop
  | [] => True
  | n :: ns => s.draw.1 = n ∧ s.draw.2.Yields ns

/-- Taking a text leaves the numbers as they are. -/
theorem Source.Yields.nextText {s : Source} {ns : List Nat} (h : s.Yields ns) :
    s.nextText.2.Yields ns := by
  -- the counter of texts has no part in a draw, so the two commute
  induction ns generalizing s with
  | nil => trivial
  | cons n ns ih =>
    have hdraw : s.nextText.2.draw.1 = s.draw.1 ∧ s.nextText.2.draw.2 = s.draw.2.nextText.2 := by
      unfold Source.draw Source.nextText
      cases s.seed <;> exact ⟨rfl, rfl⟩
    exact ⟨hdraw.1.trans h.1, hdraw.2 ▸ ih h.2⟩

/-- A source that is scripted with a list yields the rest of the list. -/
theorem yields_drop (ns : List Nat) (k : Nat) :
    ({ script := ns, draws := k } : Source).Yields (ns.drop k) := by
  induction hn : ns.length - k generalizing k with
  | zero =>
    rw [List.drop_eq_nil_of_le (by omega)]
    trivial
  | succ n ih =>
    have hk : k < ns.length := by omega
    rw [List.drop_eq_getElem_cons hk]
    refine ⟨?_, ih (k + 1) (by omega)⟩
    have hne : ns.isEmpty = false := by
      rw [List.isEmpty_eq_false_iff]
      exact List.ne_nil_of_length_pos (by omega)
    simp [Source.draw, hne, Nat.mod_eq_of_lt hk, hk]

/-- The sources have a seed in common and differ in their scripts at most. -/
def Source.SameSeed (s t : Source) : Prop := s.seed.isSome = true ∧ t = { s with script := t.script }

/-- What is relied on of sources with states `σ`, which are functions of their state. -/
structure SourceLaws {σ : Type} (draw nextText : σ → Nat × σ) (locale : σ → String)
    (Yields : σ → List Nat → Prop) (SameSeed : σ → σ → Prop) : Prop where
  /-- Numbers come one after the other. -/
  yields_cons : ∀ {s n ns}, Yields s (n :: ns) ↔ (draw s).1 = n ∧ Yields (draw s).2 ns
  /-- Any numbers can come next. -/
  exists_yields : ∀ ns, ∃ s, Yields s ns
  /-- Taking a text leaves the numbers as they are. -/
  yields_nextText : ∀ {s ns}, Yields s ns → Yields (nextText s).2 ns
  /-- A seed settles the numbers. -/
  sameSeed_draw : ∀ {s t}, SameSeed s t → (draw s).1 = (draw t).1 ∧ SameSeed (draw s).2 (draw t).2
  /-- A seed settles the numbers of texts. -/
  sameSeed_nextText : ∀ {s t}, SameSeed s t →
    (nextText s).1 = (nextText t).1 ∧ SameSeed (nextText s).2 (nextText t).2
  /-- Sources with a seed in common have one locale. -/
  sameSeed_locale : ∀ {s t}, SameSeed s t → locale s = locale t

/-- The laws hold of sources. -/
theorem sourceLaws :
    SourceLaws Source.draw Source.nextText Source.locale Source.Yields Source.SameSeed where
  yields_cons := Iff.rfl
  exists_yields ns := ⟨{ script := ns }, yields_drop ns 0⟩
  yields_nextText := Source.Yields.nextText
  sameSeed_draw := by
    rintro s t ⟨hseed, ht⟩
    obtain ⟨n, hn⟩ := Option.isSome_iff_exists.1 hseed
    rw [ht]
    unfold Source.draw
    rw [hn]
    exact ⟨rfl, rfl, rfl⟩
  sameSeed_nextText := by
    rintro s t ⟨hseed, ht⟩
    rw [ht]
    exact ⟨rfl, hseed, rfl⟩
  sameSeed_locale := by
    rintro s t ⟨_, ht⟩
    rw [ht]

/-! ## Runs -/

namespace Gen

variable {α β : Type}

/-- A sequence runs its second part from where the first one left the source. -/
theorem runFrom_bind (g : Gen α) (f : α → Gen β) (s : Source) :
    (g >>= f).runFrom s =
      match g.runFrom s with
      | (.ok a, s') => (f a).runFrom s'
      | (.error fault, s') => (.error fault, s') := by
  unfold runFrom
  rw [run_bind]
  rcases g.run.run s with ⟨_ | _, s'⟩ <;> rfl

/-- From every source that meets `A` the generator gives a value that meets `Q` and leaves a source that
meets `B`, unless it fails, and it may fail only if `E` holds. -/
def Leads (A : Source → Prop) (g : Gen α) (Q : α → Prop) (B : Source → Prop) (E : Prop) : Prop :=
  ∀ s, A s → match g.runFrom s with
    | (.ok a, s') => Q a ∧ B s'
    | (.error _, _) => E

section Leads

variable {A B C : Source → Prop} {Q R : α → Prop} {E : Prop}

/-- Work without a draw leaves the source as it is. -/
theorem leads_pure {a : α} (ha : Q a) (h : ∀ s, A s → B s) : Leads A (pure a) Q B E :=
  fun s hs => ⟨ha, h s hs⟩

/-- The second part of a sequence may rely on what the first one gives and leaves. -/
theorem Leads.bind {g : Gen α} {f : α → Gen β} {R : β → Prop} (hg : Leads A g Q B E)
    (hf : ∀ a, Q a → Leads B (f a) R C E) : Leads A (g >>= f) R C E := by
  intro s hs
  have hrun := hg s hs
  rw [runFrom_bind]
  revert hrun
  rcases g.runFrom s with ⟨fault | a, s'⟩
  · exact id
  · rintro ⟨ha, hs'⟩
    exact hf a ha s' hs'

/-- Less may be said of the value. -/
theorem Leads.mono {g : Gen α} (hg : Leads A g Q B E) (h : ∀ a, Q a → R a) : Leads A g R B E := by
  intro s hs
  have hrun := hg s hs
  revert hrun
  rcases g.runFrom s with ⟨fault | a, s'⟩
  · exact id
  · exact fun hrun => ⟨h a hrun.1, hrun.2⟩

/-- A draw gives the next number. -/
theorem leads_draw {Q : Nat → Prop} (h : ∀ s, A s → Q s.draw.1 ∧ B s.draw.2) :
    Leads A Gen.draw Q B E := h

/-- A text gives the number of the next text. -/
theorem leads_nextText {Q : Nat → Prop} (hQ : ∀ n, Q n) (h : ∀ s, A s → B s.nextText.2) :
    Leads A Gen.nextText Q B E := fun s hs => ⟨hQ _, h s hs⟩

end Leads

/-- From every source the generator gives such a value. -/
def Gives (g : Gen α) (Q : α → Prop) : Prop := Leads (fun _ => True) g Q (fun _ => True) False

/-- From a source that yields these numbers next the generator uses them up and gives such a value,
unless it fails. -/
def Follows (ns : List Nat) (g : Gen α) (Q : α → Prop) : Prop :=
  ∀ rest, Leads (·.Yields (ns ++ rest)) g Q (·.Yields rest) True

section Rules

variable {g : Gen α} {f : α → Gen β} {Q : α → Prop} {R : β → Prop} {ns ms : List Nat}

/-- What is returned without a draw is given from every source. -/
theorem gives_pure {a : α} (ha : Q a) : Gives (pure a) Q := leads_pure ha fun _ h => h

/-- What is returned without a draw uses up no numbers. -/
theorem follows_pure {a : α} (ha : Q a) : Follows [] (pure a) Q := fun _ => leads_pure ha fun _ h => h

/-- A sequence gives what its second part does. -/
theorem Gives.bind (hg : Gives g Q) (hf : ∀ a, Q a → Gives (f a) R) : Gives (g >>= f) R :=
  Leads.bind hg hf

/-- A sequence uses up the numbers of both parts. -/
theorem Follows.bind (hg : Follows ns g Q) (hf : ∀ a, Q a → Follows ms (f a) R) :
    Follows (ns ++ ms) (g >>= f) R := by
  intro rest
  rw [List.append_assoc]
  exact (hg (ms ++ rest)).bind fun a ha => hf a ha rest

/-- Less may be said of the value. -/
theorem Follows.mono {R : α → Prop} (hg : Follows ns g Q) (h : ∀ a, Q a → R a) : Follows ns g R :=
  fun rest => (hg rest).mono h

/-- A failure leaves nothing to be said. -/
theorem follows_throw (fault : MockFault) : Follows [] (throw fault : Gen α) Q := fun _ _ _ => trivial

/-- A draw never fails. -/
theorem gives_draw : Gives Gen.draw fun _ => True := leads_draw fun _ _ => ⟨trivial, trivial⟩

/-- A draw gives the number that comes next. -/
theorem follows_draw (n : Nat) : Follows [n] Gen.draw (· = n) :=
  fun _ => leads_draw fun _ h => sourceLaws.yields_cons.1 h

/-- An element of a list that has some is given. -/
theorem gives_element {xs : List String} (h : xs ≠ []) : Gives (Gen.element xs) (· ∈ xs) := by
  refine gives_draw.bind fun n _ => ?_
  have hlt : n % xs.length < xs.length := Nat.mod_lt n (List.length_pos_iff.2 h)
  rw [List.getElem?_eq_getElem hlt]
  exact gives_pure (List.getElem_mem hlt)

/-- The next number says which element is taken. -/
theorem follows_element (xs : List String) (n : Nat) :
    Follows [n] (Gen.element xs) (xs[n % xs.length]? = some ·) := by
  change Follows ([n] ++ []) _ _
  refine (follows_draw n).bind fun m hm => ?_
  rw [hm]
  cases xs[n % xs.length]? with
  | none => exact follows_throw .emptyChoice
  | some x => exact follows_pure rfl

/-- A choice gives what both of its parts do. -/
theorem gives_ite {c : Prop} [Decidable c] {g' : Gen α} (h : Gives g Q) (h' : Gives g' Q) :
    Gives (if c then g else g') Q := by
  split
  · exact h
  · exact h'

/-- What a generator gives from every source. -/
theorem Gives.exists_run (h : Gives g Q) (s : Source) :
    ∃ a s', g.runFrom s = (.ok a, s') ∧ Q a := by
  have hrun := h s trivial
  rcases hg : g.runFrom s with ⟨fault | a, s'⟩
  · rw [hg] at hrun
    exact hrun.elim
  · rw [hg] at hrun
    exact ⟨a, s', rfl, hrun.1⟩

/-- The generator gives this value from some source. -/
def MayGive (g : Gen α) (a : α) : Prop := ∃ s s', g.runFrom s = (.ok a, s')

/-- What is given from every source may be given. -/
theorem Gives.mayGive (h : Gives g Q) : Gives g fun a => Q a ∧ MayGive g a := by
  intro s hs
  have hrun := h s hs
  rcases hg : g.runFrom s with ⟨fault | a, s'⟩
  · rw [hg] at hrun
    exact hrun
  · rw [hg] at hrun
    exact ⟨⟨hrun.1, s, s', hg⟩, trivial⟩

/-- What follows from some numbers happens from some source. -/
theorem Follows.exists_run (h : Follows ns g Q) :
    ∃ s, ∀ a s', g.runFrom s = (.ok a, s') → Q a := by
  obtain ⟨s, hs⟩ := sourceLaws.exists_yields ns
  refine ⟨s, fun a s' hrun => ?_⟩
  have hlead := h [] s (by rwa [List.append_nil])
  rw [hrun] at hlead
  exact hlead.1

end Rules

/-- The generator gives such values from every source and can be made to use up certain numbers. -/
def Produces (g : Gen α) (Q : α → Prop) : Prop := Gives g Q ∧ ∃ ns, Follows ns g Q

section Produces

variable {g : Gen α} {f : α → β} {Q : α → Prop} {R : β → Prop}

/-- What is returned without a draw is produced. -/
theorem produces_pure {a : α} (ha : Q a) : Produces (pure a) Q :=
  ⟨gives_pure ha, [], follows_pure ha⟩

/-- A choice produces what the part that is taken does. -/
theorem produces_ite {c : Prop} [Decidable c] {g' : Gen α} (h : c → Produces g Q)
    (h' : ¬ c → Produces g' Q) : Produces (if c then g else g') Q := by
  split
  · next hc => exact h hc
  · next hc => exact h' hc

/-- A value made of what a generator gives. -/
theorem Produces.map (hg : Produces g Q) (hf : ∀ a, Q a → R (f a)) :
    Produces (do return f (← g)) R := by
  obtain ⟨hgives, ns, hfollows⟩ := hg
  exact ⟨hgives.bind fun a ha => gives_pure (hf a ha), ns ++ [],
    hfollows.bind fun a ha => follows_pure (hf a ha)⟩

/-- A draw produces a number. -/
theorem produces_draw : Produces Gen.draw fun _ => True :=
  ⟨gives_draw, [0], fun _ => leads_draw fun _ h => ⟨trivial, (sourceLaws.yields_cons.1 h).2⟩⟩

/-- A text has a number. -/
theorem produces_nextText : Produces Gen.nextText fun _ => True :=
  ⟨leads_nextText (fun _ => trivial) fun _ _ => trivial, [],
    fun _ => leads_nextText (fun _ => trivial) fun _ h => sourceLaws.yields_nextText h⟩

/-- A number between bounds is produced. -/
theorem produces_between {low high : Nat} (h : low ≤ high) :
    Produces (Gen.between low high) fun n => low ≤ n ∧ n ≤ high := by
  refine produces_draw.map fun n _ => ?_
  have hlt : n % (high - low + 1) < high - low + 1 := Nat.mod_lt n (Nat.succ_pos _)
  omega

/-- A truth value is produced. -/
theorem produces_bool : Produces Gen.bool fun _ => True := produces_draw.map fun _ _ => trivial

/-- A numbered text is produced. -/
theorem produces_numbered (kind : String) : Produces (Gen.numbered kind) fun _ => True :=
  produces_nextText.map fun _ _ => trivial

/-- Texts that share a number are produced. -/
theorem produces_several (kind : String) (count : Nat) :
    Produces (Gen.several kind count) fun _ => True := produces_nextText.map fun _ _ => trivial

/-- A name is produced. -/
theorem produces_personName : Produces Gen.personName fun _ => True := by
  obtain ⟨hgives, ns, hfollows⟩ := produces_nextText
  -- reading the locale leaves the source as it is
  exact ⟨hgives.bind fun _ _ s _ => ⟨trivial, trivial⟩, ns ++ [],
    hfollows.bind fun _ _ _ s hs => ⟨trivial, hs⟩⟩

end Produces

-- from here on a generator is taken apart by these rules, never by running it
attribute [irreducible] Leads

end Gen

/-- A property that may be left out is there if the draw says so. -/
theorem generateFields_cons (name : String) (t : Api.TypeShape)
    (fields : List (String × Api.TypeShape)) : generateFields ((name, t) :: fields) =
      (if t.isOptional then Gen.bool else pure true) >>= fun present =>
        if present then do
          let v ← generate (some name) t
          return (name, v) :: (← generateFields fields)
        else generateFields fields := by
  rw [generateFields]
  split <;> rfl

end RouteAtlas.Mock
