import RouteAtlas.Proofs.Mock.Conforming

/-!
# The values of a union

A value for a type by its name alone follows from one number and one text of the source. A source can be
scripted so that it first leads to any member of a union and then yields that number, so the values of a
union are just the values of its members (`mayGive_generate_of_members`).
-/

namespace RouteAtlas.Mock

open RouteAtlas.Api RouteAtlas.Document RouteAtlas.Syntax RouteAtlas.Text

namespace Gen

variable {α β : Type} {g : Gen α}

/-- What is returned without a draw is the only value that may be given. -/
theorem mayGive_pure_iff {a b : α} : MayGive (pure a) b ↔ b = a := by
  refine ⟨?_, ?_⟩
  · rintro ⟨s, s', hrun⟩
    exact (Except.ok.inj (Prod.mk.inj hrun).1).symm
  · rintro rfl
    exact ⟨{}, {}, rfl⟩

/-- An element is taken by the next number. -/
theorem runFrom_element (xs : List String) (s : Source) :
    (Gen.element xs).runFrom s =
      match xs[s.draw.1 % xs.length]? with
      | some x => (.ok x, s.draw.2)
      | none => (.error .emptyChoice, s.draw.2) := by
  have hdraw : Gen.draw.runFrom s = (.ok s.draw.1, s.draw.2) := rfl
  unfold Gen.element
  rw [runFrom_bind, hdraw]
  dsimp only
  cases xs[s.draw.1 % xs.length]? <;> rfl

/-- The generator never fails, and its value follows from the next number and the number of the next
text. -/
def ReadsOnce (g : Gen α) : Prop :=
  ∃ f : Nat → Nat → α, ∀ s : Source, ∃ s', g.runFrom s = (.ok (f s.draw.1 s.texts), s')

/-- Nothing needs to be read to return a value. -/
theorem readsOnce_pure (a : α) : ReadsOnce (pure a) := ⟨fun _ _ => a, fun s => ⟨s, rfl⟩⟩

/-- A draw reads the next number. -/
theorem readsOnce_draw : ReadsOnce Gen.draw := ⟨fun n _ => n, fun s => ⟨s.draw.2, rfl⟩⟩

/-- A text reads its number. -/
theorem readsOnce_nextText : ReadsOnce Gen.nextText := ⟨fun _ k => k, fun s => ⟨s.nextText.2, rfl⟩⟩

/-- A value made of what such a generator gives. -/
theorem ReadsOnce.map (hg : ReadsOnce g) (f : α → β) : ReadsOnce (do return f (← g)) := by
  obtain ⟨value, hrun⟩ := hg
  refine ⟨fun n k => f (value n k), fun s => ?_⟩
  obtain ⟨s', hs'⟩ := hrun s
  exact ⟨s', by rw [runFrom_bind, hs']; rfl⟩

/-- A choice reads what the part that is taken does. -/
theorem readsOnce_ite {c : Prop} [Decidable c] {g' : Gen α} (h : ReadsOnce g) (h' : ReadsOnce g') :
    ReadsOnce (if c then g else g') := by
  split
  · exact h
  · exact h'

/-- Whatever comes first in a choice, such a generator can still give each of its values after it. -/
theorem ReadsOnce.exists_run_after {a : α} (hg : ReadsOnce g) (ha : MayGive g a) (first : Nat) :
    ∃ s : Source, s.draw.1 = first ∧ ∃ s', g.runFrom s.draw.2 = (.ok a, s') := by
  obtain ⟨value, hrun⟩ := hg
  obtain ⟨s, s', hs⟩ := ha
  obtain ⟨_, hvalue⟩ := hrun s
  obtain rfl : value s.draw.1 s.texts = a :=
    Except.ok.inj (Prod.mk.inj (hvalue.symm.trans hs)).1
  -- the script leads to the choice and then to the number that the value was made of
  exact ⟨{ script := [first, s.draw.1], texts := s.texts }, rfl, hrun _⟩

end Gen

open Gen

/-- The value for a type's name is settled by one number and one text. -/
theorem readsOnce_mockForType (typeName : String) : ReadsOnce (mockForType typeName) := by
  have hmoment : ReadsOnce mockMoment := readsOnce_nextText.map _
  have htext (kind : String) : ReadsOnce (mockText kind) := (readsOnce_nextText.map _).map _
  have hseveral (kind : String) (count : Nat) : ReadsOnce (Gen.several kind count) :=
    readsOnce_nextText.map _
  have hbetween (low high : Nat) : ReadsOnce (Gen.between low high) := readsOnce_draw.map _
  have hbool : ReadsOnce Gen.bool := readsOnce_draw.map _
  unfold mockForType
  split
  · exact readsOnce_pure _
  · exact readsOnce_ite (readsOnce_pure _) <| readsOnce_ite ((hseveral _ _).map _) <|
      readsOnce_ite (hbool.map _) <| readsOnce_ite ((hbetween _ _).map _) <|
      readsOnce_ite hmoment <| readsOnce_ite (htext _) (htext _)

/-- The values of a union are the values of its members. -/
theorem mayGive_generate_of_members {t : TypeShape} {members : List String} (hi : t.items = none)
    (hu : t.unionTypes = some members) (hint : Option String) (v : Value) :
    MayGive (generate hint t) v ↔ ∃ member ∈ members, MayGive (mockForType member) v := by
  rw [generate_of_members hint hi hu]
  constructor
  · rintro ⟨s, s', hrun⟩
    rw [runFrom_bind, runFrom_element] at hrun
    cases hmember : members[s.draw.1 % members.length]? with
    | none =>
      rw [hmember] at hrun
      cases hrun
    | some member =>
      rw [hmember] at hrun
      exact ⟨member, List.mem_of_getElem? hmember, s.draw.2, s', hrun⟩
  · rintro ⟨member, hmember, hv⟩
    obtain ⟨i, hi, rfl⟩ := List.getElem_of_mem hmember
    obtain ⟨s, hfirst, s', hrun⟩ := (readsOnce_mockForType members[i]).exists_run_after hv i
    refine ⟨s, s', ?_⟩
    rw [runFrom_bind, runFrom_element, hfirst, Nat.mod_eq_of_lt hi, List.getElem?_eq_getElem hi]
    exact hrun

end RouteAtlas.Mock
