import RouteAtlas.Collection.SampleCollection
import RouteAtlas.Options.Options
import RouteAtlas.Proofs.Mock.Draws
import RouteAtlas.Proofs.Oblivious

/-!
# Seeded sources

What a seeded source gives follows from its seed. A script that the source holds besides is never read,
so generators and samples are oblivious of it, and options with a seed give one collection whatever
else happens (`ofControllers_of_seed`).
-/

namespace RouteAtlas.Mock

open RouteAtlas.Api RouteAtlas.Document RouteAtlas.Text

variable {α β : Type}

/-- The generator does not see the script of a seeded source. -/
abbrev Gen.Seeded (g : Gen α) : Prop := Oblivious Source.SameSeed g

namespace Gen

/-- Nothing is seen without a draw. -/
theorem seeded_pure (a : α) : Seeded (pure a) := oblivious_pure a

/-- A draw does not see the script. -/
theorem seeded_draw : Seeded Gen.draw := fun _ _ h =>
  (sourceLaws.sameSeed_draw h).imp_left (congrArg Except.ok)

/-- A text does not see the script. -/
theorem seeded_nextText : Seeded Gen.nextText := fun _ _ h =>
  (sourceLaws.sameSeed_nextText h).imp_left (congrArg Except.ok)

/-- A value made of what a generator gives. -/
theorem Seeded.map {g : Gen α} (hg : Seeded g) (f : α → β) : Seeded (do return f (← g)) :=
  hg.bind fun a => seeded_pure (f a)

/-- A number between bounds does not see the script. -/
theorem seeded_between (low high : Nat) : Seeded (Gen.between low high) := seeded_draw.map _

/-- A truth value does not see the script. -/
theorem seeded_bool : Seeded Gen.bool := seeded_draw.map _

/-- A numbered text does not see the script. -/
theorem seeded_numbered (kind : String) : Seeded (Gen.numbered kind) := seeded_nextText.map _

/-- Texts that share a number do not see the script. -/
theorem seeded_several (kind : String) (count : Nat) : Seeded (Gen.several kind count) :=
  seeded_nextText.map _

/-- A choice of an element does not see the script. -/
theorem seeded_element (xs : List String) : Seeded (Gen.element xs) := by
  refine seeded_draw.bind fun n => ?_
  split
  · exact seeded_pure _
  · exact oblivious_throw _

/-- A name does not see the script. -/
theorem seeded_personName : Seeded Gen.personName := by
  refine seeded_nextText.bind fun k => ?_
  intro s t h
  refine ⟨?_, h⟩
  show Except.ok s!"name{k} {s.locale}" = Except.ok s!"name{k} {t.locale}"
  rw [sourceLaws.sameSeed_locale h]

end Gen

open Gen

/-! ## Values -/

/-- A moment does not see the script. -/
theorem seeded_mockMoment : Seeded mockMoment := seeded_nextText.map _

/-- A text of a kind does not see the script. -/
theorem seeded_mockText (kind : String) : Seeded (mockText kind) := (seeded_numbered kind).map _

/-- The value for a type's name does not see the script. -/
theorem seeded_mockForType (typeName : String) : Seeded (mockForType typeName) := by
  unfold mockForType
  split
  · exact seeded_pure _
  · exact oblivious_ite (seeded_pure _) <| oblivious_ite ((seeded_several _ _).map _) <|
      oblivious_ite (seeded_bool.map _) <| oblivious_ite ((seeded_between _ _).map _) <|
      oblivious_ite seeded_mockMoment <| oblivious_ite (seeded_mockText _) (seeded_mockText _)

/-- The value for a property's name does not see the script. -/
theorem seeded_mockForName (name typeName : String) : Seeded (mockForName name typeName) := by
  unfold mockForName
  exact oblivious_ite (seeded_mockText _) <| oblivious_ite (seeded_personName.map _) <|
    oblivious_ite (seeded_mockText _) <| oblivious_ite (seeded_mockText _) <|
    oblivious_ite (seeded_mockText _) <| oblivious_ite (seeded_mockText _) <|
    oblivious_ite (seeded_mockText _) <| oblivious_ite ((seeded_between _ _).map _) <|
    oblivious_ite ((seeded_between _ _).map _) <| oblivious_ite seeded_mockMoment <|
    oblivious_ite ((seeded_several _ _).map _) <| oblivious_ite ((seeded_several _ _).map _) <|
    seeded_mockForType typeName

/-- The value of a leaf does not see the script. -/
theorem seeded_mockLeaf (typeName : String) (hint : Option String) :
    Seeded (mockLeaf typeName hint) := by
  unfold mockLeaf
  split
  · split
    · exact seeded_mockForType typeName
    · exact seeded_mockForName _ typeName
  · exact seeded_mockForType typeName

/-- Repeating adds no sight. -/
theorem seeded_repeatGen {g : Gen Value} (hg : Seeded g) (n : Nat) : Seeded (repeatGen g n) := by
  induction n with
  | zero => exact seeded_pure []
  | succ n ih => exact hg.bind fun v => ih.map _

mutual

/-- No mock value sees the script of a seeded source. -/
theorem seeded_generate (hint : Option String) : (t : TypeShape) → Seeded (generate hint t)
  | ⟨_, _, _, some items, _, _⟩ => by
    rw [generate]
    exact (seeded_between 1 5).bind fun count =>
      (seeded_repeatGen (seeded_generate hint items) count).map _
  | ⟨_, _, _, none, _, some members⟩ => by
    rw [generate]
    exact (seeded_element members).bind seeded_mockForType
  | ⟨_, _, _, none, some properties, none⟩ => by
    rw [generate]
    exact (seeded_generateFields properties).map _
  | ⟨text, _, _, none, none, none⟩ => by
    rw [generate]
    exact seeded_mockLeaf text hint

/-- The same for the values of properties. -/
theorem seeded_generateFields : (fields : List (String × TypeShape)) → Seeded (generateFields fields)
  | [] => by
    rw [generateFields]
    exact seeded_pure []
  | (name, t) :: r => by
    have hrest := seeded_generateFields r
    rw [generateFields_cons]
    refine (oblivious_ite seeded_bool (seeded_pure true)).bind fun present => ?_
    exact oblivious_ite ((seeded_generate (some name) t).bind fun v => hrest.map _) hrest

end

end RouteAtlas.Mock

namespace RouteAtlas.Collection

open RouteAtlas.Api RouteAtlas.Mock RouteAtlas.Routing

/-! ## Samples -/

/-- A mock value inside a request does not see the script. -/
theorem oblivious_mock {α : Type} {g : Gen α} (hg : Gen.Seeded g) :
    Oblivious Source.SameSeed (Sampling.mock g) := hg.of_mapError fun _ => rfl

/-- A sample body does not see the script. -/
theorem oblivious_sampleBody (e : Endpoint) :
    Oblivious Source.SameSeed (SampleRequest.sampleBody e) := by
  unfold SampleRequest.sampleBody
  split
  · exact oblivious_pure none
  · next t _ =>
    split
    · refine (oblivious_mock (seeded_generate none t)).bind fun v => ?_
      exact oblivious_ite (oblivious_throw _) (oblivious_pure (some v))
    · exact oblivious_pure none

/-- A sample query does not see the script. -/
theorem oblivious_sampleParameter (p : Parameter) :
    Oblivious Source.SameSeed (SampleRequest.sampleParameter p) := by
  unfold SampleRequest.sampleParameter
  split
  · exact oblivious_pure []
  · split
    · refine (oblivious_mock (seeded_generate none p.type)).bind fun v => ?_
      split
      · exact oblivious_lift _
      · exact oblivious_throw _
    · exact (oblivious_mock (seeded_generate (some p.name) p.type)).bind fun v => oblivious_lift _

/-- A sample request does not see the script. -/
theorem oblivious_ofRoute (route : Route) :
    Oblivious Source.SameSeed (SampleRequest.ofRoute route) := by
  unfold SampleRequest.ofRoute
  refine (oblivious_sampleBody route.endpoint).bind fun body => ?_
  refine (oblivious_mapM fun p _ => oblivious_sampleParameter p).bind fun query => ?_
  exact oblivious_pure _

/-- A sample collection does not see the script. -/
theorem oblivious_ofControllers (info : CollectionInfo) (controllers : List Controller) :
    Oblivious Source.SameSeed (SampleCollection.ofControllers info controllers) := by
  unfold SampleCollection.ofControllers
  refine (oblivious_mapM fun c _ => ?_).bind fun folders => oblivious_pure _
  unfold Folder.ofController
  exact (oblivious_mapM fun route _ => oblivious_ofRoute route).bind fun requests => oblivious_pure _

/-- Sources for options with a seed differ in their scripts at most. -/
theorem sameSeed_randomSource {o : Options} (h : o.seed.isSome = true) (script script' : List Nat) :
    (o.randomSource script).SameSeed (o.randomSource script') := by
  obtain ⟨n, hn⟩ := Option.isSome_iff_exists.1 h
  unfold Options.randomSource
  rw [hn]
  exact ⟨rfl, rfl⟩

/-- Options with a seed give one collection. -/
theorem ofControllers_of_seed {o : Options} (h : o.seed.isSome = true) (info : CollectionInfo)
    (controllers : List Controller) (script script' : List Nat) :
    ((SampleCollection.ofControllers info controllers).run.run (o.randomSource script)).1 =
      ((SampleCollection.ofControllers info controllers).run.run (o.randomSource script')).1 :=
  (oblivious_ofControllers info controllers _ _ (sameSeed_randomSource h script script')).1

end RouteAtlas.Collection
