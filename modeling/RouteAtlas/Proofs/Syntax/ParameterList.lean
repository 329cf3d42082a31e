import RouteAtlas.Syntax.ExprGrammar

/-!
# Parameter lists as they are written

A parameter list is written in five parts: parameters before the slash, further ones, a star, parameters
after it, and one for the remaining keywords. A syntax tree keeps names and defaults apart, the defaults
of the first two parts together and without gaps. Declarations make a parameter list exactly if they are
such parts (`ofDeclared_eq_some_iff`), and pairing names and defaults up again gives each parameter the
default that was written with it (`bindings_signature`).
-/

namespace RouteAtlas.Syntax

/-! ## Written parameter lists -/

/-- A parameter that takes one argument, with the default that is written with it. -/
abbrev OwnParam := Param Expr × Option Expr

/-- A parameter list by its parts, in the order in which they are written. -/
structure ParameterList where
  /-- The parameters before the slash, which is there if they are. -/
  positionalOnly : List OwnParam
  ordinary : List OwnParam
  /-- The star, alone or with the parameter that takes further positional arguments. -/
  star : Option (Option (Param Expr))
  keywordOnly : List OwnParam
  keywordRest : Option (Param Expr)

/-- Once a parameter has a default, all after it have one. -/
def DefaultsLast (ps : List OwnParam) : Prop := ps.Pairwise fun p q => p.2.isSome → q.2.isSome

instance (ps : List OwnParam) : Decidable (DefaultsLast ps) :=
  inferInstanceAs (Decidable (ps.Pairwise fun p q => p.2.isSome → q.2.isSome))

namespace ParameterList

/-- The parameters that take one argument each, in the order in which they are written. -/
def own (w : ParameterList) : List OwnParam := w.positionalOnly ++ w.ordinary ++ w.keywordOnly

/-- The declaration of a parameter that takes one argument. -/
def declareOwn (p : OwnParam) : DeclaredParam := .positional p.1 p.2

/-- The declaration of a star. -/
def declareStar : Option (Param Expr) → DeclaredParam
  | none => .star
  | some p => .rest p

/-- The slash that ends the positional-only parameters, if there are any. -/
def declaredSlash (w : ParameterList) : List DeclaredParam :=
  if w.positionalOnly.isEmpty then [] else [.slash]

/-- The declarations of a parameter list. -/
def declared (w : ParameterList) : List DeclaredParam :=
  w.positionalOnly.map declareOwn ++ w.declaredSlash ++ w.ordinary.map declareOwn ++
    w.star.toList.map declareStar ++ w.keywordOnly.map declareOwn ++
    w.keywordRest.toList.map .keywordRest

/-- A parameter list with its defaults apart. -/
def signature (w : ParameterList) : Signature Expr where
  positionalOnly := w.positionalOnly.map (·.1)
  ordinary := w.ordinary.map (·.1)
  rest := w.star.join
  keywordOnly := w.keywordOnly.map (·.1)
  keywordDefaults := w.keywordOnly.map (·.2)
  keywordRest := w.keywordRest
  defaults := (w.positionalOnly ++ w.ordinary).filterMap (·.2)

/-- The star stands alone and waits for a parameter after it. -/
def isDangling (w : ParameterList) : Bool :=
  match w.star with
  | some none => w.keywordOnly.isEmpty
  | _ => false

/-- The parts that are there are well-formed. -/
structure IsBegun (w : ParameterList) : Prop where
  defaultsLast : DefaultsLast (w.positionalOnly ++ w.ordinary)
  keywordOnly : w.star = none → w.keywordOnly = []

/-- The parameter list is well-formed: defaults come last, and parameters after a star need the star, as
a star that stands alone needs them. -/
structure IsAdmissible (w : ParameterList) : Prop extends IsBegun w where
  not_dangling : w.isDangling = false

end ParameterList

/-! ## Pairing up again -/

section Pairing

variable {ps : List OwnParam}

/-- Defaults come last in the rest of a list, too. -/
theorem DefaultsLast.tail {p : OwnParam} (h : DefaultsLast (p :: ps)) : DefaultsLast ps :=
  (List.pairwise_cons.1 h).2

/-- A parameter may follow that has a default, or any if there is none yet. -/
theorem DefaultsLast.concat {p : OwnParam} (h : DefaultsLast ps)
    (hp : ((ps.filterMap (·.2)).isEmpty || p.2.isSome) = true) : DefaultsLast (ps ++ [p]) := by
  refine List.pairwise_append.2 ⟨h, List.pairwise_singleton _ p, fun q hq r hr hdefault => ?_⟩
  rw [List.mem_singleton.1 hr]
  rcases Bool.or_eq_true_iff.1 hp with hnone | hsome
  · have hq' := List.filterMap_eq_nil_iff.1 (List.isEmpty_iff.1 hnone) q hq
    rw [hq'] at hdefault
    cases hdefault
  · exact hsome

/-- Behind a default nothing is left out. -/
theorem map_some_filterMap (h : ∀ p ∈ ps, p.2.isSome) : (ps.filterMap (·.2)).map some = ps.map (·.2) := by
  induction ps with
  | nil => rfl
  | cons p ps ih =>
    obtain ⟨hp, hps⟩ := List.forall_mem_cons.1 h
    obtain ⟨d, hd⟩ := Option.isSome_iff_exists.1 hp
    rw [List.filterMap_cons_some hd, List.map_cons, List.map_cons, ih hps, hd]

/-- Defaults without gaps, moved to the last parameters, are back at their own ones. -/
theorem zip_movedDefaults (h : DefaultsLast ps) :
    (ps.map (·.1)).zip (List.replicate (ps.length - (ps.filterMap (·.2)).length) none ++
      (ps.filterMap (·.2)).map some) = ps := by
  induction ps with
  | nil => rfl
  | cons p ps ih =>
    obtain ⟨name, default⟩ := p
    cases default with
    | none =>
      have hle : (ps.filterMap (·.2)).length ≤ ps.length := List.length_filterMap_le _ _
      rw [List.filterMap_cons_none rfl, List.length_cons, Nat.succ_sub hle, List.replicate_succ,
        List.map_cons, List.cons_append, List.zip_cons_cons, ih h.tail]
    | some d =>
      -- from here on every parameter has a default, so there is nothing to fill up
      have hall : ∀ p ∈ (name, some d) :: ps, p.2.isSome :=
        List.forall_mem_cons.2 ⟨rfl, fun q hq => (List.pairwise_cons.1 h).1 q hq rfl⟩
      have hmap := map_some_filterMap hall
      have hlength := congrArg List.length hmap
      rw [List.length_map, List.length_map] at hlength
      rw [hlength, Nat.sub_self, List.replicate_zero, List.nil_append, hmap]
      exact (List.zip_of_prod rfl rfl).symm

/-- Names and defaults of a written parameter list pair up as they were written. -/
theorem bindings_signature {w : ParameterList} (h : w.IsBegun) : w.signature.bindings = w.own := by
  have hpositional : w.signature.positional = (w.positionalOnly ++ w.ordinary).map (·.1) :=
    List.map_append.symm
  have hpairs := zip_movedDefaults h.defaultsLast
  have hkeyword : w.signature.keywordOnly.zip w.signature.keywordDefaults = w.keywordOnly :=
    (List.zip_of_prod rfl rfl).symm
  unfold Signature.bindings Signature.positionalDefaults
  rw [hkeyword, hpositional, List.length_map]
  exact congrArg (· ++ w.keywordOnly) hpairs

end Pairing

/-! ## What declarations make -/

section Declaring

open ParameterList

variable {s : Signature Expr} {ps : List OwnParam} {rest : List DeclaredParam} {afterStar bareStar : Bool}

/-- Where a parameter with or without default may stand, and where it goes. -/
theorem add?_own (s : Signature Expr) (afterStar : Bool) (p : OwnParam) :
    s.add? afterStar (declareOwn p) =
      if s.keywordRest.isSome then none
      else if afterStar then
        some { s with
          keywordOnly := s.keywordOnly ++ [p.1], keywordDefaults := s.keywordDefaults ++ [p.2] }
      else if s.defaults.isEmpty || p.2.isSome then
        some { s with ordinary := s.ordinary ++ [p.1], defaults := s.defaults ++ p.2.toList }
      else none := by
  obtain ⟨p, default⟩ := p
  cases default <;> simp [declareOwn, Signature.add?]

/-- A parameter that may be added is added first. -/
theorem ofDeclared_own {s' : Signature Expr} {p : OwnParam}
    (h : s.add? afterStar (declareOwn p) = some s') :
    Signature.ofDeclared s afterStar bareStar (declareOwn p :: rest) =
      Signature.ofDeclared s' afterStar false rest := by
  rw [Signature.ofDeclared, h]
  rfl

/-- Ordinary parameters with their defaults last are added in order. -/
theorem ofDeclared_ordinary (hkeywords : s.keywordRest = none) (hps : DefaultsLast ps)
    (hs : s.defaults ≠ [] → ∀ p ∈ ps, p.2.isSome) :
    Signature.ofDeclared s false false (ps.map declareOwn ++ rest) =
      Signature.ofDeclared { s with
        ordinary := s.ordinary ++ ps.map (·.1), defaults := s.defaults ++ ps.filterMap (·.2) }
        false false rest := by
  induction ps generalizing s with
  | nil => simp
  | cons p ps ih =>
    have hstands : (s.defaults.isEmpty || p.2.isSome) = true := by
      by_cases hempty : s.defaults = []
      · simp [hempty]
      · simp [hs hempty p List.mem_cons_self]
    have hadd : s.add? false (declareOwn p) = some { s with
        ordinary := s.ordinary ++ [p.1], defaults := s.defaults ++ p.2.toList } := by
      rw [add?_own, if_neg (by simp [hkeywords]), if_neg Bool.false_ne_true, if_pos hstands]
    rw [List.map_cons, List.cons_append, ofDeclared_own hadd]
    refine (ih ?_ hps.tail ?_).trans ?_
    · exact hkeywords
    · intro hdefaults q hq
      by_cases hempty : s.defaults = []
      · refine (List.pairwise_cons.1 hps).1 q hq ?_
        cases hp : p.2 with
        | none => simp [hempty, hp] at hdefaults
        | some d => rfl
      · exact hs hempty q (List.mem_cons_of_mem p hq)
    · cases hp : p.2 <;> simp [hp]

/-- Parameters behind a star are added in order. -/
theorem ofDeclared_keywordOnly (hkeywords : s.keywordRest = none) :
    Signature.ofDeclared s true bareStar (ps.map declareOwn ++ rest) =
      Signature.ofDeclared { s with
        keywordOnly := s.keywordOnly ++ ps.map (·.1)
        keywordDefaults := s.keywordDefaults ++ ps.map (·.2) }
        true (bareStar && ps.isEmpty) rest := by
  induction ps generalizing s bareStar with
  | nil => simp
  | cons p ps ih =>
    have hadd : s.add? true (declareOwn p) = some { s with
        keywordOnly := s.keywordOnly ++ [p.1], keywordDefaults := s.keywordDefaults ++ [p.2] } := by
      rw [add?_own, if_neg (by simp [hkeywords]), if_pos rfl]
    rw [List.map_cons, List.cons_append, ofDeclared_own hadd]
    refine (ih ?_).trans ?_
    · exact hkeywords
    · simp

/-- The slash makes all parameters so far positional-only. -/
theorem ofDeclared_slash (w : ParameterList) (hordinary : s.ordinary = w.positionalOnly.map (·.1))
    (hpositional : s.positionalOnly = []) (hkeywords : s.keywordRest = none) :
    Signature.ofDeclared s false false (w.declaredSlash ++ rest) =
      Signature.ofDeclared { s with
        positionalOnly := w.positionalOnly.map (·.1), ordinary := [] } false false rest := by
  unfold declaredSlash
  cases hw : w.positionalOnly with
  | nil =>
    have hsame : s = { s with positionalOnly := [], ordinary := [] } := by
      cases s
      simp_all
    exact congrArg (Signature.ofDeclared · false false rest) hsame
  | cons p ps =>
    have hadd : s.add? false .slash = some { s with positionalOnly := s.ordinary, ordinary := [] } := by
      simp [Signature.add?, hordinary, hpositional, hkeywords, hw]
    rw [if_neg nofun, List.singleton_append, Signature.ofDeclared, hadd, hordinary, hw]

/-- A star is added before what stands behind it. -/
theorem ofDeclared_star (star : Option (Param Expr)) (hkeywords : s.keywordRest = none)
    (hs : s.rest = none) :
    Signature.ofDeclared s false false (declareStar star :: rest) =
      Signature.ofDeclared { s with rest := star } true star.isNone rest := by
  cases star with
  | none =>
    have hsame : s = { s with rest := none } := by
      cases s
      simp_all
    simpa [Signature.ofDeclared, declareStar, Signature.add?, hkeywords] using
      congrArg (Signature.ofDeclared · true true rest) hsame
  | some p => simp [Signature.ofDeclared, declareStar, Signature.add?, hkeywords]

/-- The parameter for all other keywords is added last. -/
theorem ofDeclared_keywordRest (keywordRest : Option (Param Expr)) (hkeywords : s.keywordRest = none) :
    Signature.ofDeclared s afterStar false (keywordRest.toList.map .keywordRest) =
      some { s with keywordRest } := by
  cases keywordRest with
  | none =>
    cases s
    simp_all [Signature.ofDeclared]
  | some p => simp [Signature.ofDeclared, Signature.add?, hkeywords]

/-- The declarations of a well-formed parameter list make its signature. -/
theorem ofDeclared_declared {w : ParameterList} (h : w.IsAdmissible) :
    Signature.ofDeclared .empty false false w.declared = some w.signature := by
  obtain ⟨hpositional, hordinary, hlate⟩ := List.pairwise_append.1 h.defaultsLast
  have hbefore : (w.positionalOnly.filterMap (·.2)) ≠ [] → ∀ p ∈ w.ordinary, p.2.isSome := by
    intro hdefaults p hp
    obtain ⟨d, hd⟩ := List.exists_mem_of_ne_nil _ hdefaults
    obtain ⟨q, hq, hqd⟩ := List.mem_filterMap.1 hd
    exact hlate q hq p hp (hqd ▸ rfl)
  unfold declared
  simp only [List.append_assoc]
  rw [ofDeclared_ordinary rfl hpositional (fun hne => absurd rfl hne),
    ofDeclared_slash w (List.nil_append _) rfl rfl, ofDeclared_ordinary rfl hordinary hbefore]
  obtain ⟨positionalOnly, ordinary, star, keywordOnly, keywordRest⟩ := w
  cases star with
  | none =>
    obtain rfl : keywordOnly = [] := h.keywordOnly rfl
    refine (ofDeclared_keywordRest keywordRest rfl).trans ?_
    simp [signature, Signature.empty]
  | some star =>
    have hdangling : (star.isNone && keywordOnly.isEmpty) = false := by
      cases star with
      | none => exact h.not_dangling
      | some p => rfl
    refine (ofDeclared_star star rfl rfl).trans ((ofDeclared_keywordOnly rfl).trans ?_)
    rw [hdangling]
    refine (ofDeclared_keywordRest keywordRest rfl).trans ?_
    simp [signature, Signature.empty]

/-- What stands after the beginning of a parameter list goes on with it. -/
structure Continues (w : ParameterList) (d : DeclaredParam) (s : Signature Expr) (afterStar bareStar : Bool)
    (w' : ParameterList) : Prop where
  begun : w'.IsBegun
  declared : w'.declared = w.declared ++ [d]
  signature : w'.signature = s
  afterStar : w'.star.isSome = afterStar
  bareStar : w'.isDangling = bareStar

/-- A parameter that may be added continues a list. -/
theorem exists_continues_own {w : ParameterList} (hw : w.IsBegun) {p : OwnParam}
    (h : w.signature.add? w.star.isSome (declareOwn p) = some s) :
    ∃ w', Continues w (declareOwn p) s w.star.isSome false w' := by
  obtain ⟨positionalOnly, ordinary, star, keywordOnly, keywordRest⟩ := w
  rw [add?_own] at h
  obtain rfl : keywordRest = none := by
    cases keywordRest with
    | none => rfl
    | some p => cases h
  rw [if_neg nofun] at h
  cases star with
  | some star =>
    obtain rfl := Option.some.inj h
    refine ⟨⟨positionalOnly, ordinary, some star, keywordOnly ++ [p], none⟩, ⟨hw.defaultsLast, nofun⟩, ?_, ?_,
      rfl, ?_⟩
    · simp [declared, declaredSlash]
    · simp [signature]
    · cases star <;> simp [isDangling]
  | none =>
    obtain rfl : keywordOnly = [] := hw.keywordOnly rfl
    rw [if_neg nofun] at h
    split at h
    · next hstands =>
      obtain rfl := Option.some.inj h
      have hlast := hw.defaultsLast.concat hstands
      rw [List.append_assoc] at hlast
      refine ⟨⟨positionalOnly, ordinary ++ [p], none, [], none⟩, ⟨hlast, fun _ => rfl⟩, ?_, ?_, rfl, rfl⟩
      · simp [declared, declaredSlash]
      · cases hp : p.2 <;> simp [signature, hp]
    · cases h

/-- A star that may be added continues a list. -/
theorem exists_continues_star {w : ParameterList} (hw : w.IsBegun) (star : Option (Param Expr))
    (h : w.signature.add? w.star.isSome (declareStar star) = some s) :
    ∃ w', Continues w (declareStar star) s true star.isNone w' := by
  obtain ⟨positionalOnly, ordinary, star', keywordOnly, keywordRest⟩ := w
  have hnone : star' = none ∧ keywordRest = none := by
    cases star <;> cases star' <;> cases keywordRest <;> simp_all [declareStar, Signature.add?, signature]
  obtain ⟨rfl, rfl⟩ := hnone
  obtain rfl : keywordOnly = [] := hw.keywordOnly rfl
  refine ⟨⟨positionalOnly, ordinary, some star, [], none⟩, ⟨hw.defaultsLast, nofun⟩, ?_, ?_, rfl, ?_⟩
  · simp [declared, declaredSlash]
  · cases star <;> simpa [declareStar, Signature.add?, signature] using h
  · cases star <;> rfl

/-- A slash that may be added continues a list. -/
theorem exists_continues_slash {w : ParameterList} (hw : w.IsBegun)
    (h : w.signature.add? w.star.isSome .slash = some s) :
    ∃ w', Continues w .slash s w.star.isSome w.isDangling w' := by
  obtain ⟨positionalOnly, ordinary, star, keywordOnly, keywordRest⟩ := w
  have hmay : star = none ∧ keywordRest = none ∧ positionalOnly = [] ∧ ordinary ≠ [] := by
    cases star <;> cases keywordRest <;> cases positionalOnly <;> cases ordinary <;>
      simp_all [Signature.add?, signature]
  obtain ⟨rfl, rfl, rfl, hordinary⟩ := hmay
  have hadd : some s = some (ParameterList.mk ordinary [] none keywordOnly none).signature := by
    rw [← h]
    simp [Signature.add?, signature, hordinary]
  refine ⟨⟨ordinary, [], none, keywordOnly, none⟩, ⟨?_, hw.keywordOnly⟩, ?_, (Option.some.inj hadd).symm, rfl,
    rfl⟩
  · rw [List.append_nil]
    exact hw.defaultsLast
  · obtain rfl : keywordOnly = [] := hw.keywordOnly rfl
    simp [declared, declaredSlash, hordinary]

/-- The parameter for all other keywords continues a list. -/
theorem exists_continues_keywordRest {w : ParameterList} (hw : w.IsBegun) {p : Param Expr}
    (h : w.signature.add? w.star.isSome (.keywordRest p) = some s) :
    ∃ w', Continues w (.keywordRest p) s w.star.isSome w.isDangling w' := by
  obtain ⟨positionalOnly, ordinary, star, keywordOnly, keywordRest⟩ := w
  cases keywordRest with
  | some q => cases h
  | none =>
    obtain rfl := Option.some.inj h
    refine ⟨⟨positionalOnly, ordinary, star, keywordOnly, some p⟩, ⟨hw.defaultsLast, hw.keywordOnly⟩, ?_, rfl,
      rfl, rfl⟩
    simp [declared, declaredSlash]

/-- Each declaration that is taken goes on with the parameter list so far. -/
theorem exists_continues {w : ParameterList} (hw : w.IsBegun) {d : DeclaredParam}
    (h : Signature.ofDeclared w.signature w.star.isSome w.isDangling (d :: rest) = some s) :
    ∃ s' afterStar bareStar w', Continues w d s' afterStar bareStar w' ∧
      Signature.ofDeclared s' afterStar bareStar rest = some s := by
  rw [Signature.ofDeclared] at h
  cases hadd : w.signature.add? w.star.isSome d with
  | none =>
    rw [hadd] at h
    cases h
  | some s' =>
    rw [hadd] at h
    cases d with
    | positional p default =>
      obtain ⟨w', hw'⟩ := exists_continues_own hw (p := (p, default)) hadd
      exact ⟨s', _, _, w', hw', h⟩
    | slash =>
      obtain ⟨w', hw'⟩ := exists_continues_slash hw hadd
      exact ⟨s', _, _, w', hw', h⟩
    | rest p =>
      obtain ⟨w', hw'⟩ := exists_continues_star hw (some p) hadd
      exact ⟨s', _, _, w', hw', h⟩
    | star =>
      obtain ⟨w', hw'⟩ := exists_continues_star hw none hadd
      exact ⟨s', _, _, w', hw', h⟩
    | keywordRest p =>
      obtain ⟨w', hw'⟩ := exists_continues_keywordRest hw hadd
      dsimp only at h
      split at h
      · cases h
      · next hdangling =>
        rw [eq_false_of_ne_true hdangling] at hw'
        exact ⟨s', _, _, w', hw', h⟩

/-- Declarations that are taken from somewhere on make a well-formed parameter list. -/
theorem exists_of_ofDeclared {w : ParameterList} (hw : w.IsBegun)
    (h : Signature.ofDeclared w.signature w.star.isSome w.isDangling rest = some s) :
    ∃ w' : ParameterList, w'.IsAdmissible ∧ w'.declared = w.declared ++ rest ∧ w'.signature = s := by
  induction rest generalizing w with
  | nil =>
    rw [Signature.ofDeclared] at h
    split at h
    · cases h
    · next hdangling =>
      exact ⟨w, ⟨hw, eq_false_of_ne_true hdangling⟩, (List.append_nil _).symm, Option.some.inj h⟩
  | cons d rest ih =>
    obtain ⟨s', afterStar, bareStar, w', hw', h⟩ := exists_continues hw h
    rw [← hw'.signature, ← hw'.afterStar, ← hw'.bareStar] at h
    obtain ⟨w'', hadmissible, hdeclared, hsignature⟩ := ih hw'.begun h
    refine ⟨w'', hadmissible, ?_, hsignature⟩
    rw [hdeclared, hw'.declared, List.append_assoc, List.singleton_append]

/-- Declarations make a signature exactly if they are those of a well-formed parameter list, and then
they make the signature of that list. -/
theorem ofDeclared_eq_some_iff {declared : List DeclaredParam} :
    Signature.ofDeclared .empty false false declared = some s ↔
      ∃ w : ParameterList, w.IsAdmissible ∧ w.declared = declared ∧ w.signature = s := by
  constructor
  · exact exists_of_ofDeclared (w := ⟨[], [], none, [], none⟩) ⟨.nil, fun _ => rfl⟩
  · rintro ⟨w, hw, rfl, rfl⟩
    exact ofDeclared_declared hw

end Declaring

end RouteAtlas.Syntax
