import Mathlib.Data.Finset.Basic
import RouteAtlas.Proofs.Reflect.Equations
import RouteAtlas.Reflect.Reflector

/-!
# A reflector forgets what it expands

Whatever a reflector does, it leaves the marks as it has found them, and its outcome is that of `reflect`
while the marked classes are being expanded. So a reflector that is expanding nothing comes out of a call
as it went into it, and answers every call of a sequence as it would answer it alone.
-/

namespace RouteAtlas.Reflect

open RouteAtlas.Api RouteAtlas.Document RouteAtlas.Syntax

/-! ## Work that leaves the marks alone -/

namespace Run

variable {before : Finset String} {α β σ : Type}

/-- What comes after a result that changes no marks starts from the same marks. -/
theorem of_ok_andThen (a : α) (next : ∀ marks, before ⊆ marks → α → Run marks β) :
    (of before (.ok a)).andThen next = next before (Finset.Subset.refl before) a := rfl

/-- A changed result changes no marks. -/
@[simp]
theorem map_of (f : α → β) (x : Except ReflectFault α) : map f (of before x) = of before (f <$> x) := by
  cases x <;> rfl

/-- Steps that leave the marks alone are the steps of a fold over the outcomes. -/
theorem fold_of {step : ∀ marks, before ⊆ marks → σ → β → Run marks σ}
    {g : σ → β → Except ReflectFault σ}
    (h : ∀ s b, step before (Finset.Subset.refl before) s b = of before (g s b)) (l : List β) (s : σ) :
    fold step l s = of before (l.foldlM g s) := by
  suffices hall : ∀ x : Except ReflectFault σ,
      l.foldl (fun run b => run.andThen fun marks h s => step marks h s b) (of before x) =
        of before (x >>= fun s => l.foldlM g s) from hall (.ok s)
  induction l with
  | nil => intro x; cases x <;> rfl
  | cons b l ih =>
    intro x
    rw [List.foldl_cons]
    cases x with
    | error fault => exact ih (.error fault)
    | ok s =>
      rw [of_ok_andThen, h, ih]
      rfl

/-- A mark that was set alone is gone afterwards. -/
theorem marking_of {name : String} (hname : name ∉ before) (x : Except ReflectFault α) :
    marking name hname (of (insert name before) x) = of before x := by
  unfold marking of
  simp [Finset.erase_insert hname]

end Run

/-- Reflecting leaves the marks alone, and so does reading the fields of a class. -/
theorem reflectMarking_eq_and_classFieldsMarking_eq (index : ClassIndex) :
    (∀ (active : List String) (isOptional : Bool) (e : Expr) (marks : Finset String),
      marks = active.toFinset →
        reflectMarking index marks isOptional e = .of marks (reflect index active isOptional e)) ∧
    ∀ (active lineage : List String) (c : ClassDecl) (marks : Finset String),
      marks = active.toFinset →
        classFieldsMarking index marks lineage c = .of marks (classFields index active lineage c) := by
  -- by the branches of `reflect`; the marks are a variable, since they index the type of the work
  refine reflect.mutual_induct index _ _ ?nullCharacter ?malformed ?forward ?illegible ?null ?unionEmpty
    ?unionOne ?unionSeveral ?wrapped ?choice ?array ?unknown ?enumUnprintable ?enumEmpty ?enumValues
    ?activeClass ?openClass ?leaf ?fields
  case nullCharacter =>
    intro active isOptional e text hf hr marks hmarks
    rw [reflect_forward_null hf hr, reflectMarking]
    split <;> rename_i h <;> rw [hf] at h <;> cases h
    split <;> rename_i h <;> rw [hr] at h <;> cases h
  case malformed =>
    intro active isOptional e text hf hr marks hmarks
    rw [reflect_forward_malformed hf hr, reflectMarking]
    split <;> rename_i h <;> rw [hf] at h <;> cases h
    split <;> rename_i h <;> rw [hr] at h <;> cases h
  case forward =>
    intro active isOptional e text hf inner hr _ ih marks hmarks
    rw [reflect_forward hf hr, reflectMarking]
    split <;> rename_i h <;> rw [hf] at h <;> cases h
    split <;> rename_i h <;> rw [hr] at h <;> cases h
    exact ih marks hmarks
  case illegible =>
    intro active isOptional e hf marks hmarks
    rw [reflect_illegible hf, reflectMarking]
    split <;> rename_i h <;> rw [hf] at h <;> cases h
  case null =>
    intro active isOptional e hf marks hmarks
    rw [reflect_null hf, reflectMarking]
    split <;> rename_i h <;> rw [hf] at h <;> cases h
  case unionEmpty =>
    intro active isOptional e members hf hm marks hmarks
    rw [reflect_union_empty hf hm, reflectMarking]
    split <;> rename_i h <;> rw [hf] at h <;> cases h
    split <;> rename_i h <;> simp_all
  case unionOne =>
    intro active isOptional e members hf m hm _ _ ih marks hmarks
    have ih := ih marks hmarks
    rw [reflect_union_one hf hm, reflectMarking]
    split <;> rename_i h <;> rw [hf] at h <;> cases h
    split <;> rename_i h <;> simp_all
  case unionSeveral =>
    intro active isOptional e members hf h₀ h₁ marks hmarks
    rw [reflect_union_several hf h₀ h₁, reflectMarking]
    split <;> rename_i h <;> rw [hf] at h <;> cases h
    split <;> rename_i h <;> simp_all
  case wrapped =>
    intro active isOptional e inner hf _ ih marks hmarks
    rw [reflect_wrapped hf, reflectMarking]
    split <;> rename_i h <;> rw [hf] at h <;> cases h
    exact ih marks hmarks
  case choice =>
    intro active isOptional e values hf marks hmarks
    rw [reflect_choice hf, reflectMarking]
    split <;> rename_i h <;> rw [hf] at h <;> cases h
    rfl
  case array =>
    intro active isOptional e item hf _ ih marks hmarks
    rw [reflect_array hf, reflectMarking]
    split <;> rename_i h <;> rw [hf] at h <;> cases h
    cases printed e with
    | error fault => rfl
    | ok text =>
      simp only [ih marks hmarks, Run.map_of]
      rfl
  case unknown =>
    intro active isOptional e name hf hc marks hmarks
    rw [reflect_unknown hf hc, reflectMarking]
    split <;> rename_i h <;> rw [hf] at h <;> cases h
    split
    · rfl
    · next h =>
      rw [hc] at h
      cases h
  case enumUnprintable =>
    intro active isOptional e name hf c hc henum hv marks hmarks
    rw [reflect_enum hf hc henum, reflectMarking, hv]
    split <;> rename_i h <;> rw [hf] at h <;> cases h
    split <;> rename_i h <;> rw [hc] at h <;> cases h
    simp [henum, hv]
  case enumEmpty =>
    intro active isOptional e name hf c hc henum hv marks hmarks
    rw [reflect_enum hf hc henum, reflectMarking, hv]
    split <;> rename_i h <;> rw [hf] at h <;> cases h
    split <;> rename_i h <;> rw [hc] at h <;> cases h
    simp [henum, hv]
  case enumValues =>
    intro active isOptional e name hf c hc henum values hne hv marks hmarks
    rw [reflect_enum hf hc henum, reflectMarking, hv]
    split <;> rename_i h <;> rw [hf] at h <;> cases h
    split <;> rename_i h <;> rw [hc] at h <;> cases h
    cases values with
    | nil => exact absurd rfl hne
    | cons v values => simp [henum, hv]
  case activeClass =>
    intro active isOptional e name hf c hc henum ha marks hmarks
    have ha : c.name ∈ active := by simpa using ha
    rw [reflect_active hf hc (by simpa using henum) ha, reflectMarking]
    split <;> rename_i h <;> rw [hf] at h <;> cases h
    split <;> rename_i h <;> rw [hc] at h <;> cases h
    simp [henum, hmarks, ha]
  case openClass =>
    intro active isOptional e name hf c hc henum ha _ ih marks hmarks
    have ha : c.name ∉ active := by simpa using ha
    have henum : c.isEnum = false := by simpa using henum
    have hmark : c.name ∉ marks := by simpa [hmarks] using ha
    rw [reflect_class hf hc henum ha, reflectMarking]
    split <;> rename_i h <;> rw [hf] at h <;> cases h
    split <;> rename_i h <;> rw [hc] at h <;> cases h
    have hfields := ih (insert c.name marks) (by rw [hmarks, List.toFinset_cons])
    simp only [henum, hmark, hfields, Run.marking_of, Run.map_of]
    rfl
  case leaf =>
    intro active isOptional e hf marks hmarks
    rw [reflect_leaf hf, reflectMarking]
    split <;> rename_i h <;> rw [hf] at h <;> cases h
  case fields =>
    intro active lineage c ihbase ihown marks hmarks
    have hdeclare (fields : List (String × TypeShape)) (d : FieldDecl) :
        (reflectMarking index marks d.isOptional d.hint).map (fun t => setField d.name t fields) =
          .of marks (declareField index active fields d) := by
      rw [ihown d marks hmarks, Run.map_of]
      rfl
    rw [classFieldsMarking, classFields_eq]
    dsimp only
    rw [Run.fold_of (g := inheritFields index active lineage) ?inherit]
    case inherit =>
      intro fields base
      unfold inheritFields
      split <;> rename_i hb
      · simp only [hb]
        rfl
      next b =>
      simp only [hb]
      by_cases hl : b.name ∈ lineage
      · simp only [List.contains_eq_mem, hl, decide_true, dite_true, true_or, if_true]
        rfl
      cases henum : b.isEnum with
      | true =>
        simp only [List.contains_eq_mem, hl, decide_false]
        rfl
      | false =>
        have hown := ihbase base b hb (by simpa using hl) marks hmarks
        simp only [List.contains_eq_mem, hl, hown, Run.map_of]
        rfl
    cases c.bases.foldlM (inheritFields index active lineage) [] with
    | error fault => rfl
    | ok inherited => exact Run.fold_of hdeclare _ _

/-- Reflecting leaves the marks alone, and gives what `reflect` gives while the marked classes are being
expanded. -/
theorem reflectMarking_eq (index : ClassIndex) (active : List String) (isOptional : Bool) (e : Expr) :
    reflectMarking index active.toFinset isOptional e =
      .of active.toFinset (reflect index active isOptional e) :=
  (reflectMarking_eq_and_classFieldsMarking_eq index).1 active isOptional e _ rfl

/-! ## Calls -/

namespace Reflector

/-- A call leaves the reflector as it was. -/
theorem reflect_snd (r : Reflector) (call : ReflectCall) : (r.reflect call).2 = r := by
  obtain ⟨index, active⟩ := r
  unfold Reflector.reflect
  cases call.hint with
  | none => rfl
  | some e =>
    have hrun := reflectMarking_eq index active.toList call.isOptional e
    rw [Finset.toList_toFinset] at hrun
    simp only [hrun]
    rfl

/-- A reflector that is expanding nothing gives the shape of the annotation. -/
theorem reflect_idle_fst (index : ClassIndex) (call : ReflectCall) :
    ((idle index).reflect call).1 = reflectHint index call.isOptional call.hint := by
  unfold Reflector.reflect
  cases call.hint with
  | none => rfl
  | some e => exact congrArg Run.outcome (reflectMarking_eq index [] call.isOptional e)

/-- Each call of a sequence is answered as by the reflector that the sequence began with. -/
theorem reflectAll_eq_map (r : Reflector) (calls : List ReflectCall) :
    r.reflectAll calls = calls.map r.reflect := by
  induction calls with
  | nil => rfl
  | cons call calls ih =>
    show r.reflect call :: (r.reflect call).2.reflectAll calls = _
    rw [reflect_snd, ih, List.map_cons]

/-- Each call of a sequence is answered as by a new reflector, with the shape of its annotation, and
expands nothing any more when it has been answered. -/
theorem reflectAll_idle (index : ClassIndex) (calls : List ReflectCall) :
    (idle index).reflectAll calls = calls.map (idle index).reflect ∧
      ((idle index).reflectAll calls).map Prod.fst =
        calls.map (fun call => reflectHint index call.isOptional call.hint) ∧
      ∀ answer ∈ (idle index).reflectAll calls, answer.2.active = ∅ := by
  have hall := reflectAll_eq_map (idle index) calls
  refine ⟨hall, ?_, fun answer hanswer => ?_⟩
  · rw [hall, List.map_map]
    exact List.map_congr_left fun call _ => reflect_idle_fst index call
  · rw [hall] at hanswer
    obtain ⟨call, _, rfl⟩ := List.mem_map.1 hanswer
    rw [reflect_snd]
    rfl

end Reflector

end RouteAtlas.Reflect
