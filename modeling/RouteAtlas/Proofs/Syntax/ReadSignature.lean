import RouteAtlas.Proofs.Syntax.ParameterList
import RouteAtlas.Syntax.Source

/-!
# The functions that source text declares

`Reading.Ensures p P` says that whatever the reading `p` gives has the property `P`. A function comes out
of source text with the signature of a well-formed parameter list (`areWritten_of_readModule`), since
nothing else in the grammar makes one.
-/

namespace RouteAtlas.Syntax

open Reading

/-- Whatever the reading gives has the property. -/
def Reading.Ensures {α : Type} (p : Reading α) (P : α → Prop) : Prop :=
  ∀ tokens a rest, p.run tokens = some (a, rest) → P a

namespace Reading.Ensures

variable {α β : Type} {P : α → Prop} {Q : β → Prop}

/-- What holds of a value holds of it when it is returned. -/
theorem pure {a : α} (h : P a) : Ensures (Pure.pure a) P := by
  intro tokens b rest hrun
  obtain ⟨rfl, rfl⟩ : a = b ∧ tokens = rest := by simpa using hrun
  exact h

/-- A failure gives nothing that could be wrong. -/
theorem fail : Ensures (failure : Reading α) P := by
  intro tokens a rest hrun
  cases hrun

/-- A sequence ensures what its second part does after the first. -/
theorem bind {p : Reading α} {f : α → Reading β} (hp : Ensures p P)
    (hf : ∀ a, P a → Ensures (f a) Q) : Ensures (p >>= f) Q := by
  intro tokens b rest hrun
  rw [StateT.run_bind] at hrun
  obtain ⟨⟨a, between⟩, ha, hb⟩ := Option.bind_eq_some_iff.1 hrun
  exact hf a (hp tokens a between ha) between b rest hb

/-- What was read before does not matter. -/
theorem after {p : Reading α} {f : α → Reading β} (hf : ∀ a, Ensures (f a) Q) :
    Ensures (p >>= f) Q :=
  bind (P := fun _ => True) (fun _ _ _ _ => trivial) fun a _ => hf a

/-- Nothing comes after a failure. -/
theorem fail_bind {f : α → Reading β} : Ensures (failure >>= f) Q := by
  intro tokens b rest hrun
  cases hrun

/-- An alternative ensures what both of its parts do. -/
theorem orElse {p q : Reading α} (hp : Ensures p P) (hq : Ensures q P) : Ensures (p <|> q) P := by
  intro tokens a rest hrun
  have hor : (p <|> q).run tokens = (p.run tokens).or (q.run tokens) := by
    show Option.orElse (p.run tokens) (fun _ => q.run tokens) = _
    cases p.run tokens <;> rfl
  rw [hor] at hrun
  rcases Option.or_eq_some_iff.1 hrun with h | ⟨_, h⟩
  · exact hp tokens a rest h
  · exact hq tokens a rest h

/-- A choice ensures what both of its parts do. -/
theorem ite {c : Prop} [Decidable c] {p q : Reading α} (hp : Ensures p P) (hq : Ensures q P) :
    Ensures (if c then p else q) P := by
  split
  · exact hp
  · exact hq

/-- A repetition ensures of all results what it does of each. -/
theorem many {p : Reading α} (hp : Ensures p P) (n : Nat) :
    Ensures (Reading.many p n) fun xs => ∀ x ∈ xs, P x := by
  induction n with
  | zero => exact pure nofun
  | succ n ih =>
    have hoptional : Ensures (optional p) fun o => ∀ a ∈ o, P a := by
      refine orElse ?_ (pure nofun)
      rw [map_eq_pure_bind]
      exact bind hp fun a ha => pure fun b hb => Option.some.inj hb ▸ ha
    refine bind hoptional fun o ho => ?_
    cases o with
    | none => exact pure nofun
    | some a => exact bind ih fun xs hxs => pure (List.forall_mem_cons.2 ⟨ho a rfl, hxs⟩)

end Reading.Ensures

/-! ## Functions -/

/-- The signature is that of a well-formed parameter list. -/
def Signature.IsWritten (s : Signature Expr) : Prop := ∃ w : ParameterList, w.IsAdmissible ∧ w.signature = s

/-- If the statement declares a function, its signature is that of a well-formed parameter list. -/
def Stmt.IsWritten : Stmt → Prop
  | .function _ signature _ _ _ => signature.IsWritten
  | _ => True

/-- All functions among the statements have signatures of well-formed parameter lists. -/
def AreWritten (body : List Stmt) : Prop := ∀ s ∈ body, s.IsWritten

/-- Parameters make up a written signature. -/
theorem ensures_signature (ending : String) (declared : List DeclaredParam) : Ensures (do
      if !(← seesMark ending) then failure
      match Signature.ofDeclared .empty false false declared with
      | some s => return s
      | none => failure) Signature.IsWritten := by
  refine .after fun b => .ite .fail_bind ?_
  split
  · next s hs =>
    obtain ⟨w, hw, _, hsignature⟩ := ofDeclared_eq_some_iff.1 hs
    exact .pure ⟨w, hw, hsignature⟩
  · exact .fail

/-- Read parameters are a written signature. -/
theorem ensures_parameters (fuel : Nat) (annotated : Bool) (ending : String) :
    Ensures (parameters fuel annotated ending) Signature.IsWritten := by
  cases fuel with
  | zero => exact .fail
  | succ fuel =>
    rw [parameters]
    refine .after fun b => .ite (ensures_signature ending []) ?_
    exact .after fun r => ensures_signature ending r.1

/-- A function is read with a written signature. -/
theorem ensures_functionDefinition (fuel : Nat) (decorators : List Expr) :
    Ensures (functionDefinition fuel decorators) Stmt.IsWritten := by
  cases fuel with
  | zero => exact .fail
  | succ fuel =>
    rw [functionDefinition]
    refine .after fun id => .after fun _ => .bind (ensures_parameters fuel true ")") fun s hs => ?_
    have hdone (returns : Option Expr) : Ensures (do
        mark ":"
        return .function id s (← block fuel) decorators returns) Stmt.IsWritten :=
      .after fun _ => .after fun body => .pure hs
    exact .after fun _ => .after fun b => .ite (.after fun returns => hdone returns)
      (.after fun returns => hdone returns)

/-! ## Other statements -/

section Other

variable (fuel : Nat)

/-- A class is read with written signatures inside. -/
theorem ensures_classDefinition (decorators : List Expr) :
    Ensures (classDefinition fuel decorators) Stmt.IsWritten := by
  cases fuel with
  | zero => exact .fail
  | succ fuel =>
    rw [classDefinition]
    have hdone (id : String) (r : List Expr × List (Option String × Expr)) : Ensures (do
        mark ":"
        return .classDef id r.1 r.2 (← block fuel) decorators) Stmt.IsWritten :=
      .after fun _ => .after fun body => .pure trivial
    exact .after fun id => .after fun b => .ite (.after fun r => hdone id r) (.after fun r => hdone id r)

/-- A conditional is read with written signatures inside. -/
theorem ensures_ifStatement : Ensures (ifStatement fuel) Stmt.IsWritten := by
  cases fuel with
  | zero => exact .fail
  | succ fuel =>
    rw [ifStatement]
    refine .after fun test => .after fun _ => .after fun body => .after fun b => ?_
    exact .ite (.after fun s => .after fun orelse => .pure trivial) (.after fun orelse => .pure trivial)

/-- A loop is read with written signatures inside. -/
theorem ensures_forStatement : Ensures (forStatement fuel) Stmt.IsWritten := by
  cases fuel with
  | zero => exact .fail
  | succ fuel =>
    rw [forStatement]
    refine .after fun target => .after fun _ => .after fun source => .after fun _ => ?_
    exact .after fun body => .after fun orelse => .pure trivial

/-- A with statement is read with written signatures inside. -/
theorem ensures_withStatement : Ensures (withStatement fuel) Stmt.IsWritten := by
  cases fuel with
  | zero => exact .fail
  | succ fuel =>
    rw [withStatement]
    exact .after fun items => .after fun body => .pure trivial

/-- A try statement is read with written signatures inside. -/
theorem ensures_tryStatement : Ensures (tryStatement fuel) Stmt.IsWritten := by
  cases fuel with
  | zero => exact .fail
  | succ fuel =>
    rw [tryStatement]
    refine .after fun _ => .after fun body => .after fun tokens => .after fun n => ?_
    refine .after fun handlers => .ite (.after fun orelse => ?_) (.after fun orelse => ?_)
    -- what comes after the handlers is the same with and without statements behind them
    all_goals
      refine .after fun b => .ite (.after fun _ => .after fun final => ?_) (.after fun final => ?_)
      · exact .ite .fail_bind (.pure trivial)
      · exact .ite .fail_bind (.pure trivial)

/-- A match statement is read with written signatures inside. -/
theorem ensures_matchStatement : Ensures (matchStatement fuel) Stmt.IsWritten := by
  cases fuel with
  | zero => exact .fail
  | succ fuel =>
    rw [matchStatement]
    refine .after fun _ => .after fun subject => .after fun _ => .after fun _ => .after fun _ => ?_
    exact .after fun first => .after fun n => .after fun rest => .after fun _ => .pure trivial

/-- An import has no signature. -/
theorem ensures_importNames : Ensures importNames Stmt.IsWritten :=
  .after fun _ => .after fun _ => .pure trivial

/-- An import from a module has no signature. -/
theorem ensures_importFrom : Ensures importFrom Stmt.IsWritten := by
  refine .after fun n => .after fun dots => .after fun b => .ite ?_ ?_
  -- what comes behind the name is the same with and without a name
  all_goals
    refine .after fun module => .ite .fail_bind (.after fun _ => .after fun b => .ite (.pure trivial) ?_)
    refine .after fun b => .ite (.after fun names => .after fun _ => .pure trivial) ?_
    exact .after fun first => .after fun rest => .pure trivial

/-- An assignment has no signature. -/
theorem ensures_assignments (n : Nat) (targets : List Expr) (e : Expr) :
    Ensures (assignments fuel n targets e) Stmt.IsWritten := by
  induction n generalizing targets e with
  | zero => exact .fail
  | succ n ih =>
    rw [assignments]
    refine .after fun b => .ite (.ite .fail_bind (.after fun value => ih _ value)) (.ite ?_ ?_)
    · exact .pure trivial
    · exact .pure trivial

/-- An expression has no signature. -/
theorem ensures_expressionStatement : Ensures (expressionStatement fuel) Stmt.IsWritten := by
  have hassigned (first : Expr) : Ensures (do assignments fuel (← left) [] first) Stmt.IsWritten :=
    .after fun n => ensures_assignments fuel n [] first
  refine .after fun first => .after fun t => ?_
  split
  · refine .ite .fail_bind (.after fun _ => .after fun hint => .after fun b => .ite ?_ ?_)
    · exact .after fun value => .pure trivial
    · exact .after fun value => .pure trivial
  · refine .ite (.ite .fail_bind (.after fun _ => .after fun value => .pure trivial)) (hassigned first)
  · exact hassigned first

/-- A simple statement has no signature. -/
theorem ensures_simpleStatement : Ensures (simpleStatement fuel) Stmt.IsWritten := by
  refine .after fun t => ?_
  split
  · refine .ite ?emptied (.ite ?returned (.ite ?raised (.ite ?declared (.ite ?deleted (.ite ?asserted
      (.ite ?imported (.ite ?importedFrom (ensures_expressionStatement fuel))))))))
    case emptied => exact .after fun _ => .pure trivial
    case returned =>
      exact .after fun _ => .after fun b => .ite (.pure trivial) (.after fun e => .pure trivial)
    case raised =>
      refine .after fun _ => .after fun b => .ite (.pure trivial) (.after fun e => .after fun b => ?_)
      exact .ite (.after fun cause => .pure trivial) (.pure trivial)
    case declared => exact .after fun _ => .after fun _ => .after fun _ => .pure trivial
    case deleted =>
      refine .after fun _ => .after fun items => .ite .fail_bind (.after fun b => ?_)
      exact .ite .fail_bind (.pure trivial)
    case asserted =>
      refine .after fun _ => .after fun e => .after fun b => ?_
      exact .ite (.after fun message => .pure trivial) (.pure trivial)
    case imported => exact .after fun _ => ensures_importNames
    case importedFrom => exact .after fun _ => ensures_importFrom
  · exact ensures_expressionStatement fuel

end Other

/-! ## Statements -/

/-- A single statement is written as it is. -/
theorem areWritten_singleton {s : Stmt} (h : s.IsWritten) : AreWritten [s] :=
  List.forall_mem_singleton.2 h

/-- Simple statements on one line have no signatures. -/
theorem ensures_simpleStatements (fuel : Nat) : Ensures (simpleStatements fuel) AreWritten := by
  have hstatement := ensures_simpleStatement fuel
  have hmore : Ensures (moreAfter ";" (simpleStatement fuel)) AreWritten :=
    .after fun n => .many (.after fun _ => hstatement) n
  refine .bind hstatement fun first hfirst => .bind hmore fun rest hrest => ?_
  exact .after fun b => .after fun _ => .pure (List.forall_mem_cons.2 ⟨hfirst, hrest⟩)

/-- One statement alone is a list of one. -/
theorem ensures_single {p : Reading Stmt} (h : Ensures p Stmt.IsWritten) :
    Ensures (do return [← p]) AreWritten :=
  .bind h fun _ hs => .pure (areWritten_singleton hs)

/-- A statement is read with written signatures. -/
theorem ensures_statement (fuel : Nat) : Ensures (statement fuel) AreWritten := by
  cases fuel with
  | zero => exact .fail
  | succ fuel =>
    rw [statement]
    refine .after fun t => ?_
    have hfunction (decorators : List Expr) := ensures_single (ensures_functionDefinition fuel decorators)
    have hclass (decorators : List Expr) := ensures_single (ensures_classDefinition fuel decorators)
    have hfor := ensures_single (ensures_forStatement fuel)
    have hwith := ensures_single (ensures_withStatement fuel)
    split
    · refine .after fun n => .after fun decorators => .after fun b => .ite (hclass decorators) ?_
      exact .after fun b => .after fun _ => hfunction decorators
    · refine .ite ?function (.ite ?classes (.ite ?asynchronous (.ite ?condition (.ite ?loop
        (.ite ?iteration (.ite ?managed (.ite ?handled (ensures_simpleStatements fuel))))))))
      case function => exact .after fun _ => hfunction []
      case classes => exact .after fun _ => hclass []
      case asynchronous =>
        refine .after fun _ => .after fun b => .ite (hfunction []) (.after fun b => .ite hfor ?_)
        exact .after fun _ => hwith
      case condition => exact .after fun _ => ensures_single (ensures_ifStatement fuel)
      case loop =>
        refine .after fun _ => .after fun test => .after fun _ => .after fun body => ?_
        exact .after fun orelse => .pure (areWritten_singleton trivial)
      case iteration => exact .after fun _ => hfor
      case managed => exact .after fun _ => hwith
      case handled => exact .after fun _ => ensures_single (ensures_tryStatement fuel)
    · refine .orElse ?_ (ensures_simpleStatements fuel)
      rw [map_eq_pure_bind]
      exact ensures_single (ensures_matchStatement fuel)
    · exact ensures_simpleStatements fuel

/-- Statements are read with written signatures. -/
theorem ensures_statements (fuel : Nat) : Ensures (statements fuel) AreWritten := by
  induction fuel with
  | zero => exact .fail
  | succ fuel ih =>
    rw [statements]
    refine .bind (ensures_statement fuel) fun first hfirst => .after fun t => ?_
    split
    · exact .pure hfirst
    · exact .pure hfirst
    · exact .bind ih fun rest hrest => .pure (List.forall_mem_append.2 ⟨hfirst, hrest⟩)

/-- A file is read with written signatures. -/
theorem ensures_moduleGrammar (fuel : Nat) :
    Ensures (moduleGrammar fuel) fun m => AreWritten m.body :=
  .after fun _ => .ite (.pure nofun) (.bind (ensures_statements fuel) fun _ hbody => .pure hbody)

/-- What the grammar ensures holds of what source text is read as. -/
theorem of_readSource {α : Type} {p : Nat → Reading α} {P : α → Prop} (hp : ∀ fuel, Ensures (p fuel) P)
    {cs : List Char} {a : α} (h : readSource p cs = .ok a) : P a := by
  unfold readSource at h
  split at h
  · cases h
  · split at h
    · cases h
    · next tokens _ =>
      unfold readAll at h
      split at h
      · next b hrun =>
        obtain rfl := Except.ok.inj h
        exact hp _ tokens b [] hrun
      · cases h

/-- Every function at the top of a file has the signature of a well-formed parameter list. -/
theorem areWritten_of_readModule {text : String} {m : Module} (h : readModule text = .ok m) :
    AreWritten m.body :=
  of_readSource ensures_moduleGrammar h

end RouteAtlas.Syntax
