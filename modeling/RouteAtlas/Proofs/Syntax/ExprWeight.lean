import RouteAtlas.Proofs.Syntax.Payment

/-!
# What expressions weigh against their tokens

Every function of the expression grammar pays for what it gives. They call one another with a smaller
bound, so `GrammarPays` collects the statements for one bound and `grammarPays` goes from each bound to
the next.
-/

namespace RouteAtlas.Syntax

open RouteAtlas.Reflect Reading

/-! ## Text literals -/

/-- An escape stands for at most two code points. -/
theorem length_escapeAt_le {c : Char} {r : List Char} {codes : List Nat} {n : Nat}
    (h : escapeAt c r = some (codes, n)) : codes.length ≤ 2 := by
  have hsome {xs : List Nat} {m : Nat} (he : some (xs, m) = some (codes, n)) (hxs : xs.length ≤ 2) :
      codes.length ≤ 2 := by
    obtain ⟨rfl, _⟩ := Prod.mk.inj (Option.some.inj he)
    exact hxs
  have hmap {o : Option Nat} {m : Nat} (he : o.map (fun n => ([n], m)) = some (codes, n)) :
      codes.length ≤ 2 := by
    obtain ⟨x, _, he⟩ := Option.map_eq_some_iff.1 he
    exact hsome (congrArg some he) (Nat.le_succ 1)
  unfold escapeAt at h
  split at h
  · exact hsome h (Nat.le_succ 1)
  split at h
  · exact hsome h (Nat.zero_le 2)
  split at h
  · exact hsome h (Nat.le_succ 1)
  split at h
  · exact hmap h
  split at h
  · exact hmap h
  split at h
  · obtain ⟨x, _, he⟩ := Option.bind_eq_some_iff.1 h
    split at he
    · exact hsome he (Nat.le_succ 1)
    · cases he
  split at h
  · obtain ⟨x, _, he⟩ := Option.map_eq_some_iff.1 h
    exact hsome (congrArg some he) (Nat.le_succ 1)
  · exact hsome h (Nat.le_refl 2)

/-- An escape takes two characters at least, so decoding never lengthens a text. -/
theorem length_decodeEscapes_le {cs : List Char} {codes : List Nat} (h : decodeEscapes cs = some codes) :
    codes.length ≤ cs.length := by
  induction cs using decodeEscapes.induct generalizing codes with
  | case1 =>
    rw [decodeEscapes] at h
    simp [← Option.some.inj h]
  | case2 c r he =>
    rw [decodeEscapes, he] at h
    cases h
  | case3 c r own n he ih =>
    rw [decodeEscapes, he] at h
    obtain ⟨more, hmore, rfl⟩ := Option.map_eq_some_iff.1 h
    have := ih hmore
    have := length_escapeAt_le he
    simp only [List.length_append, List.length_drop, List.length_cons] at *
    omega
  | case4 c r hne ih =>
    rw [decodeEscapes] at h
    · obtain ⟨more, hmore, rfl⟩ := Option.map_eq_some_iff.1 h
      have := ih hmore
      simp only [List.length_cons]
      omega
    · exact hne

/-- Decoding a stretch of a literal never lengthens it, whether escapes count or not. -/
theorem length_decodeText_le {raw : Bool} {cs : List Char} {codes : List Nat}
    (h : TextLiteral.decodeText raw cs = some codes) : codes.length ≤ cs.length := by
  unfold TextLiteral.decodeText at h
  split at h
  · exact Nat.le_of_eq (by rw [← Option.some.inj h, List.length_map])
  · exact length_decodeEscapes_le h

/-- The texts of literals side by side are no longer than the literals without their quotes. -/
theorem length_flatten_le_of_mapM_decodeText {ls : List TextLiteral} {parts : List (List Nat)}
    (h : ls.mapM (fun l => TextLiteral.decodeText l.raw l.body) = some parts) :
    parts.flatten.length + 2 * ls.length ≤ total (fun l => l.body.length + 2) ls := by
  induction ls generalizing parts with
  | nil => simp [← Option.some.inj h]
  | cons l ls ih =>
    rw [List.mapM_cons] at h
    obtain ⟨own, hown, h⟩ := Option.bind_eq_some_iff.1 h
    obtain ⟨more, hmore, h⟩ := Option.bind_eq_some_iff.1 h
    obtain rfl := Option.some.inj h
    have := length_decodeText_le hown
    have := ih hmore
    simp only [List.flatten_cons, List.length_append, total_cons, List.length_cons]
    omega

/-- A text constant weighs at most one unit more than its text is long. -/
theorem weight_ofCodes_le (codes : List Nat) (marked : Bool) :
    weight (.constant (.ofCodes codes marked)) ≤ codes.length + 1 := by
  unfold Constant.ofCodes
  split
  · exact Nat.le_add_left 1 _
  · simp [weight]

/-! ## Tuples and operators -/

/-- A tuple weighs its items and the commas between them. -/
theorem weight_tupleOf_le (e : Expr) (items : List Expr) (comma : Bool) :
    weight (tupleOf (e :: items) comma) ≤
      weight e + total weight items + (items.length + if comma then 1 else 0) := by
  cases items with
  | nil =>
    cases comma
    · exact Nat.le_add_right _ _
    · simp [tupleOf, weight, weights]
  | cons e' items =>
    simp only [tupleOf, weight, weights, weights_eq_total, total_cons, List.length_cons]
    omega

/-- Operators on several levels pay for what they combine. -/
theorem pays_levelled {operand : Reading Expr} (hp : Pays operand weight)
    (levels : List (List (String × BinaryOp))) : Pays (levelled operand levels) weight := by
  induction levels with
  | nil => exact hp
  | cons level tighter ih =>
    refine pays_chain ?_ ?_ ih
    · intro t o h
      cases t <;> first | exact Nat.le_refl 1 | cases h
    · intro o a b
      simp only [weight]
      omega

/-- A comparison pays for itself. -/
theorem pays_compareOp : Pays compareOp fun _ => 0 := by
  refine pays_take.bind fun t => ?_
  split
  any_goals exact .pure _ (Nat.zero_le _)
  · exact (pays_word "in").bind fun _ => .pure _ (Nat.zero_le _)
  · exact (pays_acceptsWord "not").bind fun _ => .pure _ (Nat.zero_le _)
  · exact .fail _

/-- Something that weighs one unit is paid for by any credit. -/
theorem paysFrom_pure_one {α : Type} {credit : Nat} {w : α → Nat} (a : α) (ha : w a = 1)
    (hc : 1 ≤ credit) : PaysFrom credit (pure a) w := .pure a (ha ▸ hc)

/-- A text literal pays for its body and its quotes. -/
theorem pays_literal : Pays (do
    match ← take with
    | .text literal => return literal
    | _ => failure) fun l => l.body.length + 2 := by
  refine pays_take.bind fun t => ?_
  split
  · exact .pure _ (by simp [Token.cost])
  · exact .fail _

/-- Adjacent texts pay for what is read in them. -/
theorem paysFrom_texts (fuel : Nat) (l : TextLiteral) (ls : List TextLiteral) :
    PaysFrom (total (fun l => l.body.length + 2) (l :: ls)) (texts fuel (l :: ls)) weight := by
  cases fuel with
  | zero => exact .fail _
  | succ fuel => ?_
  rw [texts]
  have hcredit : 1 ≤ total (fun l => l.body.length + 2) (l :: ls) := by
    rw [total_cons]
    omega
  refine .ite (fun _ => ?_) fun _ => .ite (fun _ => .fail _) fun _ => .ite (fun _ => ?_) fun _ => ?_
  · split
    · exact paysFrom_pure_one _ rfl hcredit
    · exact .fail _
  · split
    · exact paysFrom_pure_one _ rfl hcredit
    · exact .fail _
  · split
    · next parts hparts =>
      have := length_flatten_le_of_mapM_decodeText hparts
      have := weight_ofCodes_le parts.flatten ((l :: ls).head?.any (·.marked))
      refine .pure _ ?_
      simp only [List.length_cons] at *
      omega
    · exact .fail _

/-- Parameters that were read weigh nothing more. -/
theorem paysFrom_signature (credit : Nat) (ending : String) (declared : List DeclaredParam) :
    PaysFrom credit (do
      if !(← seesMark ending) then failure
      match Signature.ofDeclared .empty false false declared with
      | some s => return s
      | none => failure) fun _ => 0 := by
  refine (pays_sees _).bind fun b => .ite (fun _ => .fail_bind _) fun _ => ?_
  split
  · exact .pure _ (Nat.zero_le _)
  · exact .fail _

/-! ## The grammar -/

/-- With this bound every function of the grammar pays for what it gives. -/
structure GrammarPays (fuel : Nat) : Prop where
  namedExpression : Pays (namedExpression fuel) weight
  expression : Pays (expression fuel) weight
  disjunction : Pays (disjunction fuel) weight
  conjunction : Pays (conjunction fuel) weight
  inversion : Pays (inversion fuel) weight
  bitwiseOr : Pays (bitwiseOr fuel) weight
  factor : Pays (factor fuel) weight
  primary : Pays (primary fuel) weight
  trailers : ∀ e, PaysFrom (weight e) (trailers fuel e) weight
  subscriptItem : Pays (subscriptItem fuel) weight
  arguments : ∀ generators stage args keywords,
    Pays (arguments fuel generators stage args keywords) fun _ => 0
  atom : Pays (atom fuel) weight
  parenthesized : Pays (parenthesized fuel) weight
  braced : Pays (braced fuel) weight
  dictRest : ∀ entries, Pays (dictRest fuel entries) weight
  starNamed : Pays (starNamed fuel) weight
  starExpression : Pays (starExpression fuel) weight
  starExpressions : Pays (starExpressions fuel) weight
  yieldExpression : Pays (yieldExpression fuel) weight
  target : Pays (target fuel) weight
  targets : Pays (targets fuel) weight
  clauses : Pays (clauses fuel) fun _ => 0
  parameters : ∀ annotated ending, Pays (parameters fuel annotated ending) fun _ => 0

/-- Expressions apart by commas pay for the expression or tuple that they stand for. -/
theorem pays_commaList_tupleOf {p : Reading Expr} (hp : Pays p weight) :
    Pays (commaList p) fun r => weight (tupleOf r.1 r.2) :=
  pays_commaList hp weight_tupleOf_le

namespace GrammarPays

variable {fuel : Nat} (h : GrammarPays fuel)
include h

/-- A named expression pays for its weight. -/
theorem namedExpression_succ : Pays (Syntax.namedExpression (fuel + 1)) weight := by
  rw [Syntax.namedExpression]
  refine pays_seesWalrus.bind fun b => .ite (fun _ => ?_) fun _ => h.expression
  refine pays_name.bind fun id => (pays_mark ":=").bind fun _ => h.expression.bind fun e => ?_
  exact paysFrom_pure_one _ rfl (by omega)

/-- An expression pays for its weight. -/
theorem expression_succ : Pays (Syntax.expression (fuel + 1)) weight := by
  rw [Syntax.expression]
  refine (pays_acceptsWord "lambda").bind fun b => .ite (fun hb => ?_) fun _ => ?_
  · refine (h.parameters false ":").bind fun s => (pays_mark ":").bind fun _ => ?_
    exact h.expression.bind fun e => paysFrom_pure_one _ rfl (by omega)
  · refine h.disjunction.bind fun body => .orElse ?_ (.pure _ (by omega))
    refine (pays_word "if").bind fun _ => h.disjunction.bind fun test => ?_
    refine (pays_word "else").bind fun _ => h.expression.bind fun e => ?_
    exact paysFrom_pure_one _ rfl (by omega)

/-- A disjunction pays for its weight. -/
theorem disjunction_succ : Pays (Syntax.disjunction (fuel + 1)) weight := by
  rw [Syntax.disjunction]
  refine h.conjunction.bind fun first => pays_left.bind fun n => ?_
  have hword : Pays (do word "or"; Syntax.conjunction fuel) weight :=
    (pays_word "or").bind fun _ => h.conjunction.mono (Nat.zero_le _) fun _ => Nat.le_refl _
  refine (pays_many hword n).bind fun rest => .pure _ ?_
  have := one_le_weight first
  cases rest <;> simp only [weight] <;> omega

/-- A conjunction pays for its weight. -/
theorem conjunction_succ : Pays (Syntax.conjunction (fuel + 1)) weight := by
  rw [Syntax.conjunction]
  refine h.inversion.bind fun first => pays_left.bind fun n => ?_
  have hword : Pays (do word "and"; Syntax.inversion fuel) weight :=
    (pays_word "and").bind fun _ => h.inversion.mono (Nat.zero_le _) fun _ => Nat.le_refl _
  refine (pays_many hword n).bind fun rest => .pure _ ?_
  have := one_le_weight first
  cases rest <;> simp only [weight] <;> omega

/-- A negation pays for its weight. -/
theorem inversion_succ : Pays (Syntax.inversion (fuel + 1)) weight := by
  rw [Syntax.inversion]
  refine .ifWord (h.inversion.bind fun e => paysFrom_pure_one _ rfl (by omega)) ?_
  refine h.bitwiseOr.bind fun first => pays_left.bind fun n => ?_
  have hcompared : Pays (do let op ← compareOp; return (op, ← Syntax.bitwiseOr fuel))
      fun _ => 0 :=
    pays_compareOp.bind fun op => h.bitwiseOr.bind fun e => .pure _ (Nat.zero_le _)
  refine (pays_many hcompared n).bind fun rest => .pure _ ?_
  have := one_le_weight first
  cases rest <;> simp only [weight] <;> omega

/-- A chain of bars pays for its weight. -/
theorem bitwiseOr_succ : Pays (Syntax.bitwiseOr (fuel + 1)) weight := by
  rw [Syntax.bitwiseOr]
  exact pays_levelled h.factor binaryLevels

/-- A signed operand pays for its weight. -/
theorem factor_succ : Pays (Syntax.factor (fuel + 1)) weight := by
  rw [Syntax.factor]
  refine .ifMark (h.factor.bind fun e => paysFrom_pure_one _ rfl (by omega)) ?_
  refine .ifMark (h.factor.bind fun e => paysFrom_pure_one _ rfl (by omega)) ?_
  refine .ifMark (h.factor.bind fun e => paysFrom_pure_one _ rfl (by omega)) ?_
  -- what follows the base of a power is read in the same way after either kind of base
  have hpower (base : Expr) : PaysFrom (weight base)
      (do if ← acceptsMark "**" then return .binary .pow base (← Syntax.factor fuel)
          else return base) weight := by
    refine .ifMark (h.factor.bind fun e => .pure _ ?_) (.pure _ (Nat.le_refl _))
    simp only [weight]
    omega
  refine .ifWord ?_ ?_
  · have hawait : Pays (Expr.await <$> Syntax.primary fuel) weight :=
      .map h.primary fun e => by simpa [weight] using one_le_weight e
    exact hawait.bind fun base => (hpower base).mono (by omega) fun _ => Nat.le_refl _
  · exact h.primary.bind fun base => (hpower base).mono (by omega) fun _ => Nat.le_refl _

/-- An operand pays for its weight. -/
theorem primary_succ : Pays (Syntax.primary (fuel + 1)) weight := by
  rw [Syntax.primary]
  exact h.atom.bind fun e => (h.trailers e).mono (by omega) fun _ => Nat.le_refl _

/-- What follows an operand pays for its weight. -/
theorem trailers_succ (e : Expr) : PaysFrom (weight e) (Syntax.trailers (fuel + 1) e) weight := by
  rw [Syntax.trailers]
  refine .ifMark ?_ (.ifMark ?_ (.ifMark ?_ (.pure _ (by omega))))
  · refine pays_name.bind fun id => (h.trailers _).mono ?_ fun _ => Nat.le_refl _
    simp only [weight]
    omega
  · refine (h.arguments true .positional [] []).bind fun r => ?_
    refine (h.trailers _).mono ?_ fun _ => Nat.le_refl _
    simp only [weight]
    omega
  · refine (pays_commaList_tupleOf h.subscriptItem).bind fun r => (pays_mark "]").bind fun _ => ?_
    refine (h.trailers _).mono ?_ fun _ => Nat.le_refl _
    have := one_le_weight (tupleOf r.1 r.2)
    simp only [weight]
    split
    · simp only [weight, weights]
      omega
    · omega

/-- A slice, or its lower bound alone where no colon follows. -/
theorem paysFrom_slice (lower : Option Expr) : PaysFrom (lower.elim 0 weight) (do
    if ← acceptsMark ":" then
      let upper ← optional (Syntax.expression fuel)
      let step ← if ← acceptsMark ":" then optional (Syntax.expression fuel) else pure none
      return .slice lower upper step
    else match lower with
      | some e => return e
      | none => failure) weight := by
  refine .ifMark ?_ ?_
  · refine (pays_optional h.expression).bind fun upper => .ifMark ?_ ?_
    · exact (pays_optional h.expression).bind fun step => paysFrom_pure_one _ rfl (by omega)
    · exact paysFrom_pure_one _ rfl (by omega)
  · split
    · exact .pure _ (Nat.le_refl _)
    · exact .fail _

/-- An item in brackets pays for its weight. -/
theorem subscriptItem_succ : Pays (Syntax.subscriptItem (fuel + 1)) weight := by
  rw [Syntax.subscriptItem]
  refine .ifMark (h.expression.bind fun e => paysFrom_pure_one _ rfl (by omega)) ?_
  refine pays_seesWalrus.bind fun walrus => .ite (fun _ => h.namedExpression) fun _ => ?_
  refine (pays_sees _).bind fun b => .ite (fun _ => ?_) fun _ => ?_
  · exact h.paysFrom_slice none
  · have hsome : Pays (some <$> Syntax.expression fuel) fun o => o.elim 0 weight :=
      .map h.expression fun e => by simp
    exact hsome.bind fun lower => (h.paysFrom_slice lower).mono (by omega) fun _ => Nat.le_refl _

/-- After an argument the list ends or goes on. -/
theorem arguments_proceed (stage : ArgumentStage) (args : List Expr)
    (keywords : List (Option String × Expr)) :
    Pays (do if ← acceptsMark "," then Syntax.arguments fuel false stage args keywords
             else
              mark ")"
              return (args, keywords)) fun _ => 0 :=
  .ifMark ((h.arguments _ _ _ _).mono (Nat.zero_le _) fun _ => Nat.le_refl _)
    ((pays_mark ")").bind fun _ => .pure _ (Nat.zero_le _))

/-- Arguments pay for themselves. -/
theorem arguments_succ (generators : Bool) (stage : ArgumentStage) (args : List Expr)
    (keywords : List (Option String × Expr)) :
    Pays (Syntax.arguments (fuel + 1) generators stage args keywords) fun _ => 0 := by
  have hproceed {credit : Nat} (stage : ArgumentStage) (args : List Expr)
      (keywords : List (Option String × Expr)) :=
    (h.arguments_proceed stage args keywords).mono (Nat.zero_le credit) fun _ => Nat.le_refl 0
  rw [Syntax.arguments]
  refine .ifMark (.pure _ (Nat.zero_le _)) (.ifMark ?_ (.ifMark ?_ ?_))
  · exact h.expression.bind fun e => hproceed _ _ _
  · refine .ite (fun _ => .fail_bind _) fun _ => ?_
    exact h.expression.bind fun e => hproceed _ _ _
  · refine .get_bind fun tokens => ?_
    split
    · next id r =>
      have hrest : Pays (do
          let e ← Syntax.expression fuel
          let stage := if stage = .positional then .keyword else stage
          if ← acceptsMark "," then
            Syntax.arguments fuel false stage args (keywords ++ [(some id, e)])
          else
            mark ")"
            return (args, keywords ++ [(some id, e)])) fun _ => 0 :=
        h.expression.bind fun e => hproceed _ _ _
      intro a rest hrun
      have := hrest r a rest hrun
      simp only [cost_cons]
      omega
    · -- here the tokens that were looked at are all left in place
      suffices hpays : PaysFrom 0 _ fun _ => 0 from hpays tokens
      refine .ite (fun _ => .fail_bind _) fun _ => ?_
      refine h.namedExpression.bind fun e => pays_seesClause.bind fun b => ?_
      refine .ite (fun _ => .ite (fun _ => .fail_bind _) fun _ => ?_) fun _ => hproceed _ _ _
      exact h.clauses.bind fun cs => (pays_mark ")").bind fun _ => .pure _ (Nat.zero_le _)

/-- An atom pays for its weight. -/
theorem atom_succ : Pays (Syntax.atom (fuel + 1)) weight := by
  rw [Syntax.atom]
  refine pays_take.bind fun t => ?_
  split
  any_goals exact paysFrom_pure_one _ rfl (by simp [Token.cost])
  · exact .pure _ (by simp [Token.cost])
  · next literal =>
    refine pays_left.bind fun n => (pays_many pays_literal n).bind fun rest => ?_
    refine (paysFrom_texts fuel literal rest).mono ?_ fun _ => Nat.le_refl _
    simp [Token.cost]
  · exact h.parenthesized.mono (Nat.zero_le _) fun _ => Nat.le_refl _
  · refine .ifMark (paysFrom_pure_one _ rfl (by omega)) ?_
    refine h.starNamed.bind fun first => pays_seesClause.bind fun b => .ite (fun _ => ?_) fun _ => ?_
    · refine h.clauses.bind fun cs => (pays_mark "]").bind fun _ => paysFrom_pure_one _ rfl (by omega)
    · refine (pays_moreAfter "," h.starNamed).bind fun items => ?_
      refine (pays_acceptsMark ",").bind fun _ => (pays_mark "]").bind fun _ => ?_
      exact paysFrom_pure_one _ rfl (by omega)
  · exact h.braced.mono (Nat.zero_le _) fun _ => Nat.le_refl _
  · exact .fail _

/-- What stands in parentheses pays for its weight. -/
theorem parenthesized_succ : Pays (Syntax.parenthesized (fuel + 1)) weight := by
  rw [Syntax.parenthesized]
  refine .ifMark (paysFrom_pure_one _ rfl (by omega)) ?_
  refine (pays_sees _).bind fun b => .ite (fun _ => ?_) fun _ => ?_
  · exact h.yieldExpression.bind fun e => (pays_mark ")").bind fun _ => .pure _ (by omega)
  refine h.starNamed.bind fun first => pays_seesClause.bind fun b => .ite (fun _ => ?_) fun _ => ?_
  · refine h.clauses.bind fun cs => (pays_mark ")").bind fun _ => paysFrom_pure_one _ rfl (by omega)
  refine (pays_moreAfter "," h.starNamed).bind fun items => ?_
  refine (pays_acceptsMark ",").bind fun comma => (pays_mark ")").bind fun _ => ?_
  refine .ite (fun _ => .fail_bind _) fun _ => .pure _ ?_
  have := weight_tupleOf_le first items comma
  have := total_one_add weight items
  omega

/-- What stands in braces pays for its weight. -/
theorem braced_succ : Pays (Syntax.braced (fuel + 1)) weight := by
  rw [Syntax.braced]
  refine .ifMark (paysFrom_pure_one _ rfl (by omega)) ?_
  refine (pays_sees _).bind fun b => .ite (fun _ => h.dictRest []) fun _ => ?_
  refine pays_seesWalrus.bind fun walrus => h.starNamed.bind fun first => ?_
  refine (pays_sees _).bind fun colon => .ite (fun _ => ?_) fun _ => ?_
  · refine (pays_mark ":").bind fun _ => h.expression.bind fun value => ?_
    refine pays_seesClause.bind fun b => .ite (fun _ => ?_) fun _ => .ifMark ?_ ?_
    · exact h.clauses.bind fun cs => (pays_mark _).bind fun _ => paysFrom_pure_one _ rfl (by omega)
    · exact (h.dictRest _).mono (Nat.zero_le _) fun _ => Nat.le_refl _
    · exact (pays_mark _).bind fun _ => paysFrom_pure_one _ rfl (by omega)
  · refine pays_seesClause.bind fun b => .ite (fun _ => ?_) fun _ => ?_
    · exact h.clauses.bind fun cs => (pays_mark _).bind fun _ => paysFrom_pure_one _ rfl (by omega)
    · refine (pays_moreAfter "," h.starNamed).bind fun items => ?_
      refine (pays_acceptsMark ",").bind fun _ => (pays_mark _).bind fun _ => ?_
      exact paysFrom_pure_one _ rfl (by omega)

/-- The rest of a dictionary pays for its weight. -/
theorem dictRest_succ (entries : List (Option Expr × Expr)) :
    Pays (Syntax.dictRest (fuel + 1) entries) weight := by
  rw [Syntax.dictRest]
  refine .ifMark (paysFrom_pure_one _ rfl (by omega)) ?_
  have hentry : Pays (do
      if ← acceptsMark "**" then return (none, ← Syntax.bitwiseOr fuel)
      else
        let key ← Syntax.expression fuel
        mark ":"
        return (some key, ← Syntax.expression fuel)) fun _ => 0 := by
    refine .ifMark (h.bitwiseOr.bind fun e => .pure _ (Nat.zero_le _)) ?_
    refine h.expression.bind fun key => (pays_mark ":").bind fun _ => ?_
    exact h.expression.bind fun e => .pure _ (Nat.zero_le _)
  refine (pays_commaList_zero hentry).bind fun r => ?_
  exact (pays_mark _).bind fun _ => paysFrom_pure_one _ rfl (by omega)

/-- A starred item pays for its weight. -/
theorem starNamed_succ : Pays (Syntax.starNamed (fuel + 1)) weight := by
  rw [Syntax.starNamed]
  exact .ifMark (h.bitwiseOr.bind fun e => paysFrom_pure_one _ rfl (by omega)) h.namedExpression

/-- A starred expression pays for its weight. -/
theorem starExpression_succ : Pays (Syntax.starExpression (fuel + 1)) weight := by
  rw [Syntax.starExpression]
  exact .ifMark (h.bitwiseOr.bind fun e => paysFrom_pure_one _ rfl (by omega)) h.expression

/-- Starred expressions pay for their weight. -/
theorem starExpressions_succ : Pays (Syntax.starExpressions (fuel + 1)) weight := by
  rw [Syntax.starExpressions]
  exact (pays_commaList_tupleOf h.starExpression).bind fun r => .pure _ (by omega)

/-- A yield pays for its weight. -/
theorem yieldExpression_succ : Pays (Syntax.yieldExpression (fuel + 1)) weight := by
  rw [Syntax.yieldExpression]
  refine (pays_word "yield").bind fun _ => .ifWord ?_ ?_
  · exact h.expression.bind fun e => paysFrom_pure_one _ rfl (by omega)
  · exact (pays_optional h.starExpressions).bind fun o => paysFrom_pure_one _ rfl (by omega)

/-- A target pays for its weight. -/
theorem target_succ : Pays (Syntax.target (fuel + 1)) weight := by
  rw [Syntax.target]
  refine .ifMark ?_ ?_
  · have hstarred : Pays (Expr.starred <$> Syntax.primary fuel) weight :=
      .map h.primary fun e => by simpa [weight] using one_le_weight e
    exact hstarred.bind fun e => .ite (fun _ => .pure _ (by omega)) fun _ => .fail _
  · exact h.primary.bind fun e => .ite (fun _ => .pure _ (by omega)) fun _ => .fail _

/-- Targets pay for their weight. -/
theorem targets_succ : Pays (Syntax.targets (fuel + 1)) weight := by
  rw [Syntax.targets]
  exact (pays_commaList_tupleOf h.target).bind fun r => .pure _ (by omega)

/-- Clauses pay for themselves. -/
theorem clauses_succ : Pays (Syntax.clauses (fuel + 1)) fun _ => 0 := by
  rw [Syntax.clauses]
  have hcondition : Pays (do word "if"; Syntax.disjunction fuel) weight :=
    (pays_word "if").bind fun _ => h.disjunction.mono (Nat.zero_le _) fun _ => Nat.le_refl _
  have hone : Pays (do
      let isAsync ← acceptsWord "async"
      word "for"
      let target ← Syntax.targets fuel
      word "in"
      let source ← Syntax.disjunction fuel
      let conditions ← many (do word "if"; Syntax.disjunction fuel) (← left)
      return (⟨isAsync, target, source, conditions⟩ : Clause Expr)) fun _ => 0 := by
    refine (pays_acceptsWord "async").bind fun _ => (pays_word "for").bind fun _ => ?_
    refine h.targets.bind fun _ => (pays_word "in").bind fun _ => h.disjunction.bind fun _ => ?_
    exact pays_left.bind fun n => (pays_many hcondition n).bind fun _ => .pure _ (Nat.zero_le _)
  refine hone.bind fun _ => pays_left.bind fun n => (pays_many hone n).bind fun _ => ?_
  exact .pure _ (Nat.zero_le _)

/-- Parameters pay for themselves. -/
theorem parameters_succ (annotated : Bool) (ending : String) :
    Pays (Syntax.parameters (fuel + 1) annotated ending) fun _ => 0 := by
  have hhint (starred : Bool) : Pays (do
      if !annotated then return none
      if ← acceptsMark ":" then
        some <$> (if starred then Syntax.starExpression fuel else Syntax.expression fuel)
      else return none) fun _ : Option Expr => 0 := by
    refine .ite (fun _ => .pure _ (Nat.zero_le _)) fun _ => .ifMark ?_ (.pure _ (Nat.zero_le _))
    have hannotation : Pays (if starred then Syntax.starExpression fuel else Syntax.expression fuel)
        weight := .ite (fun _ => h.starExpression) fun _ => h.expression
    exact .map hannotation fun _ => Nat.zero_le _
  rw [Syntax.parameters]
  refine (pays_sees _).bind fun b => .ite (fun _ => paysFrom_signature _ ending []) fun _ => ?_
  refine (pays_commaList_zero ?one).bind fun r => paysFrom_signature _ ending r.1
  refine .ifMark (.pure _ (Nat.zero_le _)) (.ifMark ?_ (.ifMark ?_ ?_))
  · exact pays_name.bind fun id => (hhint false).bind fun _ => .pure _ (Nat.zero_le _)
  · refine (pays_sees _).bind fun b => .ite (fun _ => .pure _ (Nat.zero_le _)) fun _ => ?_
    exact pays_name.bind fun id => (hhint true).bind fun _ => .pure _ (Nat.zero_le _)
  · refine pays_name.bind fun id => (hhint false).bind fun _ => .ifMark ?_ (.pure _ (Nat.zero_le _))
    have hdefault : Pays (some <$> Syntax.expression fuel) fun _ => 0 :=
      .map h.expression fun _ => Nat.zero_le _
    exact hdefault.bind fun _ => .pure _ (Nat.zero_le _)

end GrammarPays

/-- Every function of the grammar pays for what it gives, whatever the bound. -/
theorem grammarPays (fuel : Nat) : GrammarPays fuel := by
  induction fuel with
  | zero =>
    -- without a bound left nothing is read
    constructor <;> intros <;> exact .fail _
  | succ fuel h =>
    exact ⟨h.namedExpression_succ, h.expression_succ, h.disjunction_succ, h.conjunction_succ,
      h.inversion_succ, h.bitwiseOr_succ, h.factor_succ, h.primary_succ, h.trailers_succ,
      h.subscriptItem_succ, h.arguments_succ, h.atom_succ, h.parenthesized_succ, h.braced_succ,
      h.dictRest_succ, h.starNamed_succ, h.starExpression_succ, h.starExpressions_succ,
      h.yieldExpression_succ, h.target_succ, h.targets_succ, h.clauses_succ, h.parameters_succ⟩

end RouteAtlas.Syntax
