import RouteAtlas.Reflect.TypeForm
import RouteAtlas.Syntax.ExprGrammar

/-!
# What a reading gives, its tokens pay for

Every token costs at most the characters it stands for. `Pays p w` says that a result of the reading
`p` weighs no more than the tokens that were taken, and `PaysFrom` the same with a credit left over from
an earlier reading. The combinators of readings keep the property.
-/

namespace RouteAtlas.Syntax

open RouteAtlas.Reflect Reading

/-- What a token costs: no more than the characters that it stands for. -/
def Token.cost : Token → Nat
  | .text literal => literal.body.length + 2
  | .number c => weight (.constant c)
  | .keyword _ => 1
  | .name _ => 1
  | .mark _ => 1
  | .newline => 0
  | .indent => 0
  | .dedent => 0

/-- What the items of a list weigh together. -/
def total {α : Type} (w : α → Nat) : List α → Nat
  | [] => 0
  | a :: r => w a + total w r

/-- Nothing weighs nothing. -/
@[simp] theorem total_nil {α : Type} (w : α → Nat) : total w [] = 0 := rfl

/-- A list weighs its head and its rest. -/
@[simp] theorem total_cons {α : Type} (w : α → Nat) (a : α) (r : List α) :
    total w (a :: r) = w a + total w r := rfl

/-- Copies weigh as often as there are copies. -/
@[simp] theorem total_replicate {α : Type} (w : α → Nat) (n : Nat) (a : α) :
    total w (List.replicate n a) = n * w a := by
  induction n with
  | zero => simp
  | succ n ih => rw [List.replicate_succ, total_cons, ih, Nat.succ_mul, Nat.add_comm]

/-- What tokens cost together. -/
def cost (tokens : List Token) : Nat := total Token.cost tokens

/-- No tokens cost nothing. -/
@[simp] theorem cost_nil : cost [] = 0 := rfl

/-- Tokens cost their head and their rest. -/
@[simp] theorem cost_cons (t : Token) (r : List Token) : cost (t :: r) = t.cost + cost r := rfl

/-- Tokens of two lists cost both. -/
@[simp] theorem cost_append (ts us : List Token) : cost (ts ++ us) = cost ts + cost us := by
  induction ts with
  | nil => simp
  | cons t ts ih => simp [ih, Nat.add_assoc]

/-- Tokens cost the same in reverse. -/
@[simp] theorem cost_reverse (ts : List Token) : cost ts.reverse = cost ts := by
  induction ts with
  | nil => rfl
  | cons t ts ih => simp [ih, Nat.add_comm]

/-- No expression weighs nothing. -/
theorem one_le_weight (e : Expr) : 1 ≤ weight e := by
  unfold weight
  split <;> omega

/-- The weight of several expressions is their total. -/
theorem weights_eq_total (items : List Expr) : weights items = total weight items := by
  induction items with
  | nil => rfl
  | cons e r ih => rw [weights, ih, total_cons]

/-- With this credit, a result of the reading weighs no more than the credit and the tokens taken. -/
def Reading.PaysFrom {α : Type} (credit : Nat) (p : Reading α) (w : α → Nat) : Prop :=
  ∀ tokens a rest, p.run tokens = some (a, rest) → w a + cost rest ≤ credit + cost tokens

/-- A result of the reading weighs no more than the tokens taken. -/
abbrev Reading.Pays {α : Type} (p : Reading α) (w : α → Nat) : Prop := PaysFrom 0 p w

namespace Reading.PaysFrom

variable {α β : Type} {credit : Nat}

/-- What the credit covers can be returned. -/
theorem pure (a : α) {w : α → Nat} (h : w a ≤ credit) : PaysFrom credit (Pure.pure a) w := by
  intro tokens b rest hrun
  obtain ⟨rfl, rfl⟩ : a = b ∧ tokens = rest := by simpa using hrun
  omega

/-- A failure pays for everything. -/
theorem fail (w : α → Nat) : PaysFrom credit (failure : Reading α) w := by
  intro tokens b rest hrun
  cases hrun

/-- Nothing comes after a failure. -/
theorem fail_bind {f : α → Reading β} (w : β → Nat) : PaysFrom credit (failure >>= f) w := by
  intro tokens b rest hrun
  cases hrun

/-- More credit pays for less weight. -/
theorem mono {p : Reading α} {w w' : α → Nat} {credit' : Nat} (hp : PaysFrom credit p w)
    (hc : credit ≤ credit') (hw : ∀ a, w' a ≤ w a) : PaysFrom credit' p w' := by
  intro tokens a rest hrun
  have := hp tokens a rest hrun
  have := hw a
  omega

/-- Credit that is not used is left over. -/
theorem keep {p : Reading α} {w : α → Nat} (hp : Pays p w) (credit : Nat) :
    PaysFrom credit p fun a => credit + w a := by
  intro tokens a rest hrun
  have := hp tokens a rest hrun
  simp only
  omega

/-- What a first part has paid is credit for the second. -/
theorem bind {p : Reading α} {f : α → Reading β} {w : α → Nat} {w' : β → Nat} (hp : Pays p w)
    (hf : ∀ a, PaysFrom (credit + w a) (f a) w') : PaysFrom credit (p >>= f) w' := by
  intro tokens b rest hrun
  rw [StateT.run_bind] at hrun
  -- what the first result weighs is credit for the second
  obtain ⟨⟨a, between⟩, ha, hb⟩ := Option.bind_eq_some_iff.1 hrun
  have := hp tokens a between ha
  have := hf a between b rest hb
  omega

/-- A changed result is paid by what was read for it. -/
theorem map {p : Reading α} {f : α → β} {w : α → Nat} {w' : β → Nat} (hp : Pays p w)
    (hf : ∀ a, w' (f a) ≤ credit + w a) : PaysFrom credit (f <$> p) w' := by
  rw [map_eq_pure_bind]
  exact bind hp fun a => pure (f a) (hf a)

/-- Either part pays. -/
theorem orElse {p q : Reading α} {w : α → Nat} (hp : PaysFrom credit p w)
    (hq : PaysFrom credit q w) : PaysFrom credit (p <|> q) w := by
  intro tokens a rest hrun
  have hor : (p <|> q).run tokens = (p.run tokens).or (q.run tokens) := by
    show Option.orElse (p.run tokens) (fun _ => q.run tokens) = _
    cases p.run tokens <;> rfl
  rw [hor] at hrun
  rcases Option.or_eq_some_iff.1 hrun with h | ⟨_, h⟩
  · exact hp tokens a rest h
  · exact hq tokens a rest h

/-- A reading that looks at the tokens first may depend on them. -/
theorem get_bind {f : List Token → Reading β} {w : β → Nat}
    (hf : ∀ tokens b rest, (f tokens).run tokens = some (b, rest) →
      w b + cost rest ≤ credit + cost tokens) : PaysFrom credit (get >>= f) w :=
  fun tokens b rest hrun => hf tokens b rest hrun

/-- A choice pays if both of its branches do. -/
theorem ite {c : Prop} [Decidable c] {p q : Reading α} {w : α → Nat}
    (hp : c → PaysFrom credit p w) (hq : ¬ c → PaysFrom credit q w) :
    PaysFrom credit (if c then p else q) w := by
  split
  · next h => exact hp h
  · next h => exact hq h

end Reading.PaysFrom

namespace Reading

open PaysFrom

variable {α : Type}

/-! ## Single tokens -/

/-- Looking at the tokens pays for nothing. -/
theorem pays_get : Pays (get : Reading (List Token)) fun _ => 0 := by
  intro tokens a rest hrun
  obtain ⟨rfl, rfl⟩ : tokens = a ∧ tokens = rest := by simpa using hrun
  exact Nat.le_refl _

/-- A taken token pays its cost. -/
theorem pays_take : Pays take Token.cost := by
  intro tokens t rest hrun
  cases tokens with
  | nil => cases hrun
  | cons u r =>
    obtain ⟨rfl, rfl⟩ : u = t ∧ r = rest := by simpa [take] using hrun
    rw [cost_cons]
    omega

/-- A look at the next token pays for nothing. -/
theorem pays_sees (t : Token) : Pays (sees t) fun _ => 0 :=
  pays_get.bind fun _ => pure _ (Nat.zero_le _)

/-- A look for a walrus pays for nothing. -/
theorem pays_seesWalrus : Pays seesWalrus fun _ => 0 := by
  refine pays_get.bind fun ts => ?_
  split <;> exact pure _ (Nat.zero_le _)

/-- A look for a clause pays for nothing. -/
theorem pays_seesClause : Pays seesClause fun _ => 0 :=
  (pays_sees _).bind fun _ => (pays_sees _).bind fun _ => pure _ (Nat.zero_le _)

/-- An accepted token pays at least its smallest cost. -/
theorem pays_accepts {t : Token} {n : Nat} (ht : ∀ u, u == t → n ≤ u.cost) :
    Pays (accepts t) fun b => if b then n else 0 := by
  intro tokens b rest hrun
  cases tokens with
  | nil =>
    obtain ⟨rfl, rfl⟩ : false = b ∧ [] = rest := by simpa [accepts] using hrun
    simp
  | cons u r =>
    by_cases h : (u == t) = true
    · obtain ⟨rfl, rfl⟩ : true = b ∧ r = rest := by simpa [accepts, h] using hrun
      have := ht u h
      simp only [if_true, cost_cons]
      omega
    · obtain ⟨rfl, rfl⟩ : false = b ∧ u :: r = rest := by simpa [accepts, h] using hrun
      simp

/-- A mark has a cost. -/
theorem cost_of_beq_mark {u : Token} {s : String} (h : u == .mark s) : 1 ≤ u.cost := by
  cases u <;> first | exact Nat.le_refl 1 | cases h

/-- A keyword has a cost. -/
theorem cost_of_beq_keyword {u : Token} {s : String} (h : u == .keyword s) : 1 ≤ u.cost := by
  cases u <;> first | exact Nat.le_refl 1 | cases h

/-- An accepted mark pays. -/
theorem pays_acceptsMark (s : String) : Pays (acceptsMark s) fun b => if b then 1 else 0 :=
  pays_accepts fun _ => cost_of_beq_mark

/-- An accepted word pays. -/
theorem pays_acceptsWord (s : String) : Pays (acceptsWord s) fun b => if b then 1 else 0 :=
  pays_accepts fun _ => cost_of_beq_keyword

/-- A mark that is taken adds to the credit of the branch that follows it. -/
theorem PaysFrom.ifMark {s : String} {p q : Reading α} {w : α → Nat} {credit : Nat}
    (hp : PaysFrom (credit + 1) p w) (hq : PaysFrom credit q w) :
    PaysFrom credit (do if ← acceptsMark s then p else q) w := by
  refine (pays_acceptsMark s).bind fun b => ?_
  cases b
  · exact hq
  · exact hp

/-- A keyword that is taken adds to the credit of the branch that follows it. -/
theorem PaysFrom.ifWord {s : String} {p q : Reading α} {w : α → Nat} {credit : Nat}
    (hp : PaysFrom (credit + 1) p w) (hq : PaysFrom credit q w) :
    PaysFrom credit (do if ← acceptsWord s then p else q) w := by
  refine (pays_acceptsWord s).bind fun b => ?_
  cases b
  · exact hq
  · exact hp

/-- An expected token pays at least its smallest cost. -/
theorem pays_expect {t : Token} {n : Nat} (ht : ∀ u, u == t → n ≤ u.cost) :
    Pays (expect t) fun _ => n := by
  refine (pays_accepts ht).bind fun b => ?_
  cases b
  · exact fail _
  · exact pure _ (by simp)

/-- A mark pays. -/
theorem pays_mark (s : String) : Pays (mark s) fun _ => 1 :=
  pays_expect fun _ => cost_of_beq_mark

/-- A word pays. -/
theorem pays_word (s : String) : Pays (word s) fun _ => 1 :=
  pays_expect fun _ => cost_of_beq_keyword

/-- A name pays. -/
theorem pays_name : Pays name fun _ => 1 := by
  refine pays_take.bind fun t => ?_
  split
  · exact pure _ (by simp [Token.cost])
  · exact fail _

/-! ## Repetitions -/

/-- What may be missing pays if it is there. -/
theorem pays_optional {p : Reading α} {w : α → Nat} (hp : Pays p w) :
    Pays (optional p) fun o => o.elim 0 w :=
  orElse (map hp fun a => by simp) (pure none (by simp))

/-- A repetition pays for all of its results. -/
theorem pays_many {p : Reading α} {w : α → Nat} (hp : Pays p w) (n : Nat) :
    Pays (many p n) (total w) := by
  induction n with
  | zero => exact pure [] (by simp)
  | succ n ih =>
    refine (pays_optional hp).bind fun o => ?_
    cases o with
    | none => exact pure [] (by simp)
    | some a => exact ih.bind fun xs => pure (a :: xs) (by simp)

/-- Counting what is left pays for nothing. -/
theorem pays_left : Pays left fun _ => 0 := pays_get.bind fun _ => pure _ (Nat.zero_le _)

/-- Separated results pay for themselves and their separators. -/
theorem pays_moreAfter (separator : String) {p : Reading α} {w : α → Nat} (hp : Pays p w) :
    Pays (moreAfter separator p) (total fun a => 1 + w a) :=
  pays_left.bind fun n =>
    (pays_many ((pays_mark separator).bind fun _ => (hp.keep 1)) n).mono (by simp) fun _ => Nat.le_refl _

/-- One more for each adds the length. -/
theorem total_one_add (w : α → Nat) (xs : List α) :
    total (fun a => 1 + w a) xs = xs.length + total w xs := by
  induction xs with
  | nil => rfl
  | cons x xs ih =>
    simp only [total_cons, List.length_cons]
    omega

/-- A list apart by commas pays for whatever weighs no more than its items and commas. -/
theorem pays_commaList {p : Reading α} {w : α → Nat} {v : List α × Bool → Nat} (hp : Pays p w)
    (hv : ∀ a xs comma, v (a :: xs, comma) ≤
      w a + total w xs + (xs.length + if comma then 1 else 0)) :
    Pays (commaList p) v := by
  -- the commas between the items pay as well, which a tuple of them needs for itself
  refine hp.bind fun a => (pays_moreAfter "," hp).bind fun xs => ?_
  refine (pays_acceptsMark ",").bind fun b => pure _ ?_
  have := total_one_add w xs
  have := hv a xs b
  omega

/-- A list of what weighs nothing weighs nothing. -/
theorem pays_commaList_zero {p : Reading α} (hp : Pays p fun _ => 0) :
    Pays (commaList p) fun _ => 0 := pays_commaList hp fun _ _ _ => Nat.zero_le _

/-- What operands and the operators between them weigh, if joining two costs one more. -/
theorem weight_foldl_le {ο : Type} {combine : ο → α → α → α} {w : α → Nat}
    (hw : ∀ o a b, w (combine o a b) ≤ w a + (1 + w b)) (rest : List (ο × α)) (first : α) :
    w (rest.foldl (fun a x => combine x.1 a x.2) first) ≤
      w first + total (fun x => 1 + w x.2) rest := by
  induction rest generalizing first with
  | nil => simp
  | cons x rest ih =>
    have hx := hw x.1 first x.2
    have hrest := ih (combine x.1 first x.2)
    simp only [List.foldl_cons, total_cons]
    omega

/-- An operator pays for the joint in front of its operand. -/
theorem pays_link {ο : Type} {operator? : Token → Option ο} {operand : Reading α} {w : α → Nat}
    (ho : ∀ t o, operator? t = some o → 1 ≤ t.cost) (hp : Pays operand w) :
    Pays (do
      match operator? (← take) with
      | none => failure
      | some o => return (o, ← operand)) fun x => 1 + w x.2 := by
  refine pays_take.bind fun t => ?_
  split
  · exact fail _
  · next o h =>
    have := ho t o h
    exact hp.bind fun b => pure (o, b) (by simp only; omega)

/-- A chain of operators pays if each operator does. -/
theorem pays_chain {ο : Type} {operator? : Token → Option ο} {combine : ο → α → α → α}
    {operand : Reading α} {w : α → Nat} (ho : ∀ t o, operator? t = some o → 1 ≤ t.cost)
    (hw : ∀ o a b, w (combine o a b) ≤ w a + (1 + w b)) (hp : Pays operand w) :
    Pays (chain operator? combine operand) w := by
  refine hp.bind fun first => pays_left.bind fun n => ?_
  refine (pays_many (pays_link ho hp) n).bind fun rest => pure _ ?_
  have := weight_foldl_le hw rest first
  simpa using this

end Reading

end RouteAtlas.Syntax
