import DynExpr.Proofs.Evaluation.Draws

/-! # Substitution

    Binding a name to the value of a tree is the same as putting the tree in
    the place of the name, as long as the tree draws nothing:

    * **No draws**: such a tree has the same value wherever it is evaluated,
      however often, and leaves the source as it was (`trial_of_no_draws`).
    * **Names**: an evaluation depends only on the values of the names that
      occur in the tree (`eval_congr`).
    * **Substitution**: `Expr.run_subst`, up to the notes of an error, which
      print the tree as it stands.
-/

namespace DynExpr.Expr

/-! ### Substituting a tree for a name -/

mutual

/-- The tree with `e` in every place of the name `x`. -/
def subst (x : String) : Expr → (e : Expr) → Expr
  | constant v, _ => constant v
  | param name, e => if name = x then e else param name
  | not operand, e => not (operand.subst x e)
  | binary op coercion left right, e =>
    binary op coercion (left.subst x e) (right.subst x e)
  | concat delimiter items, e => concat (delimiter.subst x e) (substItems x items e)
  | rand, _ => rand

/-- Some items with `e` in every place of the name `x`. -/
def substItems (x : String) : List Expr → (e : Expr) → List Expr
  | [], _ => []
  | item :: items, e => item.subst x e :: substItems x items e

end

/-! ### Trees that draw nothing -/

mutual

/-- Where there is nothing to fill, filling changes nothing. -/
theorem fill_of_no_draws (draws : Nat → Float) (k : Nat) : ∀ e : Expr, e.drawCount = 0 →
    e.fill draws k = e
  | constant _, _ | param _, _ => rfl
  | not operand, h => by
    rw [fill, fill_of_no_draws draws k operand h]
  | binary _ _ left right, h => by
    obtain ⟨hleft, hright⟩ := Nat.add_eq_zero_iff.1 h
    rw [fill, fill_of_no_draws draws k left hleft, fill_of_no_draws draws _ right hright]
  | concat delimiter items, h => by
    obtain ⟨hdelimiter, hitems⟩ := Nat.add_eq_zero_iff.1 h
    rw [fill, fill_of_no_draws draws k delimiter hdelimiter,
      fillItems_of_no_draws draws _ items hitems]
  | rand, h => by cases h

theorem fillItems_of_no_draws (draws : Nat → Float) (k : Nat) : ∀ items : List Expr,
    drawCounts items = 0 → fillItems draws k items = items
  | [], _ => rfl
  | item :: items, h => by
    obtain ⟨hitem, hitems⟩ := Nat.add_eq_zero_iff.1 h
    rw [fillItems, fill_of_no_draws draws k item hitem,
      fillItems_of_no_draws draws _ items hitems]

end

/-- A tree without random nodes that has a value once has it always, and never moves the
    source. -/
theorem trial_of_no_draws {e : Expr} {params : Params} {source : Source} {v : Value}
    (hdraws : e.drawCount = 0) (hv : (e.trial params source).outcome = .ok v) (other : Source) :
    e.trial params other = ⟨.ok v, other⟩ := by
  have hreplayed : (e.trial params source).Replayed other
      ((e.fill source.ahead 0).trial params other) := trial_fill params source other 0 e
  -- With nothing to fill in, the tree replays itself.
  rw [fill_of_no_draws _ _ e hdraws] at hreplayed
  unfold Trial.Replayed Trial.bare at hreplayed
  rw [hv] at hreplayed
  have houtcome := congrArg Trial.outcome hreplayed
  have hsource := congrArg Trial.source hreplayed
  cases ht : (e.trial params other).outcome with
  | error err =>
    rw [ht] at houtcome
    cases houtcome
  | ok w =>
    rw [ht] at houtcome
    cases houtcome
    exact Trial.ext ht hsource

/-! ### Names -/

mutual

/-- Parameters that agree on the names in a tree make the same evaluation of it, events and notes
    included. -/
theorem eval_congr {params params' : Params} : ∀ e : Expr,
    (∀ name, param name ∈ e.nodes → params name = params' name) →
      e.eval params = e.eval params'
  | constant _, _ => by rw [eval, eval]
  | param name, h => by
    rw [eval, eval, h name (List.mem_singleton.2 rfl)]
  | not operand, h => by
    have hoperand := eval_congr operand fun name hname => h name (by simp [nodes, hname])
    rw [eval, eval, hoperand]
  | binary _ _ left right, h => by
    have hleft := eval_congr left fun name hname => h name (by simp [nodes, hname])
    have hright := eval_congr right fun name hname => h name (by simp [nodes, hname])
    rw [eval, eval, hleft, hright]
  | concat delimiter items, h => by
    have hdelimiter := eval_congr delimiter fun name hname => h name (by simp [nodes, hname])
    have hitems := evalItems_congr items fun name hname => h name (by simp [nodes, hname])
    rw [eval, eval, hdelimiter, hitems]
  | rand, _ => by rw [eval, eval]

theorem evalItems_congr {params params' : Params} : ∀ items : List Expr,
    (∀ name, param name ∈ itemNodes items → params name = params' name) →
      evalItems params items = evalItems params' items
  | [], _ => by rw [evalItems, evalItems]
  | item :: items, h => by
    have hitem := eval_congr item fun name hname => h name (by simp [itemNodes, hname])
    have hitems := evalItems_congr items fun name hname => h name (by simp [itemNodes, hname])
    rw [evalItems, evalItems, hitem, hitems]

end

/-! ### The substitution law -/

section Substitution

variable {params params' : Params} {x : String} {e : Expr} {v : Value}

mutual

/-- With the value of `e` for the name `x`, a tree comes to what it comes to with `e` in the
    place of `x`. -/
theorem trial_subst (hx : params' x = v) (hother : ∀ name, name ≠ x → params' name = params name)
    (he : ∀ source, e.trial params source = ⟨.ok v, source⟩) : ∀ (f : Expr) (source : Source),
      ((f.subst x e).trial params source).bare = (f.trial params' source).bare
  | constant _, source => by
    rw [subst, trial_constant, trial_constant]
  | param name, source => by
    rw [subst, trial_param]
    by_cases h : name = x
    · -- Here the copy of `e` stands, and the state of the source there makes no difference to it.
      rw [if_pos h, he, h, hx]
    · rw [if_neg h, trial_param, hother name h]
  | not operand, source => by
    rw [subst, trial_not, trial_not]
    -- Two different trees are negated here, and only their notes tell.
    have hoperand := trial_subst hx hother he operand
    simp only [Trial.bare_andThen, hoperand, bare_negateAt]
  | binary op coercion left right, source => by
    rw [subst, trial_binary, trial_binary]
    have hleft := trial_subst hx hother he left
    have hright := trial_subst hx hother he right
    simp only [Trial.bare_andThen, hleft, hright]
  | concat delimiter items, source => by
    rw [subst, trial_concat, trial_concat]
    have hdelimiter := trial_subst hx hother he delimiter
    have hitems := trialItems_subst hx hother he items
    simp only [Trial.bare_andThen, hdelimiter, hitems]
  | rand, source => by
    rw [subst, trial_rand, trial_rand]

theorem trialItems_subst (hx : params' x = v)
    (hother : ∀ name, name ≠ x → params' name = params name)
    (he : ∀ source, e.trial params source = ⟨.ok v, source⟩) :
    ∀ (items : List Expr) (source : Source),
      (trialItems (substItems x items e) params source).bare =
        (trialItems items params' source).bare
  | [], source => by
    rw [substItems, trialItems_nil, trialItems_nil]
  | item :: items, source => by
    rw [substItems, trialItems_cons, trialItems_cons]
    have hitem := trial_subst hx hother he item
    have hitems := trialItems_subst hx hother he items
    simp only [Trial.bare_andThen, hitem, hitems]

end

end Substitution

/-- **Substitution**: if `e` has no random nodes and evaluates to `v` under a table of bindings,
    then putting `e` in every place of the name `x` has the same outcome, up to notes, and the
    same draws as binding `x` to `v`. The table may bind `x` already, and `e` may mention it. A
    binding for a name that does not occur in a tree changes nothing at all. -/
theorem run_subst (b : Bindings) (x : String) (e f : Expr) :
    (∀ (v : Value) (s₀ : EvalState), e.drawCount = 0 → (e.run b.toParams s₀).1 = .ok v →
      ∀ s : EvalState,
        ((f.subst x e).run b.toParams s).1.mapError EvalError.bare =
            (f.run (b.insert x v).toParams s).1.mapError EvalError.bare ∧
          ((f.subst x e).run b.toParams s).2.source =
            (f.run (b.insert x v).toParams s).2.source) ∧
      (param x ∉ f.nodes → ∀ (w : Value) (s : EvalState),
        f.run (b.insert x w).toParams s = f.run b.toParams s) := by
  constructor
  · intro v s₀ hdraws hv s
    rw [run_outcome] at hv
    have hx : (b.insert x v).toParams x = v := by
      rw [Bindings.toParams_insert, if_pos rfl]
    have hother : ∀ name, name ≠ x → (b.insert x v).toParams name = b.toParams name := by
      intro name hname
      rw [Bindings.toParams_insert, if_neg hname]
    have hsubst := trial_subst hx hother (trial_of_no_draws hdraws hv) f s.source
    rw [run_outcome, run_outcome, run_source, run_source]
    exact Trial.bare_eq_iff.1 hsubst
  · intro hx w s
    have heval : f.eval (b.insert x w).toParams = f.eval b.toParams := by
      apply eval_congr
      intro name hname
      have hne : name ≠ x := by
        intro h
        exact hx (h ▸ hname)
      rw [Bindings.toParams_insert, if_neg hne]
    unfold run
    rw [heval]

/-- The law at a tree that mentions the name itself, for a name that is bound already. -/
theorem run_subst_successor :
    let b := Bindings.ofList [("x", .int 2)]
    let e := binary (.arithmetic .add) .strict (param "x") (constant (.int 1))
    let f := concat (param "x") [rand, not (param "x")]
    let s : EvalState := ⟨⟨fun _ => 0.5, 0⟩, #[]⟩
    (e.drawCount = 0 ∧ (e.run b.toParams s).1 = .ok (.int 3) ∧
      ((f.subst "x" e).run b.toParams s).1.mapError EvalError.bare =
        (f.run (b.insert "x" (.int 3)).toParams s).1.mapError EvalError.bare) ∧
      param "y" ∉ f.nodes ∧
        f.run (b.insert "y" .null).toParams s = f.run b.toParams s := by
  intro b e f s
  have hdraws : e.drawCount = 0 := rfl
  have hv : (e.run b.toParams s).1 = .ok (.int 3) := rfl
  have hy : param "y" ∉ f.nodes := by simp [f, nodes, itemNodes]
  exact ⟨⟨hdraws, hv, ((run_subst b "x" e f).1 _ s hdraws hv s).1⟩, hy,
    (run_subst b "y" e f).2 hy .null s⟩

end DynExpr.Expr
