import DynExpr.Proofs.Evaluation.Failure

/-! # Draws in the order of the walk

    The random nodes of a tree take the draws of the source one by one, in
    the order in which the walk meets them:

    * **Filling**: `Expr.fill` writes given draws into the random nodes. What
      is left draws nothing, and `Expr.trial_fill` says that it evaluates as
      the tree does.
    * **Counting**: a success has taken one draw for each random node, a
      failure one for each random node that the walk meets before the failing
      negation, and the next evaluation goes on behind them.
-/

namespace DynExpr

/-- The draws that are still to come, counted from 0. -/
def Source.ahead (source : Source) (i : Nat) : Float := source.stream (source.taken + i)

theorem Source.skip_skip (source : Source) (n m : Nat) :
    (source.skip n).skip m = source.skip (n + m) := by
  rw [skip, skip, skip, Nat.add_assoc]

namespace Expr

/-! ### Filling -/

mutual

/-- The tree with draws written into its random nodes, in the order of the walk and from
    number `k` on. -/
def fill (draws : Nat → Float) (k : Nat) : Expr → Expr
  | constant v => constant v
  | param name => param name
  | not operand => not (operand.fill draws k)
  | binary op coercion left right =>
    binary op coercion (left.fill draws k) (right.fill draws (k + left.drawCount))
  | concat delimiter items =>
    concat (delimiter.fill draws k) (fillItems draws (k + delimiter.drawCount) items)
  | rand => constant (.float (draws k))

/-- Some items with draws written into their random nodes. -/
def fillItems (draws : Nat → Float) (k : Nat) : List Expr → List Expr
  | [] => []
  | item :: items => item.fill draws k :: fillItems draws (k + item.drawCount) items

end

mutual

/-- Every node of the walk is filled from its own offset on; a random node with the draw of that
    number. -/
theorem nodes_fill (draws : Nat → Float) (k : Nat) : ∀ e : Expr,
    (e.fill draws k).nodes = (e.walkFrom k).map fun visit => visit.node.fill draws visit.offset
  | constant _ | param _ | rand => rfl
  | not operand => by
    have hoperand := nodes_fill draws k operand
    simp [fill, nodes, walkFrom, hoperand]
  | binary _ _ left right => by
    have hleft := nodes_fill draws k left
    have hright := nodes_fill draws (k + left.drawCount) right
    simp [fill, nodes, walkFrom, hleft, hright]
  | concat delimiter items => by
    have hdelimiter := nodes_fill draws k delimiter
    have hitems := itemNodes_fill draws (k + delimiter.drawCount) items
    simp [fill, nodes, walkFrom, hdelimiter, hitems]

theorem itemNodes_fill (draws : Nat → Float) (k : Nat) : ∀ items : List Expr,
    itemNodes (fillItems draws k items) =
      (walkItemsFrom k items).map fun visit => visit.node.fill draws visit.offset
  | [] => rfl
  | item :: items => by
    have hitem := nodes_fill draws k item
    have hitems := itemNodes_fill draws (k + item.drawCount) items
    simp [fillItems, itemNodes, walkItemsFrom, hitem, hitems]

end

end Expr

/-! ### Replaying

    A filled tree has no draws to take, so it leaves its source alone. Part
    by part it comes to what the tree itself comes to at that place in the
    stream.
-/

/-- The second trial has the outcome of the first one, up to notes, without moving `other`. -/
def Trial.Replayed {α : Type} (other : Source) (t t' : Trial α) : Prop :=
  t'.bare = ⟨t.bare.outcome, other⟩

theorem Trial.Replayed.andThen {α β : Type} {other : Source} {first first' : Trial α}
    {rest rest' : α → Source → Trial β} (hfirst : first.Replayed other first')
    (hrest : ∀ a middle, first = ⟨.ok a, middle⟩ →
      (rest a middle).Replayed other (rest' a other)) :
    (first.andThen rest).Replayed other (first'.andThen rest') := by
  unfold Replayed at hfirst ⊢
  rw [Trial.bare_andThen, hfirst]
  rcases first with ⟨_ | a, middle⟩
  · -- Both fail with the same error, up to notes, and the second one has not moved `other`.
    rfl
  · exact hrest a middle rfl

/-- A trial that succeeds has taken all its draws. -/
theorem Trial.Settled.source_eq {α : Type} {params : Params} {source finish middle : Source}
    {visits : List Visit} {a : α}
    (h : (⟨.ok a, middle⟩ : Trial α).Settled params source visits finish) : middle = finish := by
  unfold Settled at h
  cases hfirst : Visit.firstRejection? params source visits with
  | none =>
    rw [hfirst] at h
    obtain ⟨_, h⟩ := h
    cases h
    rfl
  | some r =>
    rw [hfirst] at h
    cases h

namespace Expr

variable (params : Params) (source other : Source)

theorem source_of_trial_ok {k : Nat} {e : Expr} {v : Value} {middle : Source}
    (h : e.trial params (source.skip k) = ⟨.ok v, middle⟩) :
    middle = source.skip (k + e.drawCount) := by
  have hsettled := trial_settled params source k e
  rw [h] at hsettled
  exact hsettled.source_eq

mutual

/-- A tree filled with the draws ahead replays the tree. -/
theorem trial_fill (k : Nat) : ∀ e : Expr,
    (e.trial params (source.skip k)).Replayed other
      ((e.fill source.ahead k).trial params other)
  | constant v => by
    rw [fill, trial_constant, trial_constant]
    rfl
  | param name => by
    rw [fill, trial_param, trial_param]
    rfl
  | not operand => by
    rw [fill, trial_not, trial_not]
    refine (trial_fill k operand).andThen fun v middle _ => ?_
    rw [Trial.Replayed, bare_negateAt, bare_negateAt]
  | binary op coercion left right => by
    rw [fill, trial_binary, trial_binary]
    refine (trial_fill k left).andThen fun l middle hl => ?_
    -- The left operand has taken its draws, and the right one was filled from there on.
    rw [source_of_trial_ok params source hl]
    exact (trial_fill (k + left.drawCount) right).andThen fun r _ _ => rfl
  | concat delimiter items => by
    rw [fill, trial_concat, trial_concat]
    refine (trial_fill k delimiter).andThen fun d middle hd => ?_
    rw [source_of_trial_ok params source hd]
    exact (trialItems_fill (k + delimiter.drawCount) items).andThen fun texts _ _ => rfl
  | rand => by
    rw [fill, trial_constant, trial_rand]
    rfl

theorem trialItems_fill (k : Nat) : ∀ items : List Expr,
    (trialItems items params (source.skip k)).Replayed other
      (trialItems (fillItems source.ahead k items) params other)
  | [] => by
    rw [fillItems, trialItems_nil, trialItems_nil]
    rfl
  | item :: items => by
    rw [fillItems, trialItems_cons, trialItems_cons]
    refine (trial_fill k item).andThen fun v middle hv => ?_
    rw [source_of_trial_ok params source hv]
    exact (trialItems_fill (k + item.drawCount) items).andThen fun texts _ _ => rfl

end

/-! ### Counting -/

variable (s : EvalState) (e : Expr)

/-- Filled with the draws ahead, the tree has the same outcome up to notes, from any state and
    without a draw. -/
theorem run_fill (t : EvalState) :
    (((e.fill s.source.ahead 0).run params t).1.mapError EvalError.bare =
        (e.run params s).1.mapError EvalError.bare) ∧
      ((e.fill s.source.ahead 0).run params t).2.source = t.source := by
  have h : (e.trial params s.source).Replayed t.source
      ((e.fill s.source.ahead 0).trial params t.source) :=
    trial_fill params s.source t.source 0 e
  unfold Trial.Replayed at h
  rw [run_outcome, run_outcome, run_source]
  exact ⟨congrArg Trial.outcome h, congrArg Trial.source h⟩

/-- A failing evaluation has met all random nodes before the failing negation, and no other. -/
theorem drawn_of_firstRejection {r : Rejection}
    (h : Visit.firstRejection? params source e.walk = some r) :
    ∃ before visit after,
      e.walk = before ++ visit :: after ∧
      (∀ earlier ∈ before, ∀ operand v, ¬ earlier.Rejects params source operand v) ∧
      visit.Rejects params source r.operand r.value ∧ r.drawn = Visit.drawnBy before := by
  obtain ⟨before, visit, after, hsplit, hbefore, hrejects, hoffset⟩ :=
    (Visit.firstRejection?_eq_some_iff params source).1 h
  refine ⟨before, visit, after, hsplit, hbefore, hrejects, ?_⟩
  have hcount := drawnBy_of_walk hsplit
  -- A negation draws nothing itself, so all draws up to it are of the nodes before it.
  rw [hrejects.drawn_eq_zero, hrejects.1, hoffset] at hcount
  exact hcount.symm

/-- **Draws in order**: the random nodes of a tree are numbered from 0 along the walk, and node
    number `i` receives draw number `i` of those ahead. So the tree has the outcome, up to notes,
    of the tree with these draws written into it. If it succeeds it has taken one draw for each
    random node; if it fails, one for each random node that the walk meets before the failing
    negation. Whatever is evaluated next receives the draws behind those taken. -/
theorem run_takes_draws_in_order :
    (e.walk.filter (·.node.isRand)).map Visit.offset = List.range e.drawCount ∧
      (e.fill s.source.ahead 0).nodes =
        e.walk.map (fun visit => visit.node.fill s.source.ahead visit.offset) ∧
      (∀ t : EvalState,
        ((e.fill s.source.ahead 0).run params t).1.mapError EvalError.bare =
            (e.run params s).1.mapError EvalError.bare ∧
          ((e.fill s.source.ahead 0).run params t).2.source = t.source) ∧
      ∃ n,
        (e.run params s).2.source = s.source.skip n ∧
        (∀ v, (e.run params s).1 = .ok v → n = e.drawCount) ∧
        (∀ err, (e.run params s).1 = .error err →
          ∃ before visit after operand v,
            e.walk = before ++ visit :: after ∧
            (∀ earlier ∈ before, ∀ operand' v', ¬ earlier.Rejects params s.source operand' v') ∧
            visit.Rejects params s.source operand v ∧
            n = Visit.drawnBy before) ∧
        ∀ (next : Expr) (params' : Params) (t : EvalState),
          ((next.fill (fun i => s.source.ahead (n + i)) 0).run params' t).1.mapError
              EvalError.bare =
            (next.run params' (e.run params s).2).1.mapError EvalError.bare := by
  refine ⟨walk_rand_offsets e, nodes_fill _ 0 e, run_fill params s e, ?_⟩
  -- Once the number of draws is known, the next evaluation is one more filled tree.
  have hnext : ∀ n, (e.run params s).2.source = s.source.skip n →
      ∀ (next : Expr) (params' : Params) (t : EvalState),
        ((next.fill (fun i => s.source.ahead (n + i)) 0).run params' t).1.mapError
            EvalError.bare =
          (next.run params' (e.run params s).2).1.mapError EvalError.bare := by
    intro n hsource next params' t
    have hahead : (e.run params s).2.source.ahead = fun i => s.source.ahead (n + i) := by
      funext i
      rw [hsource]
      exact congrArg s.source.stream (Nat.add_assoc ..)
    rw [← hahead]
    exact (run_fill params' (e.run params s).2 next t).1
  have hsettled := run_settled params s e
  unfold Trial.Settled at hsettled
  cases hfirst : Visit.firstRejection? params s.source e.walk with
  | none =>
    rw [hfirst] at hsettled
    obtain ⟨v, hv⟩ := hsettled
    have hsource : (e.run params s).2.source = s.source.skip e.drawCount := by
      rw [run_source, hv]
    refine ⟨e.drawCount, hsource, fun _ _ => rfl, ?_, hnext _ hsource⟩
    intro err herr
    rw [run_outcome, hv] at herr
    cases herr
  | some r =>
    rw [hfirst] at hsettled
    have hsource : (e.run params s).2.source = s.source.skip r.drawn := by
      rw [run_source, hsettled]
    refine ⟨r.drawn, hsource, ?_, ?_, hnext _ hsource⟩
    · intro v hv
      rw [run_outcome, hsettled] at hv
      cases hv
    · intro err _
      obtain ⟨before, visit, after, hsplit, hbefore, hrejects, hdrawn⟩ :=
        drawn_of_firstRejection params s.source e hfirst
      exact ⟨before, visit, after, r.operand, r.value, hsplit, hbefore, hrejects, hdrawn⟩

end Expr

end DynExpr
