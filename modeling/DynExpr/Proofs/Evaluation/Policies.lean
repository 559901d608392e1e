import DynExpr.Proofs.Coercion.CommonKind
import DynExpr.Proofs.Evaluation.Reached

/-! # Later policies

    A policy later in the chain accepts more operands, and changes nothing
    where an earlier one was enough:

    * **Loosened trees**: `Expr.Loosened` relates a tree to the trees in which
      any of its binary nodes have a later policy.
    * **Falling through**: `Visit.FallsThrough` says that a binary node comes
      to the default result of its operator, for want of a common kind.
    * **Conservation**: as long as no node that is reached falls through, a
      loosened tree has the outcome of the tree, notes included, and takes the
      same draws (`Expr.run_loosened`).
-/

namespace DynExpr

/-! ### Falling through -/

/-- On a walk that starts with `source`, the visit is of a binary node whose operands, as its own
    policy leaves them, are of different kinds and not null. -/
def Visit.FallsThrough (params : Params) (source : Source) (visit : Visit) : Prop :=
  ∃ op policy l r, visit.Applies params source op policy l r ∧
    BinaryOp.mismatched (policy.operands l r).1 (policy.operands l r).2

namespace Expr

/-! ### Loosened trees -/

mutual

/-- The second tree is the first one with later policies at any of its binary nodes. -/
inductive Loosened : Expr → Expr → Prop where
  | constant (v : Value) : Loosened (constant v) (constant v)
  | param (name : String) : Loosened (param name) (param name)
  | not {operand operand' : Expr} (h : Loosened operand operand') :
      Loosened (not operand) (not operand')
  | binary {op : BinaryOp} {policy later : Coercion} {left left' right right' : Expr}
      (hrank : policy.rank ≤ later.rank) (hleft : Loosened left left')
      (hright : Loosened right right') :
      Loosened (binary op policy left right) (binary op later left' right')
  | concat {delimiter delimiter' : Expr} {items items' : List Expr}
      (hdelimiter : Loosened delimiter delimiter') (hitems : LoosenedItems items items') :
      Loosened (concat delimiter items) (concat delimiter' items')
  | rand : Loosened rand rand

/-- The same for some items, one by one. -/
inductive LoosenedItems : List Expr → List Expr → Prop where
  | nil : LoosenedItems [] []
  | cons {item item' : Expr} {items items' : List Expr} (hitem : Loosened item item')
      (hitems : LoosenedItems items items') : LoosenedItems (item :: items) (item' :: items')

end

mutual

/-- Policies are not rendered. -/
theorem render_loosened : ∀ e : Expr, ∀ {e' : Expr}, Loosened e e' → e'.render = e.render
  | constant _, _, .constant _ => rfl
  | param _, _, .param _ => rfl
  | not operand, _, .not h => by
    rw [render_not, render_not, render_loosened operand h]
  | binary _ _ left right, _, .binary _ hleft hright => by
    rw [render_binary, render_binary, render_loosened left hleft, render_loosened right hright]
  | concat delimiter items, _, .concat hdelimiter hitems => by
    rw [render_concat, render_concat, render_loosened delimiter hdelimiter,
      renderItems_loosened items hitems]
  | rand, _, .rand => rfl

theorem renderItems_loosened : ∀ items : List Expr, ∀ {items' : List Expr},
    LoosenedItems items items' → renderItems items' = renderItems items
  | [], _, .nil => rfl
  | item :: items, _, .cons hitem hitems => by
    rw [renderItems_cons, renderItems_cons, render_loosened item hitem,
      renderItems_loosened items hitems]

end

/-! ### Conservation -/

section Conservation

variable (params : Params) (source : Source)

/-- Operands that fit after the policy of a node make the same result after a later policy. -/
theorem applyUnder_loosened {visit : Visit} {op : BinaryOp} {policy later : Coercion}
    {l r : Value} (hrank : policy.rank ≤ later.rank)
    (happlies : visit.Applies params source op policy l r)
    (hfit : ¬ visit.FallsThrough params source) :
    (op.applyUnder later l r).1 = (op.applyUnder policy l r).1 := by
  have hoperands : later.operands l r = policy.operands l r :=
    Coercion.operands_of_rank_le hrank fun hmismatched =>
      hfit ⟨op, policy, l, r, happlies, hmismatched⟩
  show op.apply (later.operands l r).1 (later.operands l r).2 = _
  rw [hoperands]
  rfl

mutual

/-- If no node of a tree falls through, a loosened tree comes to the same. -/
theorem trial_loosened (k : Nat) : ∀ e : Expr, ∀ {e' : Expr}, Loosened e e' →
    (∀ visit ∈ Visit.reached params source (e.walkFrom k), ¬ visit.FallsThrough params source) →
      e'.trial params (source.skip k) = e.trial params (source.skip k)
  | constant _, _, .constant _, _ => rfl
  | param _, _, .param _, _ => rfl
  | not operand, _, .not h, hfits => by
    rw [walkFrom, Visit.forall_reached_append] at hfits
    rw [trial_not, trial_not, trial_loosened k operand h hfits.1]
    -- Both negations note the same rendering.
    unfold negateAt
    rw [render_not, render_not, render_loosened operand h]
  | binary op policy left right, _, .binary hrank hleft hright, hfits => by
    rw [walkFrom, List.append_assoc, Visit.forall_reached_append] at hfits
    obtain ⟨hfitsLeft, hfits⟩ := hfits
    rw [trial_binary, trial_binary, trial_loosened k left hleft hfitsLeft]
    refine Trial.andThen_congr fun l middle hl => ?_
    obtain ⟨hnone, rfl⟩ := of_trial_ok hl
    have hfits := hfits hnone
    rw [Visit.forall_reached_append, Visit.reached_singleton, List.forall_mem_singleton] at hfits
    obtain ⟨hfitsRight, hfit⟩ := hfits
    rw [trial_loosened (k + left.drawCount) right hright hfitsRight]
    refine Trial.andThen_congr fun r middle hr => ?_
    -- Both operands have a value now, so the node itself is reached and has to fit.
    obtain ⟨hnone, -⟩ := of_trial_ok hr
    have happlies : Visit.Applies params source ⟨k, binary op policy left right⟩ op policy l r :=
      ⟨left, right, rfl, congrArg Trial.outcome hl, congrArg Trial.outcome hr⟩
    rw [applyUnder_loosened params source hrank happlies (hfit hnone)]
  | concat delimiter items, _, .concat hdelimiter hitems, hfits => by
    rw [walkFrom, List.append_assoc, Visit.forall_reached_append] at hfits
    obtain ⟨hfitsDelimiter, hfits⟩ := hfits
    rw [trial_concat, trial_concat, trial_loosened k delimiter hdelimiter hfitsDelimiter]
    refine Trial.andThen_congr fun d middle hd => ?_
    obtain ⟨hnone, rfl⟩ := of_trial_ok hd
    have hfits := hfits hnone
    rw [Visit.forall_reached_append] at hfits
    rw [trialItems_loosened (k + delimiter.drawCount) items hitems hfits.1]
  | rand, _, .rand, _ => rfl

theorem trialItems_loosened (k : Nat) : ∀ items : List Expr, ∀ {items' : List Expr},
    LoosenedItems items items' →
    (∀ visit ∈ Visit.reached params source (walkItemsFrom k items),
      ¬ visit.FallsThrough params source) →
      trialItems items' params (source.skip k) = trialItems items params (source.skip k)
  | [], _, .nil, _ => rfl
  | item :: items, _, .cons hitem hitems, hfits => by
    rw [walkItemsFrom, Visit.forall_reached_append] at hfits
    obtain ⟨hfitsItem, hfits⟩ := hfits
    rw [trialItems_cons, trialItems_cons, trial_loosened k item hitem hfitsItem]
    refine Trial.andThen_congr fun v middle hv => ?_
    obtain ⟨hnone, rfl⟩ := of_trial_ok hv
    rw [trialItems_loosened (k + item.drawCount) items hitems (hfits hnone)]

end

end Conservation

/-- **Conservation**: if no binary node that an evaluation reaches falls through to a default
    result, then with later policies at any of its binary nodes the tree has the same value or the
    same error, notes included, and takes the same draws. -/
theorem run_loosened (params : Params) (s : EvalState) {e e' : Expr} (h : Loosened e e')
    (hfits : ∀ visit ∈ e.reached params s.source, ¬ visit.FallsThrough params s.source) :
    (e'.run params s).1 = (e.run params s).1 ∧
      (e'.run params s).2.source = (e.run params s).2.source := by
  have htrial : e'.trial params s.source = e.trial params s.source :=
    trial_loosened params s.source 0 e h hfits
  rw [run_outcome, run_outcome, run_source, run_source, htrial]
  exact ⟨rfl, rfl⟩

/-- A failing negation of a sum of unlike integers, behind two equal draws: under the last policy
    everywhere it fails with the same error after the same draws. -/
theorem run_loosened_failing_sum :
    let sum (policy : Coercion) :=
      binary (.arithmetic .add) policy (constant (.uint 2)) (constant (.int (-3)))
    let e := concat (binary (.comparison .eq) .strict rand rand) [not (sum .numeric)]
    let e' := concat (binary (.comparison .eq) .lenient rand rand) [not (sum .lenient)]
    let s : EvalState := ⟨⟨fun _ => 0.5, 0⟩, #[]⟩
    (Loosened e e' ∧
        ∀ visit ∈ e.reached Params.none s.source, ¬ visit.FallsThrough Params.none s.source) ∧
      (e'.run Params.none s).1 = (e.run Params.none s).1 ∧
      (e'.run Params.none s).2.source = (e.run Params.none s).2.source := by
  intro sum e e' s
  have hloosened : Loosened e e' := by
    refine .concat (.binary (by decide) .rand .rand) (.cons (.not ?_) .nil)
    exact .binary (by decide) (.constant _) (.constant _)
  have hfits : ∀ visit ∈ e.reached Params.none s.source,
      ¬ visit.FallsThrough Params.none s.source := by
    intro visit hmem hfalls
    obtain ⟨op, policy, l, r, ⟨left, right, hnode, hl, hr⟩, hmismatched⟩ := hfalls
    have hnodes := node_mem_of_mem_reached hmem
    have hcases : op = .comparison .eq ∧ policy = .strict ∧ left = rand ∧ right = rand ∨
        op = .arithmetic .add ∧ policy = .numeric ∧ left = constant (.uint 2) ∧
          right = constant (.int (-3)) := by
      simpa [hnode, e, sum, nodes, itemNodes] using hnodes
    rcases hcases with ⟨rfl, rfl, rfl, rfl⟩ | ⟨rfl, rfl, rfl, rfl⟩
    · -- Two draws are of one kind as they are.
      rw [trial_rand] at hl hr
      cases hl
      cases hr
      cases hmismatched
    · -- The sum is promoted: 2 fits the signed kind.
      rw [trial_constant] at hl hr
      cases hl
      cases hr
      revert hmismatched
      decide
  exact ⟨⟨hloosened, hfits⟩, run_loosened Params.none s hloosened hfits⟩

end Expr

end DynExpr
