import DynExpr.Proofs.Arithmetic.Operation
import DynExpr.Proofs.Evaluation.Failure

/-! # Kinds of results

    What a node is decides of which kinds its value can be, whatever its parts
    come to:

    * **Operators**: comparisons and `LIKE` answer with a truth value, and
      arithmetic with a number or null (`BinaryOp.kind_apply`).
    * **Nodes**: `Expr.kinds` lists the kinds of a node, and
      `Expr.trial_kind` says that its value is of one of them.
    * **Negations**: only negations fail, so a tree that negates nothing but
      truth values evaluates without an error.
-/

namespace DynExpr

/-! ### Operators -/

namespace BinaryOp

/-- The kinds of which the result of an operator can be. -/
def kinds : BinaryOp → List Kind
  | comparison _ | like => [.bool]
  | arithmetic _        => [.null, .uint, .int, .float]

theorem kinds_of_isComparison {op : BinaryOp} (h : op.isComparison) : op.kinds = [.bool] := by
  cases op with
  | comparison c => rfl
  | like => rfl
  | arithmetic a => cases h

/-- Whatever the operands are, the result is of a kind of the operator. -/
theorem kind_apply (op : BinaryOp) (l r : Value) : (op.apply l r).kind ∈ op.kinds := by
  cases op with
  | comparison c => exact List.mem_singleton.2 rfl
  | like =>
    -- Both the pattern and the equality that stands in for it give a truth value.
    have hbool : (like.apply l r).kind = .bool := by
      unfold apply
      split <;> trivial
    exact List.mem_singleton.2 hbool
  | arithmetic a =>
    have hnumber : (a.apply l r).IsNumberOrNull := a.apply_isNumberOrNull l r
    show (a.apply l r).kind ∈ (arithmetic a).kinds
    unfold Value.IsNumberOrNull at hnumber
    generalize (a.apply l r).kind = kind at hnumber ⊢
    revert hnumber
    cases kind <;> simp [kinds, Kind.isNumeric]

end BinaryOp

/-! ### Nodes -/

namespace Expr

/-- The kinds of which the value of a node can be. -/
def kinds : Expr → List Kind
  | constant v      => [v.kind]
  | param _         => Kind.all
  | not _           => [.bool]
  | binary op _ _ _ => op.kinds
  | concat _ _      => [.string]
  | rand            => [.float]

/-- Negations, comparisons, `LIKE` and constant truth values: the nodes that show that their
    value is a truth value. -/
def isTruth : Expr → Bool
  | constant (.bool _) => true
  | not _              => true
  | binary op _ _ _    => op.isComparison
  | _                  => false

/-- Every negation in the tree is of a node that shows that its value is a truth value. -/
def NegatesTruths (e : Expr) : Prop := ∀ operand, not operand ∈ e.nodes → operand.isTruth

theorem kinds_of_isTruth {e : Expr} (h : e.isTruth) : e.kinds = [.bool] := by
  cases e with
  | constant v =>
    cases v with
    | bool b => rfl
    | null | uint | int | float | str | timestamp => cases h
  | not operand => rfl
  | binary op coercion left right => exact BinaryOp.kinds_of_isComparison h
  | param | concat | rand => cases h

variable (params : Params)

/-- If a node has a value, then of one of its kinds. -/
theorem trial_kind {e : Expr} {source : Source} {v : Value}
    (h : (e.trial params source).outcome = .ok v) : v.kind ∈ e.kinds := by
  cases e with
  | constant w =>
    rw [trial_constant] at h
    cases h
    exact List.mem_singleton.2 rfl
  | param name =>
    rw [trial_param] at h
    cases h
    show (params name).kind ∈ Kind.all
    cases (params name).kind <;> decide
  | not operand =>
    rw [trial_not] at h
    obtain ⟨w, source', -, hw⟩ := Trial.exists_of_andThen_ok h
    cases w with
    | bool b =>
      cases hw
      exact List.mem_singleton.2 rfl
    | null | uint | int | float | str | timestamp => cases hw
  | binary op coercion left right =>
    rw [trial_binary] at h
    obtain ⟨l, source', -, hl⟩ := Trial.exists_of_andThen_ok h
    obtain ⟨r, source'', -, hr⟩ := Trial.exists_of_andThen_ok hl
    cases hr
    exact op.kind_apply _ _
  | concat delimiter items =>
    rw [trial_concat] at h
    obtain ⟨d, source', -, hd⟩ := Trial.exists_of_andThen_ok h
    obtain ⟨texts, source'', -, htexts⟩ := Trial.exists_of_andThen_ok hd
    cases htexts
    exact List.mem_singleton.2 rfl
  | rand =>
    rw [trial_rand] at h
    cases h
    exact List.mem_singleton.2 rfl

/-! ### Negations -/

/-- A negation of a node that shows a truth value is never rejected. -/
theorem not_rejects_of_isTruth {source : Source} {visit : Visit} {operand : Expr} {v : Value}
    (h : operand.isTruth) : ¬ visit.Rejects params source operand v := by
  intro hrejects
  obtain ⟨-, hvalue, hkind⟩ := hrejects
  have hmem := trial_kind params hvalue
  rw [kinds_of_isTruth h] at hmem
  exact hkind (List.mem_singleton.1 hmem)

/-- A tree that negates only truth values has a value from every state. -/
theorem NegatesTruths.run_ok {e : Expr} (h : e.NegatesTruths) (s : EvalState) :
    ∃ v, (e.run params s).1 = .ok v := by
  cases hrun : (e.run params s).1 with
  | ok v => exact ⟨v, rfl⟩
  | error err =>
    -- A failure would be of a negation on the walk, and so of one in the tree.
    obtain ⟨r, hfirst, -⟩ := (run_eq_error_iff params s e).1 hrun
    obtain ⟨before, visit, after, hsplit, -, hrejects, -⟩ :=
      (Visit.firstRejection?_eq_some_iff params s.source).1 hfirst
    have hnode : visit.node = not r.operand := hrejects.1
    have hmem : not r.operand ∈ e.nodes := by
      rw [← walkFrom_nodes 0 e, ← hnode]
      apply List.mem_map_of_mem
      rw [← walk, hsplit]
      exact List.mem_append_right _ List.mem_cons_self
    exact absurd hrejects (not_rejects_of_isTruth params (h r.operand hmem))

/-- **Kind discipline**: under all parameters and from every state, if a node has a value, then
    it is of a kind that `kinds` lists for the node: a truth value for comparisons, `LIKE` and
    negations, null or a number for arithmetic, a text for concatenations and a float for random
    nodes. So a tree in which every negation is of a negation, a comparison, `LIKE` or a constant
    truth value never fails, whatever the parameters and policies are. -/
theorem run_kind_discipline (s : EvalState) (e : Expr) :
    (∀ v, (e.run params s).1 = .ok v → v.kind ∈ e.kinds) ∧
      (e.NegatesTruths → ∃ v, (e.run params s).1 = .ok v) := by
  constructor
  · intro v hv
    rw [run_outcome] at hv
    exact trial_kind params hv
  · intro htruths
    exact htruths.run_ok params s

/-- A negation of a negated `LIKE` over an unbound name and a random float does not fail. -/
theorem run_kind_discipline_not_not_like :
    let e := not (not (binary .like .lenient (param "unbound") rand))
    e.NegatesTruths ∧ ∀ s, ∃ v, (e.run Params.none s).1 = .ok v := by
  intro e
  have htruths : e.NegatesTruths := by
    intro operand hmem
    have hcases : operand = binary .like .lenient (param "unbound") rand ∨
        operand = not (binary .like .lenient (param "unbound") rand) := by
      simpa [e, nodes] using hmem
    rcases hcases with rfl | rfl <;> rfl
  exact ⟨htruths, fun s => (run_kind_discipline Params.none s e).2 htruths⟩

end Expr

end DynExpr
