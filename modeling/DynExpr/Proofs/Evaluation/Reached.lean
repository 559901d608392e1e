import DynExpr.Proofs.Evaluation.Draws

/-! # The nodes that an evaluation reaches

    An evaluation goes along the walk up to the first negation that fails, and
    no further:

    * **Reached**: `Visit.reached` cuts visits off behind the first rejection,
      and `Expr.reached` is what is left of the walk through a tree.
    * **Operands**: `Visit.Applies` says which values a binary node is applied
      to. Both operands of a binary node that is reached have a value
      (`Expr.reached_hasOperands`).
    * **Draws**: an evaluation takes one draw for each random node that it
      reaches (`Expr.run_source_eq_skip`).
-/

namespace DynExpr

namespace Visit

variable (params : Params) (source : Source)

/-! ### The part of the walk that is reached -/

/-- The visits up to the first one that finds a rejection, and that one too. -/
def reached : List Visit → List Visit
  | [] => []
  | visit :: visits =>
    match visit.rejection? params source with
    | none   => visit :: reached visits
    | some _ => [visit]

variable {params source}

theorem reached_cons_of_none {visit : Visit} (h : visit.rejection? params source = none)
    (visits : List Visit) :
    reached params source (visit :: visits) = visit :: reached params source visits := by
  rw [reached, h]

theorem reached_cons_of_some {visit : Visit} {r : Rejection}
    (h : visit.rejection? params source = some r) (visits : List Visit) :
    reached params source (visit :: visits) = [visit] := by
  rw [reached, h]

/-- A single visit is reached, whatever it finds. -/
@[simp] theorem reached_singleton (visit : Visit) : reached params source [visit] = [visit] := by
  unfold reached
  split <;> rfl

/-- Where no rejection is found, the walk goes on. -/
theorem reached_append_of_none {visits : List Visit}
    (h : firstRejection? params source visits = none) (others : List Visit) :
    reached params source (visits ++ others) = visits ++ reached params source others := by
  induction visits with
  | nil => rfl
  | cons visit visits ih =>
    have hnone := List.findSome?_eq_none_iff.1 h
    have hvisit : visit.rejection? params source = none := hnone visit List.mem_cons_self
    have hvisits : firstRejection? params source visits = none :=
      List.findSome?_eq_none_iff.2 fun other hother => hnone other (List.mem_cons_of_mem _ hother)
    rw [List.cons_append, reached_cons_of_none hvisit, ih hvisits]
    rfl

/-- Behind a rejection nothing is reached. -/
theorem reached_append_of_some {visits : List Visit} {r : Rejection}
    (h : firstRejection? params source visits = some r) (others : List Visit) :
    reached params source (visits ++ others) = reached params source visits := by
  induction visits with
  | nil => cases h
  | cons visit visits ih =>
    cases hvisit : visit.rejection? params source with
    | some r' => rw [List.cons_append, reached_cons_of_some hvisit, reached_cons_of_some hvisit]
    | none =>
      have hvisits : firstRejection? params source visits = some r := by
        rw [firstRejection?, List.findSome?_cons, hvisit] at h
        exact h
      rw [List.cons_append, reached_cons_of_none hvisit, reached_cons_of_none hvisit, ih hvisits]

/-- Without a rejection all visits are reached. -/
theorem reached_eq_self {visits : List Visit}
    (h : firstRejection? params source visits = none) : reached params source visits = visits := by
  have happend := reached_append_of_none h []
  rwa [List.append_nil, reached, List.append_nil] at happend

/-- The visits that are reached come first on the walk. -/
theorem reached_prefix (visits : List Visit) : reached params source visits <+: visits := by
  induction visits with
  | nil => exact List.prefix_rfl
  | cons visit visits ih =>
    unfold reached
    split
    · exact List.cons_prefix_cons.2 ⟨rfl, ih⟩
    · exact List.cons_prefix_cons.2 ⟨rfl, List.nil_prefix⟩

/-- The visits that are reached end with the first that rejects. -/
theorem reached_eq_of_split {before after : List Visit} {visit : Visit} {operand : Expr} {v : Value}
    (hbefore : ∀ earlier ∈ before, ∀ operand' v', ¬ earlier.Rejects params source operand' v')
    (hvisit : visit.Rejects params source operand v) :
    reached params source (before ++ visit :: after) = before ++ [visit] := by
  have hnone : firstRejection? params source before = none :=
    List.findSome?_eq_none_iff.2 fun earlier hearlier =>
      (rejection?_eq_none_iff params source).2 (hbefore earlier hearlier)
  have hfound : visit.rejection? params source = some ⟨visit.offset, operand, v⟩ :=
    (rejection?_eq_some_iff params source).2 ⟨hvisit, rfl⟩
  rw [reached_append_of_none hnone, reached_cons_of_some hfound]

/-- What is said of all visits reached is said part by part, and of a later part only if it is
    reached at all. -/
theorem forall_reached_append {P : Visit → Prop} {visits others : List Visit} :
    (∀ visit ∈ reached params source (visits ++ others), P visit) ↔
      (∀ visit ∈ reached params source visits, P visit) ∧
        (firstRejection? params source visits = none →
          ∀ visit ∈ reached params source others, P visit) := by
  cases h : firstRejection? params source visits with
  | none =>
    rw [reached_append_of_none h, reached_eq_self h, List.forall_mem_append]
    exact and_congr_right fun _ => ⟨fun hothers _ => hothers, fun hothers => hothers rfl⟩
  | some r =>
    rw [reached_append_of_some h]
    exact (and_iff_left nofun).symm

/-! ### Operands -/

variable (params source)

/-- On a walk that starts with `source`, the visit is of a binary node whose operands evaluate to
    `l` and `r`. -/
def Applies (visit : Visit) (op : BinaryOp) (policy : Coercion) (l r : Value) : Prop :=
  ∃ left right, visit.node = .binary op policy left right ∧
    (left.trial params (source.skip visit.offset)).outcome = .ok l ∧
    (right.trial params (source.skip (visit.offset + left.drawCount))).outcome = .ok r

/-- If the visit is of a binary node, then its operands have values. -/
def HasOperands (visit : Visit) : Prop :=
  ∀ op policy left right, visit.node = .binary op policy left right →
    ∃ l r, visit.Applies params source op policy l r

end Visit

/-! ### Reaching and settling -/

namespace Trial.Settled

variable {α : Type} {params : Params} {source finish middle : Source} {visits : List Visit}

/-- Visits that come to a success find no rejection. -/
theorem firstRejection?_eq_none {a : α}
    (h : (⟨.ok a, middle⟩ : Trial α).Settled params source visits finish) :
    Visit.firstRejection? params source visits = none := by
  unfold Settled at h
  cases hfirst : Visit.firstRejection? params source visits with
  | none => rfl
  | some r =>
    rw [hfirst] at h
    cases h

/-- Visits that find no rejection come to a success. -/
theorem exists_ok {t : Trial α} (h : t.Settled params source visits finish)
    (hnone : Visit.firstRejection? params source visits = none) : ∃ a, t.outcome = .ok a := by
  unfold Settled at h
  rw [hnone] at h
  obtain ⟨a, rfl⟩ := h
  exact ⟨a, rfl⟩

end Trial.Settled

namespace Expr

section Operands

variable (params : Params) (source : Source)

mutual

/-- When a binary node is reached, its operands have been evaluated. -/
theorem reached_hasOperands (k : Nat) : ∀ e : Expr,
    ∀ visit ∈ Visit.reached params source (e.walkFrom k), visit.HasOperands params source
  | constant v => by
    rw [walkFrom, Visit.reached_singleton]
    exact List.forall_mem_singleton.2 nofun
  | param name => by
    rw [walkFrom, Visit.reached_singleton]
    exact List.forall_mem_singleton.2 nofun
  | not operand => by
    rw [walkFrom, Visit.forall_reached_append, Visit.reached_singleton]
    exact ⟨reached_hasOperands k operand, fun _ => List.forall_mem_singleton.2 nofun⟩
  | binary op policy left right => by
    rw [walkFrom, List.append_assoc, Visit.forall_reached_append, Visit.forall_reached_append,
      Visit.reached_singleton]
    refine ⟨reached_hasOperands k left, fun hleft => ?_⟩
    refine ⟨reached_hasOperands (k + left.drawCount) right, fun hright => ?_⟩
    -- The node itself is reached only if no negation in an operand has failed.
    obtain ⟨l, hl⟩ := (trial_settled params source k left).exists_ok hleft
    obtain ⟨r, hr⟩ := (trial_settled params source (k + left.drawCount) right).exists_ok hright
    rw [List.forall_mem_singleton]
    intro op' policy' left' right' hnode
    cases hnode
    exact ⟨l, r, left, right, rfl, hl, hr⟩
  | concat delimiter items => by
    rw [walkFrom, List.append_assoc, Visit.forall_reached_append, Visit.forall_reached_append,
      Visit.reached_singleton]
    refine ⟨reached_hasOperands k delimiter, fun _ => ?_⟩
    exact ⟨reachedItems_hasOperands (k + delimiter.drawCount) items,
      fun _ => List.forall_mem_singleton.2 nofun⟩
  | rand => by
    rw [walkFrom, Visit.reached_singleton]
    exact List.forall_mem_singleton.2 nofun

theorem reachedItems_hasOperands (k : Nat) : ∀ items : List Expr,
    ∀ visit ∈ Visit.reached params source (walkItemsFrom k items),
      visit.HasOperands params source
  | [] => nofun
  | item :: items => by
    rw [walkItemsFrom, Visit.forall_reached_append]
    exact ⟨reached_hasOperands k item,
      fun _ => reachedItems_hasOperands (k + item.drawCount) items⟩

end

end Operands

/-- A part that has a value finds no rejection, and has taken its draws. -/
theorem of_trial_ok {params : Params} {source middle : Source} {k : Nat} {e : Expr} {v : Value}
    (h : e.trial params (source.skip k) = ⟨.ok v, middle⟩) :
    Visit.firstRejection? params source (e.walkFrom k) = none ∧
      middle = source.skip (k + e.drawCount) := by
  have hsettled := trial_settled params source k e
  rw [h] at hsettled
  exact ⟨hsettled.firstRejection?_eq_none, hsettled.source_eq⟩

/-! ### The visits of an evaluation -/

variable (params : Params)

/-- The visits that an evaluation of the tree makes, when it starts with `source`. -/
def reached (source : Source) (e : Expr) : List Visit := Visit.reached params source e.walk

variable {params} {s : EvalState} {e : Expr}

/-- Only nodes of the tree are reached. -/
theorem node_mem_of_mem_reached {source : Source} {visit : Visit}
    (h : visit ∈ e.reached params source) : visit.node ∈ e.nodes := by
  rw [← walkFrom_nodes 0 e]
  exact List.mem_map_of_mem ((Visit.reached_prefix e.walk).subset h)

theorem firstRejection?_of_ok {v : Value} (h : (e.run params s).1 = .ok v) :
    Visit.firstRejection? params s.source e.walk = none := by
  rw [run_outcome] at h
  have hok : e.trial params (s.source.skip 0) = ⟨.ok v, (e.trial params s.source).source⟩ :=
    Trial.ext h rfl
  exact (of_trial_ok hok).1

/-- A success has gone through the whole tree. -/
theorem reached_of_ok {v : Value} (h : (e.run params s).1 = .ok v) :
    e.reached params s.source = e.walk :=
  Visit.reached_eq_self (firstRejection?_of_ok h)

/-- The visits that are reached go up to the first rejection, and take as many draws as those
    before it. -/
theorem reached_of_firstRejection {source : Source} {r : Rejection}
    (h : Visit.firstRejection? params source e.walk = some r) :
    ∃ before visit after,
      e.walk = before ++ visit :: after ∧
      (∀ earlier ∈ before, ∀ operand v, ¬ earlier.Rejects params source operand v) ∧
      visit.Rejects params source r.operand r.value ∧
      e.reached params source = before ++ [visit] ∧
      Visit.drawnBy (e.reached params source) = Visit.drawnBy before ∧
      r.drawn = Visit.drawnBy before := by
  obtain ⟨before, visit, after, hsplit, hbefore, hrejects, hdrawn⟩ :=
    drawn_of_firstRejection params source e h
  have hreached : e.reached params source = before ++ [visit] := by
    rw [reached, hsplit, Visit.reached_eq_of_split hbefore hrejects]
  refine ⟨before, visit, after, hsplit, hbefore, hrejects, hreached, ?_, hdrawn⟩
  rw [hreached, Visit.drawnBy_append, Visit.drawnBy_cons, hrejects.drawn_eq_zero,
    Visit.drawnBy_nil, Nat.add_zero]

/-- An evaluation takes one draw for each random node that it reaches. -/
theorem run_source_eq_skip (params : Params) (s : EvalState) (e : Expr) :
    (e.run params s).2.source =
      s.source.skip (Visit.drawnBy (e.reached params s.source)) := by
  have hsettled := run_settled params s e
  unfold Trial.Settled at hsettled
  rw [run_source]
  cases hfirst : Visit.firstRejection? params s.source e.walk with
  | none =>
    rw [hfirst] at hsettled
    obtain ⟨v, hv⟩ := hsettled
    rw [hv, reached, Visit.reached_eq_self hfirst, walk, drawnBy_walkFrom]
  | some r =>
    rw [hfirst] at hsettled
    obtain ⟨before, visit, after, -, -, -, -, hcount, hdrawn⟩ := reached_of_firstRejection hfirst
    rw [hsettled, hcount, hdrawn]

/-- On a walk that starts with `source`, the given visits are those before the first negation
    that fails. -/
def FailsAfter (params : Params) (source : Source) (e : Expr) (before : List Visit) : Prop :=
  ∃ visit after operand v, e.walk = before ++ visit :: after ∧
    (∀ earlier ∈ before, ∀ operand' v', ¬ earlier.Rejects params source operand' v') ∧
    visit.Rejects params source operand v

/-- A failure takes the draws of the random nodes that are met before the negation that fails. -/
theorem drawnBy_reached_of_error {err : EvalError} (h : (e.run params s).1 = .error err) :
    ∃ before, e.FailsAfter params s.source before ∧
      Visit.drawnBy (e.reached params s.source) = Visit.drawnBy before := by
  obtain ⟨r, hfirst, -⟩ := (run_eq_error_iff params s e).1 h
  obtain ⟨before, visit, after, hsplit, hbefore, hrejects, -, hcount, -⟩ :=
    reached_of_firstRejection hfirst
  exact ⟨before, ⟨visit, after, r.operand, r.value, hsplit, hbefore, hrejects⟩, hcount⟩

end Expr

end DynExpr
