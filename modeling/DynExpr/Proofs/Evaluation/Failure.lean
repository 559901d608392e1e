import DynExpr.Proofs.Evaluation.Trial
import DynExpr.Proofs.Evaluation.Walk

/-! # The first failure

    Only a negation fails, and only when its operand has a value that is no
    truth value. Several negations of one tree can do so; the evaluation ends
    with the one that the walk meets first.

    * **Rejections**: `Visit.Rejects` says of one visit that it is of such a
      negation, and `Visit.rejection?` decides it.
    * **Settling**: `Expr.trial_settled` reads the outcome and the draws of
      an evaluation off the first rejection on the walk. The error is the one
      that the negation raised; nothing on the way out changes it.
-/

namespace DynExpr

/-! ### Rejections -/

/-- A negation that fails on the value of its operand. -/
structure Rejection where
  /-- How many draws lie before the operand. -/
  offset : Nat
  /-- What was to be negated. -/
  operand : Expr
  /-- What it evaluated to. -/
  value : Value

namespace Rejection

/-- The cause of the failure. -/
def fault (r : Rejection) : Fault := .typeMismatch negationSymbol .bool r.value.kind

/-- The error that a failing negation raises. -/
def error (r : Rejection) : EvalError where
  fault := r.fault
  message := r.fault.message
  notes := [Expr.failureNote (Expr.not r.operand).render]

/-- How many draws have been taken when the negation fails. -/
def drawn (r : Rejection) : Nat := r.offset + r.operand.drawCount

end Rejection

namespace Visit

variable (params : Params) (source : Source)

/-- On a walk that starts with `source`, the visit is of a negation whose operand evaluates to
    a value other than a truth value. -/
def Rejects (visit : Visit) (operand : Expr) (v : Value) : Prop :=
  visit.node = .not operand ∧
    (operand.trial params (source.skip visit.offset)).outcome = .ok v ∧ v.kind ≠ .bool

variable {params source} in
/-- A visit that rejects is of a negation, which draws nothing itself. -/
theorem Rejects.drawn_eq_zero {visit : Visit} {operand : Expr} {v : Value}
    (h : visit.Rejects params source operand v) : visit.drawn = 0 := by
  rw [drawn, h.1]
  rfl

/-- The rejection that the visit finds, if it finds one. -/
def rejection? (visit : Visit) : Option Rejection :=
  match visit.node with
  | .not operand =>
    match (operand.trial params (source.skip visit.offset)).outcome with
    | .ok v    => if v.kind = .bool then none else some ⟨visit.offset, operand, v⟩
    | .error _ => none
  | _ => none

/-- A visit of a negation whose operand has a value looks at the kind of the value only. -/
theorem rejection?_not {k : Nat} {operand : Expr} {v : Value}
    (h : (operand.trial params (source.skip k)).outcome = .ok v) :
    rejection? params source ⟨k, .not operand⟩ =
      if v.kind = .bool then none else some ⟨k, operand, v⟩ := by
  simp only [rejection?, h]

theorem rejection?_eq_some_iff {visit : Visit} {r : Rejection} :
    visit.rejection? params source = some r ↔
      visit.Rejects params source r.operand r.value ∧ visit.offset = r.offset := by
  rcases visit with ⟨k, node⟩
  rcases r with ⟨offset, operand', value⟩
  -- Only the negation is of interest; on it the outcome of the operand decides.
  cases node with
  | constant | param | binary | concat | rand => simp [rejection?, Rejects]
  | not operand =>
    cases h : (operand.trial params (source.skip k)).outcome with
    | error e =>
      simp only [rejection?, Rejects, h, Expr.not.injEq]
      constructor
      · intro hnone
        cases hnone
      · intro hrejects
        obtain ⟨⟨hnode, hok, -⟩, -⟩ := hrejects
        subst hnode
        rw [h] at hok
        cases hok
    | ok v =>
      rw [rejection?_not params source h, Rejects]
      constructor
      · intro hsome
        split at hsome
        · cases hsome
        · next hkind =>
          cases hsome
          exact ⟨⟨rfl, h, hkind⟩, rfl⟩
      · intro hrejects
        obtain ⟨⟨hnode, hok, hkind⟩, hoffset⟩ := hrejects
        cases hnode
        -- The operand has one value here, so the value found is the value named.
        cases h.symm.trans hok
        cases hoffset
        rw [if_neg hkind]

theorem rejection?_eq_none_iff {visit : Visit} :
    visit.rejection? params source = none ↔
      ∀ operand v, ¬ visit.Rejects params source operand v := by
  constructor
  · intro hnone operand v hrejects
    have hsome : visit.rejection? params source = some ⟨visit.offset, operand, v⟩ :=
      (rejection?_eq_some_iff params source).2 ⟨hrejects, rfl⟩
    rw [hnone] at hsome
    cases hsome
  · intro hnever
    cases h : visit.rejection? params source with
    | none => rfl
    | some r => exact absurd ((rejection?_eq_some_iff params source).1 h).1 (hnever _ _)

/-- The first rejection that some visits find. -/
def firstRejection? (visits : List Visit) : Option Rejection :=
  visits.findSome? (·.rejection? params source)

theorem firstRejection?_append (visits others : List Visit) :
    firstRejection? params source (visits ++ others) =
      (firstRejection? params source visits).or (firstRejection? params source others) :=
  List.findSome?_append

/-- No visit before the one that finds the first rejection finds any. -/
theorem firstRejection?_eq_some_iff {visits : List Visit} {r : Rejection} :
    firstRejection? params source visits = some r ↔
      ∃ before visit after, visits = before ++ visit :: after ∧
        (∀ earlier ∈ before, ∀ operand v, ¬ earlier.Rejects params source operand v) ∧
        visit.Rejects params source r.operand r.value ∧ visit.offset = r.offset := by
  rw [firstRejection?, List.findSome?_eq_some_iff]
  simp only [rejection?_eq_some_iff, rejection?_eq_none_iff]
  constructor
  · intro h
    obtain ⟨before, visit, after, hsplit, hvisit, hbefore⟩ := h
    exact ⟨before, visit, after, hsplit, hbefore, hvisit⟩
  · intro h
    obtain ⟨before, visit, after, hsplit, hbefore, hvisit⟩ := h
    exact ⟨before, visit, after, hsplit, hvisit, hbefore⟩

end Visit

/-! ### Settling

    The walk and the evaluation go through the tree side by side: after the
    visits of a part that finds no rejection, the part has a value and its
    draws have been taken, so the next part starts where its visits start.
-/

section Settling

open Visit

variable (params : Params) (source : Source)

/-- Where some visits find a rejection, the trial is the error of the first one, after the draws
    up to it; otherwise it is a success, after all draws. -/
def Trial.Settled {α : Type} (visits : List Visit) (finish : Source) (t : Trial α) : Prop :=
  match firstRejection? params source visits with
  | none   => ∃ a, t = ⟨.ok a, finish⟩
  | some r => t = ⟨.error r.error, source.skip r.drawn⟩

variable {params source} in
/-- What settles one after the other settles as a whole. -/
theorem Trial.Settled.andThen {α β : Type} {visits others : List Visit} {middle finish : Source}
    {first : Trial α} {rest : α → Source → Trial β}
    (hfirst : first.Settled params source visits middle)
    (hrest : ∀ a, first = ⟨.ok a, middle⟩ →
      (rest a middle).Settled params source others finish) :
    (first.andThen rest).Settled params source (visits ++ others) finish := by
  unfold Settled at hfirst ⊢
  rw [firstRejection?_append]
  cases h : firstRejection? params source visits with
  | some r =>
    -- The first part has failed, and neither the rest nor its visits come to anything.
    rw [h] at hfirst
    rw [hfirst]
    rfl
  | none =>
    -- With no rejection in the first part, the rest decides alone.
    rw [h] at hfirst
    obtain ⟨a, rfl⟩ := hfirst
    exact hrest a rfl

/-- A node that cannot fail itself adds nothing to what its parts settled. -/
theorem Trial.settled_ok {α : Type} (a : α) (visit : Visit) (finish : Source)
    (h : visit.rejection? params source = none) :
    (⟨.ok a, finish⟩ : Trial α).Settled params source [visit] finish := by
  have hnone : firstRejection? params source [visit] = none := by
    simp [firstRejection?, h]
  unfold Settled
  rw [hnone]
  exact ⟨a, rfl⟩

/-- A negation settles by the kind of its operand's value. -/
theorem Trial.settled_negateAt {k : Nat} {operand : Expr} {v : Value}
    (h : operand.trial params (source.skip k) = ⟨.ok v, source.skip (k + operand.drawCount)⟩) :
    (⟨(Expr.not operand).negateAt v, source.skip (k + operand.drawCount)⟩ : Trial Value).Settled
      params source [⟨k, .not operand⟩] (source.skip (k + operand.drawCount)) := by
  have hv : (operand.trial params (source.skip k)).outcome = .ok v := by rw [h]
  have hfirst : firstRejection? params source [⟨k, .not operand⟩] =
      if v.kind = .bool then none else some ⟨k, operand, v⟩ := by
    simp [firstRejection?, rejection?_not params source hv]
  unfold Settled
  rw [hfirst]
  cases v with
  | bool b => exact ⟨.bool !b, rfl⟩
  | null | uint | int | float | str | timestamp => rfl

namespace Expr

mutual

/-- What an evaluation comes to can be read off the walk. -/
theorem trial_settled (k : Nat) : ∀ e : Expr,
    (e.trial params (source.skip k)).Settled params source (e.walkFrom k)
      (source.skip (k + e.drawCount))
  | constant v => by
    rw [trial_constant]
    exact Trial.settled_ok params source v _ _ rfl
  | param name => by
    rw [trial_param]
    exact Trial.settled_ok params source _ _ _ rfl
  | not operand => by
    rw [trial_not]
    -- The one node that can fail: the trial and the visit look at the same value.
    exact (trial_settled k operand).andThen fun v hv => Trial.settled_negateAt params source hv
  | binary op coercion left right => by
    rw [trial_binary, walkFrom, List.append_assoc]
    refine (trial_settled k left).andThen fun l _ => ?_
    -- The right operand starts behind the draws of the left one, as its visits do.
    rw [drawCount, ← Nat.add_assoc]
    refine (trial_settled (k + left.drawCount) right).andThen fun r _ => ?_
    exact Trial.settled_ok params source _ _ _ rfl
  | concat delimiter items => by
    rw [trial_concat, walkFrom, List.append_assoc]
    refine (trial_settled k delimiter).andThen fun d _ => ?_
    rw [drawCount, ← Nat.add_assoc]
    refine (trialItems_settled (k + delimiter.drawCount) items).andThen fun texts _ => ?_
    exact Trial.settled_ok params source _ _ _ rfl
  | rand => by
    rw [trial_rand]
    exact Trial.settled_ok params source _ _ _ rfl

theorem trialItems_settled (k : Nat) : ∀ items : List Expr,
    (trialItems items params (source.skip k)).Settled params source (walkItemsFrom k items)
      (source.skip (k + drawCounts items))
  | [] => by
    rw [trialItems_nil]
    exact ⟨[], rfl⟩
  | item :: items => by
    rw [trialItems_cons, walkItemsFrom]
    refine (trial_settled k item).andThen fun v _ => ?_
    rw [drawCounts, ← Nat.add_assoc]
    have hitems := trialItems_settled (k + item.drawCount) items
    -- Putting the text in front of the others is a last part without visits.
    rw [← List.append_nil (walkItemsFrom _ items)]
    exact hitems.andThen fun texts _ => ⟨v.display :: texts, rfl⟩

end

end Expr

end Settling

/-! ### The error of an evaluation -/

namespace Expr

variable (params : Params) (s : EvalState) (e : Expr)

/-- A run is settled by the walk through its tree. -/
theorem run_settled :
    (e.trial params s.source).Settled params s.source e.walk (s.source.skip e.drawCount) := by
  have h := trial_settled params s.source 0 e
  rwa [Nat.zero_add] at h

/-- An evaluation fails with the error of the first rejection, and only with that. -/
theorem run_eq_error_iff {err : EvalError} :
    (e.run params s).1 = .error err ↔
      ∃ r, Visit.firstRejection? params s.source e.walk = some r ∧ err = r.error := by
  have h := run_settled params s e
  unfold Trial.Settled at h
  rw [run_outcome]
  cases hfirst : Visit.firstRejection? params s.source e.walk with
  | none =>
    rw [hfirst] at h
    obtain ⟨v, hv⟩ := h
    rw [hv]
    constructor
    · intro herr
      cases herr
    · intro hfound
      obtain ⟨r, hr, -⟩ := hfound
      cases hr
  | some r =>
    rw [hfirst] at h
    rw [h]
    constructor
    · intro herr
      cases herr
      exact ⟨r, rfl, rfl⟩
    · intro hfound
      obtain ⟨r', hr', herr⟩ := hfound
      cases hr'
      rw [herr]

/-- **First failure**: an evaluation fails if and only if some negation on the walk has an
    operand that evaluates to a value other than a truth value. The first such negation, and no
    other, makes the error: a mismatch of kinds with the kind of that value, the text of that
    mismatch as message, and one note, however many nodes lie around the negation. -/
theorem run_error_iff_first_rejection :
    ((∃ err, (e.run params s).1 = .error err) ↔
        ∃ visit ∈ e.walk, ∃ operand v, visit.Rejects params s.source operand v) ∧
      ∀ err, (e.run params s).1 = .error err ↔
        ∃ before visit after operand v,
          e.walk = before ++ visit :: after ∧
          (∀ earlier ∈ before, ∀ operand' v', ¬ earlier.Rejects params s.source operand' v') ∧
          visit.Rejects params s.source operand v ∧
          err.fault = .typeMismatch "NOT" .bool v.kind ∧
          err.message = err.fault.message ∧
          err.message = "type mismatch: NOT requires Bool operand, got " ++ v.kind.name ∧
          err.notes = ["in `" ++ (not operand).render ++ "`"] := by
  constructor
  · constructor
    · intro hfails
      obtain ⟨err, herr⟩ := hfails
      obtain ⟨r, hfirst, -⟩ := (run_eq_error_iff params s e).1 herr
      obtain ⟨before, visit, after, hsplit, -, hrejects, -⟩ :=
        (Visit.firstRejection?_eq_some_iff params s.source).1 hfirst
      exact ⟨visit, by simp [hsplit], r.operand, r.value, hrejects⟩
    · intro hrejection
      obtain ⟨visit, hmem, operand, v, hrejects⟩ := hrejection
      -- A rejection somewhere on the walk means that there is a first one.
      cases hfirst : Visit.firstRejection? params s.source e.walk with
      | some r => exact ⟨r.error, (run_eq_error_iff params s e).2 ⟨r, hfirst, rfl⟩⟩
      | none =>
        have hnone := List.findSome?_eq_none_iff.1 hfirst visit hmem
        exact absurd hrejects ((Visit.rejection?_eq_none_iff params s.source).1 hnone operand v)
  · intro err
    rw [run_eq_error_iff]
    constructor
    · intro hfound
      obtain ⟨r, hfirst, rfl⟩ := hfound
      obtain ⟨before, visit, after, hsplit, hbefore, hrejects, -⟩ :=
        (Visit.firstRejection?_eq_some_iff params s.source).1 hfirst
      exact ⟨before, visit, after, r.operand, r.value, hsplit, hbefore, hrejects, rfl, rfl, rfl,
        rfl⟩
    · intro hfound
      obtain ⟨before, visit, after, operand, v, hsplit, hbefore, hrejects, hfault, hmessage, -,
        hnotes⟩ := hfound
      refine ⟨⟨visit.offset, operand, v⟩, ?_, ?_⟩
      · exact (Visit.firstRejection?_eq_some_iff params s.source).2
          ⟨before, visit, after, hsplit, hbefore, hrejects, rfl⟩
      · cases err
        cases hfault
        cases hmessage
        cases hnotes
        rfl

end Expr

end DynExpr
