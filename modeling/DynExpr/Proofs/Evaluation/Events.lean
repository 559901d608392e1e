import DynExpr.Proofs.Coercion.CommonKind
import DynExpr.Proofs.Evaluation.Reached

/-! # The events of an evaluation

    An evaluation reports what its visits find, in the order in which it makes
    them, and nothing else:

    * **One visit**: `Visit.Reports` says which event a visit is followed by,
      and `Visit.event?` finds it. A binary node reports that its policy has
      replaced the operands, or else that they do not fit; a negation reports
      that it fails.
    * **One evaluation**: `Expr.record` is what an evaluation reports. Part by
      part it is read off the visits that are reached (`Expr.record_eq`).
-/

namespace DynExpr

/-! ### The event of a binary node -/

/-- The event of a binary node on two operands, if there is one: its policy replaces them, or
    else they are of different kinds and not null. -/
def Event.ofNode? (op : BinaryOp) (policy : Coercion) (l r : Value) : Option Event :=
  match policy.coerce? l r with
  | some (l', r') => some (coerced policy l.kind r.kind l'.kind r'.kind)
  | none => if BinaryOp.mismatched l r then some (mismatch op l.kind r.kind) else none

/-- Operands that have been replaced are of one kind, so that no second event follows. -/
theorem BinaryOp.applyUnder_events (op : BinaryOp) (policy : Coercion) (l r : Value) :
    (op.applyUnder policy l r).2 = (Event.ofNode? op policy l r).toList := by
  unfold applyUnder Event.ofNode?
  cases h : policy.coerce? l r with
  | some pair =>
    have hkind : pair.1.kind = pair.2.kind := Coercion.coerce?_kind_eq h
    have hfit : mismatched pair.1 pair.2 = false := by simp [mismatched, hkind]
    simp [Event.ofCoercion, Event.ofOperands, hfit]
  | none =>
    simp only [Option.getD_none, Event.ofCoercion, Event.ofOperands, List.nil_append]
    split <;> rfl

/-! ### The event of a visit -/

/-- The event that a failing negation reports. -/
def Rejection.event (r : Rejection) : Event :=
  .negationFailed (Expr.not r.operand).render r.error.message

namespace Visit

variable (params : Params) (source : Source)

/-- On a walk that starts with `source`, the visit is followed by an event. -/
inductive Reports (visit : Visit) : Event → Prop where
  /-- The policy of a binary node replaces the operands. -/
  | coerced {op : BinaryOp} {policy : Coercion} {l r l' r' : Value}
      (happlies : visit.Applies params source op policy l r)
      (hreplaced : policy.coerce? l r = some (l', r')) :
      Reports visit (.coerced policy l.kind r.kind l'.kind r'.kind)
  /-- The policy leaves the operands alone, though they are of different kinds and not null. -/
  | mismatch {op : BinaryOp} {policy : Coercion} {l r : Value}
      (happlies : visit.Applies params source op policy l r)
      (hkept : policy.coerce? l r = none) (hkinds : l.kind ≠ r.kind) (hl : l ≠ .null)
      (hr : r ≠ .null) :
      Reports visit (.mismatch op l.kind r.kind)
  /-- A negation fails. -/
  | negationFailed {operand : Expr} {v : Value} (hrejects : visit.Rejects params source operand v) :
      Reports visit (.negationFailed (Expr.not operand).render
        ("type mismatch: NOT requires Bool operand, got " ++ v.kind.name))

/-- The event that follows the visit, if there is one. -/
def event? (visit : Visit) : Option Event :=
  match visit.node with
  | .binary op policy left right =>
    match (left.trial params (source.skip visit.offset)).outcome,
        (right.trial params (source.skip (visit.offset + left.drawCount))).outcome with
    | .ok l, .ok r => Event.ofNode? op policy l r
    | _, _         => none
  | _ => (visit.rejection? params source).map Rejection.event

variable {params source}

theorem event?_of_applies {visit : Visit} {op : BinaryOp} {policy : Coercion} {l r : Value}
    (h : visit.Applies params source op policy l r) :
    visit.event? params source = Event.ofNode? op policy l r := by
  obtain ⟨left, right, hnode, hl, hr⟩ := h
  unfold event?
  simp only [hnode, hl, hr]

theorem event?_of_rejects {visit : Visit} {operand : Expr} {v : Value}
    (h : visit.Rejects params source operand v) :
    visit.event? params source = some (.negationFailed (Expr.not operand).render
      ("type mismatch: NOT requires Bool operand, got " ++ v.kind.name)) := by
  have hfound : visit.rejection? params source = some ⟨visit.offset, operand, v⟩ :=
    (rejection?_eq_some_iff params source).2 ⟨h, rfl⟩
  unfold event?
  simp only [h.1, hfound]
  rfl

/-- A visit is followed by at most one event, the one that it reports. -/
theorem event?_eq_some_iff {visit : Visit} {event : Event} :
    visit.event? params source = some event ↔ visit.Reports params source event := by
  constructor
  · intro h
    unfold event? at h
    split at h
    · next op policy left right hnode =>
      split at h
      · next l r hl hr =>
        have happlies : visit.Applies params source op policy l r := ⟨left, right, hnode, hl, hr⟩
        unfold Event.ofNode? at h
        split at h
        · next l' r' hreplaced =>
          cases h
          exact .coerced happlies hreplaced
        · next hkept =>
          split at h
          · next hmismatched =>
            cases h
            obtain ⟨hkinds, hl, hr⟩ := BinaryOp.mismatched_iff.1 hmismatched
            exact .mismatch happlies hkept hkinds hl hr
          · cases h
      · cases h
    · obtain ⟨r, hr, rfl⟩ := Option.map_eq_some_iff.1 h
      obtain ⟨hrejects, -⟩ := (rejection?_eq_some_iff params source).1 hr
      exact .negationFailed hrejects
  · intro h
    cases h with
    | coerced happlies hreplaced =>
      rw [event?_of_applies happlies, Event.ofNode?, hreplaced]
    | mismatch happlies hkept hkinds hl hr =>
      have hmismatched := BinaryOp.mismatched_iff.2 ⟨hkinds, hl, hr⟩
      rw [event?_of_applies happlies, Event.ofNode?, hkept]
      exact if_pos hmismatched
    | negationFailed hrejects => exact event?_of_rejects hrejects

/-- Visits that do not reject are not followed by the event of a failing negation. -/
theorem negationFailed_not_mem {visits : List Visit}
    (h : ∀ visit ∈ visits, ∀ operand v, ¬ visit.Rejects params source operand v)
    (node message : String) :
    .negationFailed node message ∉ visits.filterMap (·.event? params source) := by
  intro hmem
  obtain ⟨visit, hvisit, hevent⟩ := List.mem_filterMap.1 hmem
  cases event?_eq_some_iff.1 hevent with
  | negationFailed hrejects => exact h visit hvisit _ _ hrejects

end Visit

/-! ### What an evaluation reports -/

/-- What is reported after a success; after a failure nothing is. -/
def Trial.follow {α : Type} (first : Trial α) (rest : α → Source → List Event) : List Event :=
  match first with
  | ⟨.ok a, source⟩ => rest a source
  | ⟨.error _, _⟩   => []

namespace Expr

/-- The events of an evaluation that starts with `source`. -/
def record (params : Params) (source : Source) (e : Expr) : List Event :=
  (e.run params ⟨source, #[]⟩).2.events.toList

/-- The events of evaluating some items. -/
def recordItems (params : Params) (source : Source) (items : List Expr) : List Event :=
  (runItems items params ⟨source, #[]⟩).2.events.toList

variable (params : Params) (source : Source)

/-- An evaluation puts its events behind those that were there. -/
theorem run_events (s : EvalState) (e : Expr) :
    (e.run params s).2.events.toList = s.events.toList ++ e.record params s.source := by
  rw [run_eq_trial]
  exact Array.toList_append

theorem record_constant (v : Value) : (constant v).record params source = [] := by
  rw [record, run_constant]

theorem record_param (name : String) : (param name).record params source = [] := by
  rw [record, run_param]

theorem record_rand : rand.record params source = [] := by
  rw [record, run_rand]

theorem record_not (operand : Expr) :
    (not operand).record params source =
      operand.record params source ++ (operand.trial params source).follow fun v _ =>
        match negate v with
        | .ok _    => []
        | .error e => [.negationFailed (not operand).render e.message] := by
  unfold record trial
  rw [run_not]
  rcases operand.run params ⟨source, #[]⟩ with ⟨_ | v, t⟩
  · simp [Trial.follow]
  · simp only [Trial.follow, runFrom_evalNot]
    cases negate v <;> simp

theorem record_binary (op : BinaryOp) (policy : Coercion) (left right : Expr) :
    (binary op policy left right).record params source =
      left.record params source ++ (left.trial params source).follow fun l source' =>
        right.record params source' ++ (right.trial params source').follow fun r _ =>
          (Event.ofNode? op policy l r).toList := by
  unfold record trial
  rw [run_binary]
  rcases left.run params ⟨source, #[]⟩ with ⟨_ | l, t⟩
  · simp [Trial.follow]
  · simp only [Trial.follow, BinaryOp.applyUnder_events, run_eq_trial params t right]
    unfold trial
    rcases right.run params ⟨t.source, #[]⟩ with ⟨_ | r, t'⟩ <;> simp

theorem recordItems_nil : recordItems params source [] = [] := by
  rw [recordItems, runItems_nil]

theorem recordItems_cons (item : Expr) (items : List Expr) :
    recordItems params source (item :: items) =
      item.record params source ++ (item.trial params source).follow fun _ source' =>
        recordItems params source' items := by
  unfold record recordItems trial
  rw [runItems_cons]
  rcases item.run params ⟨source, #[]⟩ with ⟨_ | v, t⟩
  · simp [Trial.follow]
  · simp only [Trial.follow, runItems_eq_trialItems params t items]
    unfold trialItems
    rcases runItems items params ⟨t.source, #[]⟩ with ⟨_ | texts, t'⟩ <;> simp

theorem record_concat (delimiter : Expr) (items : List Expr) :
    (concat delimiter items).record params source =
      delimiter.record params source ++ (delimiter.trial params source).follow fun _ source' =>
        recordItems params source' items := by
  unfold record recordItems trial
  rw [run_concat]
  rcases delimiter.run params ⟨source, #[]⟩ with ⟨_ | d, t⟩
  · simp [Trial.follow]
  · simp only [Trial.follow, runItems_eq_trialItems params t items]
    unfold trialItems
    rcases runItems items params ⟨t.source, #[]⟩ with ⟨_ | texts, t'⟩ <;> simp

end Expr

/-! ### Events and visits -/

section Visits

variable {params : Params} {source middle : Source} {visits others : List Visit}

/-- The events of the visits that are reached, in their order. -/
def Visit.eventsOf (params : Params) (source : Source) (visits : List Visit) : List Event :=
  (Visit.reached params source visits).filterMap (·.event? params source)

theorem Visit.eventsOf_singleton (visit : Visit) :
    Visit.eventsOf params source [visit] = (visit.event? params source).toList := by
  unfold Visit.eventsOf
  rw [Visit.reached_singleton]
  cases h : visit.event? params source <;> simp [h]

/-- If the events of two parts are those of their visits, then so are the events of the whole. -/
theorem Trial.Settled.follow_eq {α : Type} {first : Trial α} {rest : α → Source → List Event}
    (hfirst : first.Settled params source visits middle)
    (hrest : ∀ a, first = ⟨.ok a, middle⟩ → rest a middle = Visit.eventsOf params source others) :
    Visit.eventsOf params source visits ++ first.follow rest =
      Visit.eventsOf params source (visits ++ others) := by
  unfold Settled at hfirst
  unfold Visit.eventsOf at hrest ⊢
  cases h : Visit.firstRejection? params source visits with
  | none =>
    rw [h] at hfirst
    obtain ⟨a, rfl⟩ := hfirst
    rw [Visit.reached_append_of_none h, Visit.reached_eq_self h, List.filterMap_append,
      ← hrest a rfl]
    rfl
  | some r =>
    -- After the failure neither events follow nor visits.
    rw [h] at hfirst
    rw [Visit.reached_append_of_some h, hfirst]
    exact List.append_nil _

/-- A visit that no event follows adds nothing. -/
theorem Visit.eventsOf_append_silent {visit : Visit} (h : visit.event? params source = none) :
    Visit.eventsOf params source (visits ++ [visit]) = Visit.eventsOf params source visits := by
  unfold Visit.eventsOf
  cases hfirst : Visit.firstRejection? params source visits with
  | none =>
    rw [Visit.reached_append_of_none hfirst, Visit.reached_eq_self hfirst,
      Visit.reached_singleton, List.filterMap_append, List.filterMap_cons_none h,
      List.filterMap_nil, List.append_nil]
  | some r => rw [Visit.reached_append_of_some hfirst]

end Visits

namespace Expr

variable (params : Params) (source : Source)

mutual

/-- An evaluation reports the events of the visits that it makes. -/
theorem record_eq (k : Nat) : ∀ e : Expr,
    e.record params (source.skip k) = Visit.eventsOf params source (e.walkFrom k)
  | constant v => by
    rw [record_constant]
    rfl
  | param name => by
    rw [record_param]
    rfl
  | not operand => by
    rw [record_not, record_eq k operand, walkFrom]
    refine (trial_settled params source k operand).follow_eq fun v hv => ?_
    have hvalue : (operand.trial params (source.skip k)).outcome = .ok v := by rw [hv]
    rw [Visit.eventsOf_singleton]
    cases v with
    | bool b =>
      have hfine : Visit.event? params source ⟨k, not operand⟩ = none := by
        unfold Visit.event?
        rw [Visit.rejection?_not params source hvalue]
        rfl
      rw [hfine]
      rfl
    | null | uint | int | float | str | timestamp =>
      have hrejects : Visit.Rejects params source ⟨k, not operand⟩ operand _ :=
        ⟨rfl, hvalue, nofun⟩
      rw [Visit.event?_of_rejects hrejects]
      rfl
  | binary op policy left right => by
    rw [record_binary, record_eq k left, walkFrom, List.append_assoc]
    refine (trial_settled params source k left).follow_eq fun l hl => ?_
    rw [record_eq (k + left.drawCount) right]
    refine (trial_settled params source (k + left.drawCount) right).follow_eq fun r hr => ?_
    have happlies : Visit.Applies params source ⟨k, binary op policy left right⟩ op policy l r :=
      ⟨left, right, rfl, congrArg Trial.outcome hl, congrArg Trial.outcome hr⟩
    rw [Visit.eventsOf_singleton, Visit.event?_of_applies happlies]
  | concat delimiter items => by
    rw [record_concat, record_eq k delimiter, walkFrom, Visit.eventsOf_append_silent rfl]
    refine (trial_settled params source k delimiter).follow_eq fun d _ => ?_
    exact recordItems_eq (k + delimiter.drawCount) items
  | rand => by
    rw [record_rand]
    rfl

theorem recordItems_eq (k : Nat) : ∀ items : List Expr,
    recordItems params (source.skip k) items =
      Visit.eventsOf params source (walkItemsFrom k items)
  | [] => by
    rw [recordItems_nil]
    rfl
  | item :: items => by
    rw [recordItems_cons, record_eq k item, walkItemsFrom]
    refine (trial_settled params source k item).follow_eq fun v _ => ?_
    exact recordItems_eq (k + item.drawCount) items

end

/-- **Events**: an evaluation reports, in the order of the walk, the events of the visits that it
    makes, at most one for each visit. All operands of a binary node that is reached have values,
    and the node reports that its policy has replaced them, or else that they are of different
    kinds and not null, or nothing. A success goes through the whole tree and reports no failing
    negation. A failure reports one, last of all, with its rendering and the message of the
    error. -/
theorem run_reports_visits (s : EvalState) (e : Expr) :
    ∃ events : List Event,
      (e.run params s).2.events.toList = s.events.toList ++ events ∧
      events = (e.reached params s.source).filterMap (·.event? params s.source) ∧
      (∀ (visit : Visit) (event : Event),
        visit.event? params s.source = some event ↔ visit.Reports params s.source event) ∧
      (∀ visit ∈ e.reached params s.source, visit.HasOperands params s.source) ∧
      (∀ v, (e.run params s).1 = .ok v →
        e.reached params s.source = e.walk ∧
          ∀ node message, .negationFailed node message ∉ events) ∧
      ∀ err, (e.run params s).1 = .error err →
        ∃ before visit after operand v,
          e.walk = before ++ visit :: after ∧
          e.reached params s.source = before ++ [visit] ∧
          visit.Rejects params s.source operand v ∧
          events = before.filterMap (·.event? params s.source) ++
            [.negationFailed (not operand).render err.message] ∧
          ∀ node message,
            .negationFailed node message ∉ before.filterMap (·.event? params s.source) := by
  refine ⟨(e.reached params s.source).filterMap (·.event? params s.source), ?_, rfl,
    fun _ _ => Visit.event?_eq_some_iff, reached_hasOperands params s.source 0 e, ?_, ?_⟩
  · rw [run_events]
    exact congrArg (s.events.toList ++ ·) (record_eq params s.source 0 e)
  · intro v hv
    have hreached := reached_of_ok hv
    refine ⟨hreached, ?_⟩
    rw [hreached]
    have hnone := List.findSome?_eq_none_iff.1 (firstRejection?_of_ok hv)
    exact Visit.negationFailed_not_mem fun visit hvisit =>
      (Visit.rejection?_eq_none_iff params s.source).1 (hnone visit hvisit)
  · intro err herr
    obtain ⟨r, hfirst, rfl⟩ := (run_eq_error_iff params s e).1 herr
    obtain ⟨before, visit, after, hsplit, hbefore, hrejects, hreached, -⟩ :=
      reached_of_firstRejection hfirst
    refine ⟨before, visit, after, r.operand, r.value, hsplit, hreached, hrejects, ?_,
      Visit.negationFailed_not_mem hbefore⟩
    rw [hreached, List.filterMap_append]
    have hevent := Visit.event?_of_rejects hrejects
    rw [List.filterMap_cons_some hevent]
    rfl

end Expr

end DynExpr
