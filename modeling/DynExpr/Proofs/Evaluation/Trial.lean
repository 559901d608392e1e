import DynExpr.Expr.Eval

/-! # Evaluation without its log

    The log is written to and never read, so what an evaluation comes to does
    not depend on the events before it:

    * **Appending only**: `EvalM.AppendsOnly` says this of a computation, and
      `Expr.eval_appendsOnly` proves it of every evaluation.
    * **Trials**: `Expr.trial` is the outcome of an evaluation with the source
      after it. It has one equation per node, with nothing about events in it.
    * **Notes**: `Trial.bare` also forgets the notes of an error, which print
      the tree and are the one thing in which trees that mean the same differ.
-/

namespace DynExpr

/-! ### The log -/

namespace EvalM

variable {α β : Type}

/-- A computation that does nothing with the log but append to it: from a longer log it has the
    same outcome, takes the same draws and reports the same events. -/
def AppendsOnly (m : EvalM α) : Prop :=
  ∀ s : EvalState, m.runFrom s =
    ((m.runFrom ⟨s.source, #[]⟩).1,
      { source := (m.runFrom ⟨s.source, #[]⟩).2.source
        events := s.events ++ (m.runFrom ⟨s.source, #[]⟩).2.events })

theorem appendsOnly_pure (a : α) : AppendsOnly (pure a : EvalM α) := by
  intro s
  simp

theorem appendsOnly_throw (e : EvalError) : AppendsOnly (throw e : EvalM α) := by
  intro s
  simp

theorem appendsOnly_report (es : List Event) : AppendsOnly (report es) := by
  intro s
  have h : s.events.appendList es = s.events ++ (#[] : Array Event).appendList es :=
    Array.ext' (by simp)
  rw [runFrom_report, runFrom_report, h]

theorem appendsOnly_draw : AppendsOnly draw := by
  intro s
  simp

/-- Computations that append only can be put one after the other. -/
theorem AppendsOnly.bind {m : EvalM α} {f : α → EvalM β} (hm : AppendsOnly m)
    (hf : ∀ a, AppendsOnly (f a)) : AppendsOnly (m >>= f) := by
  intro s
  rw [runFrom_bind, runFrom_bind, hm s]
  -- If the first part fails there is no second part, and its own claim is all there is.
  rcases m.runFrom ⟨s.source, #[]⟩ with ⟨_ | a, t⟩
  · rfl
  · -- The second part starts from the events of the first, behind `s.events` or alone.
    show (f a).runFrom ⟨t.source, s.events ++ t.events⟩ = _
    rw [hf a ⟨t.source, s.events ++ t.events⟩]
    show _ = (((f a).runFrom t).1,
      EvalState.mk ((f a).runFrom t).2.source (s.events ++ ((f a).runFrom t).2.events))
    rw [hf a t, Array.append_assoc]

end EvalM

namespace Expr

open EvalM

theorem evalNot_appendsOnly (node : Expr) (v : Value) : AppendsOnly (evalNot node v) := by
  unfold evalNot
  split
  · exact appendsOnly_pure _
  · -- Also a failing negation reports before it fails.
    exact (appendsOnly_report _).bind fun _ => appendsOnly_throw _

mutual

/-- Every evaluation only appends to the log. -/
theorem eval_appendsOnly (params : Params) : ∀ e : Expr, AppendsOnly (e.eval params)
  | constant v => by
    rw [eval]
    exact appendsOnly_pure v
  | param name => by
    rw [eval]
    exact appendsOnly_pure _
  | not operand => by
    rw [eval]
    exact (eval_appendsOnly params operand).bind fun v => evalNot_appendsOnly _ v
  | binary op coercion left right => by
    rw [eval]
    refine (eval_appendsOnly params left).bind fun l => ?_
    refine (eval_appendsOnly params right).bind fun r => ?_
    exact (appendsOnly_report _).bind fun _ => appendsOnly_pure _
  | concat delimiter items => by
    rw [eval]
    refine (eval_appendsOnly params delimiter).bind fun d => ?_
    exact (evalItems_appendsOnly params items).bind fun _ => appendsOnly_pure _
  | rand => by
    rw [eval]
    exact appendsOnly_draw.bind fun _ => appendsOnly_pure _

theorem evalItems_appendsOnly (params : Params) :
    ∀ items : List Expr, AppendsOnly (evalItems params items)
  | [] => by
    rw [evalItems]
    exact appendsOnly_pure _
  | item :: items => by
    rw [evalItems]
    refine (eval_appendsOnly params item).bind fun v => ?_
    exact (evalItems_appendsOnly params items).bind fun _ => appendsOnly_pure _

end

end Expr

/-! ### Trials -/

/-- What a computation comes to when its events are not looked at. -/
@[ext]
structure Trial (α : Type) where
  /-- The value or the error. -/
  outcome : Except EvalError α
  /-- The random source afterwards. -/
  source : Source

namespace Trial

variable {α β : Type}

/-- Goes on after a success, from the source that it left. A failure is the end. -/
def andThen (first : Trial α) (rest : α → Source → Trial β) : Trial β :=
  match first with
  | ⟨.ok a, source⟩    => rest a source
  | ⟨.error e, source⟩ => ⟨.error e, source⟩

@[simp] theorem andThen_ok (a : α) (source : Source) (rest : α → Source → Trial β) :
    andThen ⟨.ok a, source⟩ rest = rest a source := rfl

@[simp] theorem andThen_error (e : EvalError) (source : Source) (rest : α → Source → Trial β) :
    andThen ⟨.error e, source⟩ rest = ⟨.error e, source⟩ := rfl

/-- Two computations that go on alike after each success come to the same. -/
theorem andThen_congr {first : Trial α} {rest rest' : α → Source → Trial β}
    (h : ∀ a source, first = ⟨.ok a, source⟩ → rest a source = rest' a source) :
    first.andThen rest = first.andThen rest' := by
  rcases first with ⟨_ | a, source⟩
  · rfl
  · exact h a source rfl

/-- Two computations succeed one after the other only if both succeed. -/
theorem exists_of_andThen_ok {first : Trial α} {rest : α → Source → Trial β} {b : β}
    (h : (first.andThen rest).outcome = .ok b) :
    ∃ a source, first = ⟨.ok a, source⟩ ∧ (rest a source).outcome = .ok b := by
  rcases first with ⟨_ | a, source⟩
  · cases h
  · exact ⟨a, source, rfl, h⟩

end Trial

namespace Expr

/-- The trial of an evaluation. -/
def trial (e : Expr) (params : Params) (source : Source) : Trial Value :=
  ⟨(e.run params ⟨source, #[]⟩).1, (e.run params ⟨source, #[]⟩).2.source⟩

/-- The trial of evaluating some items to their texts. -/
def trialItems (items : List Expr) (params : Params) (source : Source) : Trial (List String) :=
  ⟨(runItems items params ⟨source, #[]⟩).1, (runItems items params ⟨source, #[]⟩).2.source⟩

variable (params : Params) (s : EvalState) (source : Source)

/-- A run is a trial that also appends to the log. -/
theorem run_eq_trial (e : Expr) :
    e.run params s =
      ((e.trial params s.source).outcome,
        { source := (e.trial params s.source).source
          events := s.events ++ (e.run params ⟨s.source, #[]⟩).2.events }) :=
  eval_appendsOnly params e s

theorem runItems_eq_trialItems (items : List Expr) :
    runItems items params s =
      ((trialItems items params s.source).outcome,
        { source := (trialItems items params s.source).source
          events := s.events ++ (runItems items params ⟨s.source, #[]⟩).2.events }) :=
  evalItems_appendsOnly params items s

theorem run_outcome (e : Expr) : (e.run params s).1 = (e.trial params s.source).outcome := by
  rw [run_eq_trial]

theorem run_source (e : Expr) : (e.run params s).2.source = (e.trial params s.source).source := by
  rw [run_eq_trial]

/-- The outcome of a negation node whose operand has the given value. -/
def negateAt (node : Expr) (v : Value) : Except EvalError Value :=
  (negate v).mapError (·.withNote (failureNote node.render))

/-! One equation per node. -/

theorem trial_constant (v : Value) : (constant v).trial params source = ⟨.ok v, source⟩ := by
  rw [trial, run_constant]

theorem trial_param (name : String) :
    (param name).trial params source = ⟨.ok (params name), source⟩ := by
  rw [trial, run_param]

theorem trial_not (operand : Expr) :
    (not operand).trial params source =
      (operand.trial params source).andThen fun v source' =>
        ⟨negateAt (not operand) v, source'⟩ := by
  unfold trial
  rw [run_not]
  rcases operand.run params ⟨source, #[]⟩ with ⟨_ | v, t⟩
  · rfl
  · simp only [Trial.andThen_ok, runFrom_evalNot, negateAt]
    cases negate v <;> rfl

theorem trial_binary (op : BinaryOp) (coercion : Coercion) (left right : Expr) :
    (binary op coercion left right).trial params source =
      (left.trial params source).andThen fun l source' =>
        (right.trial params source').andThen fun r source'' =>
          ⟨.ok (op.applyUnder coercion l r).1, source''⟩ := by
  rw [trial, trial, run_binary]
  rcases left.run params ⟨source, #[]⟩ with ⟨_ | l, t⟩
  · rfl
  · -- The right operand runs on a log that is not empty; its trial does not see that.
    simp only [Trial.andThen_ok, run_eq_trial params t right]
    rcases right.trial params t.source with ⟨_ | r, source''⟩ <;> rfl

theorem trial_concat (delimiter : Expr) (items : List Expr) :
    (concat delimiter items).trial params source =
      (delimiter.trial params source).andThen fun d source' =>
        (trialItems items params source').andThen fun texts source'' =>
          ⟨.ok (.str (String.intercalate d.display texts)), source''⟩ := by
  rw [trial, trial, run_concat]
  rcases delimiter.run params ⟨source, #[]⟩ with ⟨_ | d, t⟩
  · rfl
  · simp only [Trial.andThen_ok, runItems_eq_trialItems params t items]
    rcases trialItems items params t.source with ⟨_ | texts, source''⟩ <;> rfl

theorem trial_rand : rand.trial params source = ⟨.ok (.float source.next.1), source.next.2⟩ := by
  rw [trial, run_rand]

theorem trialItems_nil : trialItems [] params source = ⟨.ok [], source⟩ := by
  rw [trialItems, runItems_nil]

theorem trialItems_cons (item : Expr) (items : List Expr) :
    trialItems (item :: items) params source =
      (item.trial params source).andThen fun v source' =>
        (trialItems items params source').andThen fun texts source'' =>
          ⟨.ok (v.display :: texts), source''⟩ := by
  rw [trialItems, trial, runItems_cons]
  rcases item.run params ⟨source, #[]⟩ with ⟨_ | v, t⟩
  · rfl
  · simp only [Trial.andThen_ok, runItems_eq_trialItems params t items]
    rcases trialItems items params t.source with ⟨_ | texts, source''⟩ <;> rfl

end Expr

/-! ### Forgetting notes -/

/-- The error without its notes. -/
def EvalError.bare (e : EvalError) : EvalError := { e with notes := [] }

/-- The trial with the notes of its error forgotten. -/
def Trial.bare {α : Type} (t : Trial α) : Trial α := ⟨t.outcome.mapError EvalError.bare, t.source⟩

theorem Trial.bare_eq_iff {α : Type} {t t' : Trial α} :
    t.bare = t'.bare ↔
      t.outcome.mapError EvalError.bare = t'.outcome.mapError EvalError.bare ∧
        t.source = t'.source :=
  Trial.ext_iff

/-- Notes have no say in whether and how a computation goes on. -/
theorem Trial.bare_andThen {α β : Type} (first : Trial α) (rest : α → Source → Trial β) :
    (first.andThen rest).bare = first.bare.andThen fun a source => (rest a source).bare := by
  rcases first with ⟨_ | a, source⟩ <;> rfl

namespace Expr

/-- A negation raises its error without notes, and the node only adds its own. -/
theorem bare_negateAt (node : Expr) (v : Value) (source : Source) :
    (⟨negateAt node v, source⟩ : Trial Value).bare = ⟨negate v, source⟩ := by
  cases v <;> rfl

end Expr

end DynExpr
