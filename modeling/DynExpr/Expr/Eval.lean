import DynExpr.Event
import DynExpr.Expr.Text
import DynExpr.Params
import DynExpr.Random.Source

/-! # Evaluation

    A tree is evaluated against parameters and a random source:

    * **Order**: parts come before the node they belong to, left before
      right, the delimiter before the items and the items in order. Nothing
      is skipped, whatever its value.
    * **Failure**: only a negation can fail. It ends the evaluation, and the
      error notes the rendering of that negation.
    * **Effects**: draws are taken from the source and events are appended to
      a log. Both stay as they are when an evaluation fails halfway.
-/

namespace DynExpr

/-- What an evaluation works on beside the tree and the parameters. -/
structure EvalState where
  /-- Where draws come from. -/
  source : Source
  /-- The events so far, oldest first. -/
  events : Array Event

/-- Computations that take draws, report events and can fail. -/
abbrev EvalM := ExceptT EvalError (StateM EvalState)

namespace EvalM

variable {α β : Type}

/-- Appends events to the log. -/
def report (es : List Event) : EvalM Unit :=
  modify fun s => { s with events := s.events.appendList es }

/-- Takes a draw. -/
def draw : EvalM Float :=
  modifyGet fun s => let (x, source) := s.source.next; (x, { s with source := source })

/-- Runs a computation from a state: the outcome, and the state afterwards. -/
def runFrom (m : EvalM α) (s : EvalState) : Except EvalError α × EvalState := m.run.run s

@[simp] theorem runFrom_pure (a : α) (s : EvalState) :
    (pure a : EvalM α).runFrom s = (.ok a, s) := rfl

@[simp] theorem runFrom_throw (e : EvalError) (s : EvalState) :
    (throw e : EvalM α).runFrom s = (.error e, s) := rfl

@[simp] theorem runFrom_report (es : List Event) (s : EvalState) :
    (report es).runFrom s = (.ok (), { s with events := s.events.appendList es }) := rfl

@[simp] theorem runFrom_draw (s : EvalState) :
    draw.runFrom s = (.ok s.source.next.1, { s with source := s.source.next.2 }) := rfl

/-- What comes second starts where the first part ended, and does not start if that failed. -/
theorem runFrom_bind (m : EvalM α) (f : α → EvalM β) (s : EvalState) :
    (m >>= f).runFrom s = match m.runFrom s with
      | (.ok a, s')    => (f a).runFrom s'
      | (.error e, s') => (.error e, s') := by
  change (match (m s : Except EvalError α × EvalState) with
    | (x, s') => (ExceptT.bindCont f x : StateM EvalState (Except EvalError β)) s') = _
  change _ = match (m s : Except EvalError α × EvalState) with
    | (.ok a, s')    => (f a).runFrom s'
    | (.error e, s') => (.error e, s')
  rcases (m s : Except EvalError α × EvalState) with ⟨_ | _, s'⟩ <;> rfl

end EvalM

namespace Expr

/-! ### The evaluator -/

/-- The note that a failed negation leaves on its error. -/
def failureNote (rendered : String) : String := "in `" ++ rendered ++ "`"

/-- The result of a negation node, which is written out only if it fails. -/
def evalNot (node : Expr) (v : Value) : EvalM Value :=
  match negate v with
  | .ok b    => pure b
  | .error e => do
    let rendered := node.render
    EvalM.report [.negationFailed rendered e.message]
    throw (e.withNote (failureNote rendered))

mutual

/-- Evaluates a tree. -/
def eval (params : Params) : Expr → EvalM Value
  | constant v => pure v
  | param name => pure (params name)
  | not operand => do
    let v ← operand.eval params
    evalNot (not operand) v
  | binary op coercion left right => do
    let l ← left.eval params
    let r ← right.eval params
    let result := op.applyUnder coercion l r
    EvalM.report result.2
    pure result.1
  | concat delimiter items => do
    let d ← delimiter.eval params
    let texts ← evalItems params items
    pure (.str (String.intercalate d.display texts))
  | rand => do
    let x ← EvalM.draw
    pure (.float x)

/-- Evaluates some items in order and collects their texts. -/
def evalItems (params : Params) : List Expr → EvalM (List String)
  | [] => pure []
  | item :: items => do
    let v ← item.eval params
    let texts ← evalItems params items
    pure (v.display :: texts)

end

/-- Evaluates a tree from a state: the outcome, and the state afterwards. -/
def run (e : Expr) (params : Params) (s : EvalState) : Except EvalError Value × EvalState :=
  (e.eval params).runFrom s

/-- Evaluates some items from a state: their texts or the error, and the state afterwards. -/
def runItems (items : List Expr) (params : Params) (s : EvalState) :
    Except EvalError (List String) × EvalState :=
  (evalItems params items).runFrom s

/-! ### One equation per node -/

variable (params : Params) (s : EvalState)

theorem run_constant (v : Value) : (constant v).run params s = (.ok v, s) := by
  rw [run, eval, EvalM.runFrom_pure]

theorem run_param (name : String) : (param name).run params s = (.ok (params name), s) := by
  rw [run, eval, EvalM.runFrom_pure]

theorem run_not (operand : Expr) :
    (not operand).run params s = match operand.run params s with
      | (.ok v, s')    => (evalNot (not operand) v).runFrom s'
      | (.error e, s') => (.error e, s') := by
  simp only [run, eval, EvalM.runFrom_bind]
  rcases (operand.eval params).runFrom s with ⟨_ | _, s'⟩ <;> rfl

/-- Both operands are evaluated before the operator is applied, and its events come last. -/
theorem run_binary (op : BinaryOp) (coercion : Coercion) (left right : Expr) :
    (binary op coercion left right).run params s = match left.run params s with
      | (.ok l, s') => match right.run params s' with
        | (.ok r, s'') =>
          (.ok (op.applyUnder coercion l r).1,
            { s'' with events := s''.events.appendList (op.applyUnder coercion l r).2 })
        | (.error e, s'') => (.error e, s'')
      | (.error e, s') => (.error e, s') := by
  simp only [run, eval, EvalM.runFrom_bind]
  rcases (left.eval params).runFrom s with ⟨_ | _, s'⟩
  · rfl
  · rcases h : (right.eval params).runFrom s' with ⟨_ | _, s''⟩
    · simp only [h]
    · simp only [h]
      rfl

/-- The delimiter is evaluated before the items, even if it is not needed. -/
theorem run_concat (delimiter : Expr) (items : List Expr) :
    (concat delimiter items).run params s = match delimiter.run params s with
      | (.ok d, s') => match runItems items params s' with
        | (.ok texts, s'') => (.ok (.str (String.intercalate d.display texts)), s'')
        | (.error e, s'')  => (.error e, s'')
      | (.error e, s') => (.error e, s') := by
  simp only [run, runItems, eval, EvalM.runFrom_bind]
  rcases (delimiter.eval params).runFrom s with ⟨_ | _, s'⟩
  · rfl
  · rcases h : (evalItems params items).runFrom s' with ⟨_ | _, s''⟩
    · simp only [h]
    · simp only [h]
      rfl

theorem run_rand :
    rand.run params s =
      (.ok (.float s.source.next.1), { s with source := s.source.next.2 }) := by
  rw [run, eval, EvalM.runFrom_bind]
  rfl

theorem runItems_nil : runItems [] params s = (.ok [], s) := by
  rw [runItems, evalItems, EvalM.runFrom_pure]

theorem runItems_cons (item : Expr) (items : List Expr) :
    runItems (item :: items) params s = match item.run params s with
      | (.ok v, s') => match runItems items params s' with
        | (.ok texts, s'') => (.ok (v.display :: texts), s'')
        | (.error e, s'')  => (.error e, s'')
      | (.error e, s') => (.error e, s') := by
  simp only [run, runItems, evalItems, EvalM.runFrom_bind]
  rcases (item.eval params).runFrom s with ⟨_ | _, s'⟩
  · rfl
  · rcases h : (evalItems params items).runFrom s' with ⟨_ | _, s''⟩
    · simp only [h]
    · simp only [h]
      rfl

/-- A negation gives the opposite truth value, or fails and says where. -/
theorem runFrom_evalNot (node : Expr) (v : Value) :
    (evalNot node v).runFrom s = match negate v with
      | .ok b    => (.ok b, s)
      | .error e =>
        (.error (e.withNote (failureNote node.render)),
          { s with events := s.events.appendList [.negationFailed node.render e.message] }) := by
  unfold evalNot
  split
  · rfl
  · rw [EvalM.runFrom_bind]
    rfl

end Expr

end DynExpr
