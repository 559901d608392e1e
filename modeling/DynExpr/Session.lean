import DynExpr.Expr.Eval
import DynExpr.Expr.Program

/-! # Sessions

    A session keeps parameters, a random source and named expressions from
    one step to the next. A step that fails leaves the session as it was,
    except for the draws it took and the events it reported.
-/

namespace DynExpr

/-- What lasts from step to step. -/
structure Session where
  /-- The parameters. -/
  bindings : Bindings
  /-- The random source and the event log. -/
  state : EvalState
  /-- The named expressions. -/
  definitions : List (String × Expr)

/-- One step. -/
inductive Step where
  /-- Binds a parameter. -/
  | insert (name : String) (v : Value)
  /-- Looks up a parameter. -/
  | get (name : String)
  /-- Counts the parameters. -/
  | size
  /-- Forgets all parameters. -/
  | clear
  /-- Starts the random source of a seed. -/
  | seed (seed : UInt64)
  /-- Takes draws. -/
  | draw (count : Nat)
  /-- Builds an expression and gives it a name. -/
  | define (name : String) (program : List Instruction)
  /-- Evaluates a named expression. -/
  | eval (name : String)
  /-- Evaluates a named expression and binds a parameter to the result. -/
  | bind (name parameter : String)
  /-- Looks at a named expression. -/
  | inspect (name : String)
  /-- Forgets a named expression. -/
  | drop (name : String)

/-- What a step answers. -/
inductive Reply where
  /-- The value that a parameter had before, and the number of parameters. -/
  | inserted (previous : Option Value) (size : Nat)
  | value (v : Value)
  | size (n : Nat) (isEmpty : Bool)
  | draws (xs : List Float)
  | expr (e : Expr)
  /-- Was there an expression of that name? -/
  | dropped (wasDefined : Bool)
  | cleared
  | seeded

/-- Why a step fails. -/
inductive StepError where
  | build (e : BuildError)
  | eval (e : EvalError)

namespace Session

/-- A session with nothing in it but a random source. -/
def start (source : Source) : Session := ⟨Bindings.empty, ⟨source, #[]⟩, []⟩

/-! ### Named expressions -/

/-- The expression of a name. -/
def lookup (s : Session) (name : String) : Option Expr := s.definitions.lookup name

/-- Takes a name from the expression that has it. -/
def forget (s : Session) (name : String) : Session :=
  { s with definitions := s.definitions.filter (·.1 != name) }

/-- Gives an expression a name, in place of the one that had it. -/
def define (s : Session) (name : String) (e : Expr) : Session :=
  { s with definitions := (name, e) :: (s.forget name).definitions }

/-! ### Building and evaluating -/

/-- Binds a parameter. -/
def insert (s : Session) (name : String) (v : Value) : Session :=
  { s with bindings := s.bindings.insert name v }

/-- Evaluates an expression under the parameters of the session. -/
def evaluate (s : Session) (e : Expr) : Except EvalError Value × Session :=
  let (outcome, state) := e.run s.bindings.toParams s.state
  (outcome, { s with state := state })

/-- Builds an expression; its program can refer to the expressions that have names already. -/
def construct (s : Session) (program : List Instruction) : Except BuildError Expr × Session :=
  let (outcome, events) := Instruction.build s.lookup program
  (outcome, { s with state := { s.state with events := s.state.events ++ events } })

/-! ### Steps -/

/-- Takes one step: its outcome, and the session afterwards. -/
def take (s : Session) : Step → Except StepError Reply × Session
  | .insert name v =>
    let after := s.insert name v
    (.ok (.inserted (s.bindings.get? name) after.bindings.size), after)
  | .get name => (.ok (.value (s.bindings.toParams name)), s)
  | .size => (.ok (.size s.bindings.size s.bindings.isEmpty), s)
  | .clear => (.ok .cleared, { s with bindings := Bindings.empty })
  | .seed seed =>
    (.ok .seeded, { s with state := { s.state with source := Source.seeded seed } })
  | .draw count =>
    let (xs, source) := s.state.source.takeDraws count
    (.ok (.draws xs), { s with state := { s.state with source := source } })
  | .define name program =>
    match s.construct program with
    | (.ok e, after)      => (.ok (.expr e), after.define name e)
    | (.error err, after) => (.error (.build err), after)
  | .eval name =>
    match s.lookup name with
    | none   => (.error (.build (.undefined name)), s)
    | some e =>
      match s.evaluate e with
      | (.ok v, after)      => (.ok (.value v), after)
      | (.error err, after) => (.error (.eval err), after)
  | .bind name parameter =>
    match s.lookup name with
    | none   => (.error (.build (.undefined name)), s)
    | some e =>
      match s.evaluate e with
      | (.ok v, after)      => (.ok (.value v), after.insert parameter v)
      | (.error err, after) => (.error (.eval err), after)
  | .inspect name =>
    match s.lookup name with
    | none   => (.error (.build (.undefined name)), s)
    | some e => (.ok (.expr e), s)
  | .drop name => (.ok (.dropped (s.lookup name).isSome), s.forget name)

/-- Takes some steps in order: their outcomes, and the session afterwards. -/
def run (s : Session) : List Step → List (Except StepError Reply) × Session
  | []            => ([], s)
  | step :: steps =>
    let (outcome, after) := s.take step
    let (outcomes, last) := run after steps
    (outcome :: outcomes, last)

end Session

end DynExpr
