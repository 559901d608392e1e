import DynExpr.Proofs.Evaluation.Reached
import DynExpr.Proofs.Params.Contexts
import DynExpr.Session
import Mathlib.Data.Finset.Card

/-! # The history of a session

    What a session holds after a run can be read off the history of the run:

    * **History**: `Session.history` lists the steps of a run, each with the
      session that it was taken in.
    * **Writes**: only an insertion and an evaluation that is bound and
      succeeds write to the table (`Entry.after_bindings`). A name has the
      value of the last write to it, and the size of the table is the number
      of names written to.
    * **Draws**: an evaluation moves the source by the random nodes that it
      reaches (`Entry.after_source`).
    * **Account**: `Session.Accounted` ties the table and the source of a
      session to the steps that have led to it, and every step keeps it so.
-/

namespace DynExpr

/-! ### The names written to -/

namespace Bindings

/-- The names that have been written to. -/
def written (writes : List (String × Value)) : Finset String := (writes.map Prod.fst).toFinset

theorem mem_keys_ofList (writes : List (String × Value)) (name : String) :
    name ∈ (ofList writes).entries.map Prod.fst ↔ name ∈ written writes := by
  induction writes using List.reverseRecOn with
  | nil => exact iff_of_false List.not_mem_nil (Finset.notMem_empty name)
  | append_singleton writes w ih =>
    rw [ofList_concat, insert, mem_keys_put, ih, written, written]
    simp

/-- A table has one entry for each name that has been written to. -/
theorem size_ofList (writes : List (String × Value)) :
    (ofList writes).size = (written writes).card := by
  have hkeys : ((ofList writes).entries.map Prod.fst).toFinset = written writes := by
    ext name
    rw [List.mem_toFinset, mem_keys_ofList]
  rw [← hkeys, List.toFinset_card_of_nodup (ofList writes).nodup, List.length_map, size]

end Bindings

/-- The step goes on with the table and the source that it finds. The other steps start a new
    one. -/
def Step.Continues : Step → Prop
  | .clear  => False
  | .seed _ => False
  | _       => True

/-! ### Entries -/

/-- A step of a run. -/
structure Entry where
  /-- The session in which the step is taken. -/
  before : Session
  step : Step

namespace Entry

/-- What the step answers. -/
def outcome (entry : Entry) : Except StepError Reply := (entry.before.take entry.step).1

/-- The session after the step. -/
def after (entry : Entry) : Session := (entry.before.take entry.step).2

/-- The name and the value that the step writes to the table, if it does. -/
def write? (entry : Entry) : Option (String × Value) :=
  match entry.step, entry.outcome with
  | .insert name v, _                  => some (name, v)
  | .bind _ parameter, .ok (.value v) => some (parameter, v)
  | _, _                               => none

/-- The tree that the step evaluates, if it does. -/
def evaluated? (entry : Entry) : Option Expr :=
  match entry.step with
  | .eval name   => entry.before.lookup name
  | .bind name _ => entry.before.lookup name
  | _            => none

/-- The visits that the evaluation of a tree makes in the session of the step. -/
def reached (entry : Entry) (e : Expr) : List Visit :=
  e.reached entry.before.bindings.toParams entry.before.state.source

/-- How many draws the step takes. -/
def drawn (entry : Entry) : Nat :=
  match entry.step with
  | .draw count => count
  | _           => entry.evaluated?.elim 0 fun e => Visit.drawnBy (entry.reached e)

end Entry

namespace Session

/-- The steps of a run, each with the session in which it is taken. -/
def history (s : Session) : List Step → List Entry
  | []            => []
  | step :: steps => ⟨s, step⟩ :: history (s.take step).2 steps

/-- The writes of some steps, in order. -/
def writes (entries : List Entry) : List (String × Value) := entries.filterMap Entry.write?

/-- The draws of some steps together. -/
def drawn : List Entry → Nat
  | []               => 0
  | entry :: entries => entry.drawn + drawn entries

@[simp] theorem history_steps (s : Session) (steps : List Step) :
    (s.history steps).map Entry.step = steps := by
  induction steps generalizing s with
  | nil => rfl
  | cons step steps ih => rw [history, List.map_cons, ih]

theorem run_outcomes (s : Session) (steps : List Step) :
    (s.run steps).1 = (s.history steps).map Entry.outcome := by
  induction steps generalizing s with
  | nil => rfl
  | cons step steps ih =>
    rw [history, List.map_cons, ← ih]
    rfl

/-- A step of a run finds the session that the steps before it have left. -/
theorem history_eq_append {s : Session} {steps : List Step} {earlier later : List Entry}
    {entry : Entry} (h : s.history steps = earlier ++ entry :: later) :
    ∃ first rest, steps = first ++ entry.step :: rest ∧ s.history first = earlier ∧
      entry.before = (s.run first).2 := by
  induction earlier generalizing s steps with
  | nil =>
    cases steps with
    | nil => cases h
    | cons step steps =>
      cases h
      exact ⟨[], steps, rfl, rfl, rfl⟩
  | cons e earlier ih =>
    cases steps with
    | nil => cases h
    | cons step steps =>
      rw [history, List.cons_append, List.cons.injEq] at h
      obtain ⟨rfl, hrest⟩ := h
      obtain ⟨first, rest, rfl, hfirst, hbefore⟩ := ih hrest
      refine ⟨step :: first, rest, rfl, ?_, hbefore⟩
      rw [history, hfirst]

end Session

/-! ### One step -/

namespace Session

section Take

variable {s : Session} {e : Expr}

/-- What a step answers that evaluates a tree. -/
def answer : Except EvalError Value → Except StepError Reply
  | .ok v      => .ok (.value v)
  | .error err => .error (.eval err)

theorem take_eval {name : String} (h : s.lookup name = some e) :
    s.take (.eval name) = (answer (s.evaluate e).1, (s.evaluate e).2) := by
  simp only [take, h]
  rcases s.evaluate e with ⟨_ | _, _⟩ <;> rfl

theorem take_bind {name : String} (h : s.lookup name = some e) (parameter : String) :
    s.take (.bind name parameter) =
      (answer (s.evaluate e).1,
        match (s.evaluate e).1 with
        | .ok v    => (s.evaluate e).2.insert parameter v
        | .error _ => (s.evaluate e).2) := by
  simp only [take, h]
  rcases s.evaluate e with ⟨_ | _, _⟩ <;> rfl

theorem take_eval_undefined {name : String} (h : s.lookup name = none) :
    s.take (.eval name) = (.error (.build (.undefined name)), s) := by
  simp only [take, h]

theorem take_bind_undefined {name : String} (h : s.lookup name = none) (parameter : String) :
    s.take (.bind name parameter) = (.error (.build (.undefined name)), s) := by
  simp only [take, h]

/-- An attempt to build an expression touches neither the table nor the source. -/
theorem take_define (name : String) (program : List Instruction) :
    (s.take (.define name program)).2.bindings = s.bindings ∧
      (s.take (.define name program)).2.state.source = s.state.source := by
  simp only [take, construct]
  rcases Instruction.build s.lookup program with ⟨_ | _, _⟩ <;> exact ⟨rfl, rfl⟩

theorem take_inspect (name : String) : (s.take (.inspect name)).2 = s := by
  simp only [take]
  cases s.lookup name <;> rfl

end Take

end Session

namespace Entry

variable {entry : Entry} {e : Expr}

/-- A step that evaluates a tree answers with the outcome of the evaluation. -/
theorem outcome_of_evaluated (h : entry.evaluated? = some e) :
    entry.outcome =
      Session.answer (e.run entry.before.bindings.toParams entry.before.state).1 := by
  rcases entry with ⟨s, step⟩
  cases step with
  | eval name => exact congrArg Prod.fst (Session.take_eval h)
  | bind name parameter => exact congrArg Prod.fst (Session.take_bind h parameter)
  | insert | get | size | clear | seed | draw | define | inspect | drop => cases h

/-- A step that evaluates a tree takes the draws of the visits that the evaluation makes. -/
theorem drawn_of_evaluated (h : entry.evaluated? = some e) :
    entry.drawn = Visit.drawnBy (entry.reached e) := by
  rcases entry with ⟨s, step⟩
  cases step with
  | eval | bind => rw [drawn, h, Option.elim_some]
  | insert | get | size | clear | seed | draw | define | inspect | drop => cases h

/-- If the evaluation succeeds, these are the draws of all random nodes. -/
theorem drawn_of_ok (h : entry.evaluated? = some e) {reply : Reply}
    (hok : entry.outcome = .ok reply) : entry.drawn = e.drawCount := by
  rw [outcome_of_evaluated h] at hok
  cases hrun : (e.run entry.before.bindings.toParams entry.before.state).1 with
  | ok v =>
    rw [drawn_of_evaluated h, reached, Expr.reached_of_ok hrun, Expr.walk, Expr.drawnBy_walkFrom]
  | error err =>
    rw [hrun] at hok
    cases hok

/-- If the evaluation fails, these are the draws of the random nodes before its failure. -/
theorem drawn_of_error (h : entry.evaluated? = some e) {err : StepError}
    (herror : entry.outcome = .error err) :
    ∃ before,
      e.FailsAfter entry.before.bindings.toParams entry.before.state.source before ∧
      entry.drawn = Visit.drawnBy before := by
  rw [outcome_of_evaluated h] at herror
  cases hrun : (e.run entry.before.bindings.toParams entry.before.state).1 with
  | ok v =>
    rw [hrun] at herror
    cases herror
  | error err' =>
    rw [drawn_of_evaluated h]
    exact Expr.drawnBy_reached_of_error hrun

/-- A step that evaluates a tree leaves the source where the evaluation has left it. -/
theorem source_of_evaluated (h : entry.evaluated? = some e) :
    entry.after.state.source = (entry.before.evaluate e).2.state.source := by
  rcases entry with ⟨s, step⟩
  cases step with
  | eval name => rw [after, Session.take_eval h]
  | bind name parameter =>
    rw [after, Session.take_bind h]
    cases (s.evaluate e).1 <;> rfl
  | insert | get | size | clear | seed | draw | define | inspect | drop => cases h

/-- A step moves the source by the draws that it takes. -/
theorem after_source (h : entry.step.Continues) :
    entry.after.state.source = entry.before.state.source.skip entry.drawn := by
  cases hevaluated : entry.evaluated? with
  | some e =>
    rw [source_of_evaluated hevaluated, drawn_of_evaluated hevaluated]
    exact Expr.run_source_eq_skip _ _ e
  | none =>
    rcases entry with ⟨s, step⟩
    cases step with
    | clear | seed => cases h
    | insert | get | size | draw | drop => rfl
    | define name program => exact (Session.take_define name program).2
    | inspect name => exact congrArg (fun s => s.state.source) (Session.take_inspect name)
    | eval name =>
      rw [drawn, hevaluated, after, Session.take_eval_undefined hevaluated]
      rfl
    | bind name parameter =>
      rw [drawn, hevaluated, after, Session.take_bind_undefined hevaluated]
      rfl

/-- A step writes to the table what `Entry.write?` says, and nothing else. -/
theorem after_bindings (h : entry.step.Continues) :
    entry.after.bindings =
      entry.write?.elim entry.before.bindings fun w => entry.before.bindings.insert w.1 w.2 := by
  rcases entry with ⟨s, step⟩
  cases step with
  | clear | seed => cases h
  | insert | get | size | draw | drop => rfl
  | define name program => exact (Session.take_define name program).1
  | inspect name => exact congrArg Session.bindings (Session.take_inspect name)
  | eval name =>
    cases hlookup : s.lookup name with
    | none =>
      rw [after, Session.take_eval_undefined hlookup]
      rfl
    | some e =>
      rw [after, Session.take_eval hlookup]
      rfl
  | bind name parameter =>
    cases hlookup : s.lookup name with
    | none => simp only [after, write?, outcome, Session.take_bind_undefined hlookup, Option.elim]
    | some e =>
      simp only [after, write?, outcome, Session.take_bind hlookup]
      cases (s.evaluate e).1 <;> rfl

/-- A step that fails writes nothing. -/
theorem write?_of_error {err : StepError} (h : entry.outcome = .error err) :
    entry.write? = none := by
  rcases entry with ⟨s, step⟩
  cases step with
  | insert => cases h
  | bind => simp only [write?, h]
  | get | size | clear | seed | draw | define | eval | inspect | drop => rfl

end Entry

/-! ### Runs -/

namespace Session

/-- The session has the table that the steps have written, and the source that they have left
    behind their draws. -/
structure Accounted (source : Source) (entries : List Entry) (s : Session) : Prop where
  table : s.bindings = Bindings.ofList (writes entries)
  draws : s.state.source = source.skip (drawn entries)

theorem writes_concat (entries : List Entry) (entry : Entry) :
    writes (entries ++ [entry]) = writes entries ++ entry.write?.toList := by
  rw [writes, List.filterMap_append, List.filterMap_cons]
  cases entry.write? <;> rfl

theorem drawn_concat (entries : List Entry) (entry : Entry) :
    drawn (entries ++ [entry]) = drawn entries + entry.drawn := by
  induction entries with
  | nil => exact Nat.add_comm _ 0
  | cons first entries ih => rw [List.cons_append, drawn, ih, drawn, Nat.add_assoc]

namespace Accounted

variable {source : Source} {entries : List Entry} {s : Session}

theorem get?_eq (h : Accounted source entries s) (name : String) :
    s.bindings.get? name = Bindings.lastWrite? (writes entries) name := by
  rw [h.table, Bindings.get?_ofList]

theorem toParams_eq (h : Accounted source entries s) (name : String) :
    s.bindings.toParams name = (Bindings.lastWrite? (writes entries) name).getD .null := by
  rw [Bindings.toParams, h.get?_eq]

theorem size_eq (h : Accounted source entries s) :
    s.bindings.size = (Bindings.written (writes entries)).card := by
  rw [h.table, Bindings.size_ofList]

/-- A step adds its own write and its own draws to the account. -/
theorem step {entry : Entry} (h : Accounted source entries entry.before)
    (hcontinues : entry.step.Continues) : Accounted source (entries ++ [entry]) entry.after := by
  constructor
  · rw [Entry.after_bindings hcontinues, h.table, writes_concat]
    cases entry.write? with
    | none => rw [Option.elim_none, Option.toList_none, List.append_nil]
    | some w => exact (Bindings.ofList_concat _ w.1 w.2).symm
  · rw [Entry.after_source hcontinues, h.draws, drawn_concat, Source.skip_skip]

/-- A step that writes a name, be it an insertion or an evaluation that is bound, finds the last
    value of the name and leaves its own. -/
theorem wrote {entry : Entry} (h : Accounted source entries entry.before)
    (hcontinues : entry.step.Continues) {name : String} {v : Value}
    (hwrite : entry.write? = some (name, v)) :
    entry.before.bindings.get? name = Bindings.lastWrite? (writes entries) name ∧
      entry.after.bindings.get? name = some v ∧
      entry.after.bindings.size = (Bindings.written (writes (entries ++ [entry]))).card := by
  refine ⟨h.get?_eq name, ?_, (h.step hcontinues).size_eq⟩
  rw [Entry.after_bindings hcontinues, hwrite, Option.elim_some, Bindings.get?_insert, if_pos rfl]

/-- An insertion answers with the last value of its name and the names written to with it. -/
theorem inserted {entry : Entry} (h : Accounted source entries entry.before) {name : String}
    {v : Value} (hinsert : entry.step = .insert name v) :
    entry.outcome = .ok (.inserted (Bindings.lastWrite? (writes entries) name)
      (Bindings.written (writes (entries ++ [entry]))).card) := by
  have hcontinues : entry.step.Continues := by
    rw [hinsert]
    trivial
  rw [← h.get?_eq, ← (h.step hcontinues).size_eq, Entry.outcome, Entry.after, hinsert]
  rfl

/-- A run adds those of all its steps. -/
theorem run (h : Accounted source entries s) {steps : List Step}
    (hcontinue : ∀ step ∈ steps, step.Continues) :
    Accounted source (entries ++ s.history steps) (s.run steps).2 := by
  induction steps generalizing entries s with
  | nil =>
    rw [history, List.append_nil]
    exact h
  | cons step steps ih =>
    rw [List.forall_mem_cons] at hcontinue
    have hstep : Accounted source (entries ++ [⟨s, step⟩]) (s.take step).2 :=
      Accounted.step h hcontinue.1
    have hsteps := ih hstep hcontinue.2
    rw [List.append_assoc, List.singleton_append] at hsteps
    exact hsteps

end Accounted

open Bindings (lastWrite? written)

/-- **Account of a run**: in a run that starts with an empty table and with any named expressions,
    every name has the value of the last write to it, and null if there was none; the size of the
    table is the number of names written to; and the source has moved by the draws of all steps.
    The same holds before each step. An insertion answers with the value that its name had before.
    The name that an evaluation is bound to also had the value of the last write to it before, and
    has that of the evaluation behind it. A step that fails leaves the table as it was. A step that
    evaluates a tree takes one draw for each random node of the tree if it succeeds, and one for
    each random node that the walk meets before the failing negation if it fails. -/
theorem run_accounted (start : Session) (hempty : start.bindings = Bindings.empty)
    (steps : List Step) (hcontinue : ∀ step ∈ steps, step.Continues) :
    (start.history steps).map Entry.step = steps ∧
    (start.run steps).1 = (start.history steps).map Entry.outcome ∧
    (∀ name, (start.run steps).2.bindings.toParams name =
      (lastWrite? (writes (start.history steps)) name).getD .null) ∧
    (start.run steps).2.bindings.size = (written (writes (start.history steps))).card ∧
    (start.run steps).2.state.source = start.state.source.skip (drawn (start.history steps)) ∧
    ∀ earlier entry later, start.history steps = earlier ++ entry :: later →
      (∀ name, entry.before.bindings.toParams name =
        (lastWrite? (writes earlier) name).getD .null) ∧
      entry.before.state.source = start.state.source.skip (drawn earlier) ∧
      (∀ name v, entry.step = .insert name v → entry.outcome =
        .ok (.inserted (lastWrite? (writes earlier) name)
          (written (writes (earlier ++ [entry]))).card)) ∧
      (∀ name v, entry.write? = some (name, v) →
        entry.before.bindings.get? name = lastWrite? (writes earlier) name ∧
        entry.after.bindings.get? name = some v ∧
        entry.after.bindings.size = (written (writes (earlier ++ [entry]))).card) ∧
      (∀ err, entry.outcome = .error err → entry.after.bindings = entry.before.bindings) ∧
      ∀ e, entry.evaluated? = some e →
        entry.outcome = answer (e.run entry.before.bindings.toParams entry.before.state).1 ∧
        (∀ reply, entry.outcome = .ok reply → entry.drawn = e.drawCount) ∧
        (∀ err, entry.outcome = .error err →
          ∃ before,
            e.FailsAfter entry.before.bindings.toParams entry.before.state.source before ∧
            entry.drawn = Visit.drawnBy before) := by
  have hstart : Accounted start.state.source [] start := ⟨hempty, rfl⟩
  have hlast := hstart.run hcontinue
  refine ⟨history_steps start steps, run_outcomes start steps, hlast.toParams_eq,
    hlast.size_eq, hlast.draws, ?_⟩
  intro earlier entry later hsplit
  obtain ⟨first, rest, rfl, rfl, hentry⟩ := history_eq_append hsplit
  rw [List.forall_mem_append, List.forall_mem_cons] at hcontinue
  obtain ⟨hfirst, hstep, -⟩ := hcontinue
  have hbefore : Accounted start.state.source (start.history first) entry.before :=
    hentry ▸ hstart.run hfirst
  refine ⟨hbefore.toParams_eq, hbefore.draws, ?_, ?_, ?_, ?_⟩
  · intro name v hinsert
    exact hbefore.inserted hinsert
  · intro name v hwrite
    exact hbefore.wrote hstep hwrite
  · intro err herror
    rw [Entry.after_bindings hstep, Entry.write?_of_error herror, Option.elim_none]
  · intro e hevaluated
    exact ⟨Entry.outcome_of_evaluated hevaluated, fun _ => Entry.drawn_of_ok hevaluated,
      fun _ => Entry.drawn_of_error hevaluated⟩

/-- One name is written three times, and a negation fails behind its draw: the last write stands,
    nothing is bound to the failure, and both draws have been taken. -/
theorem run_accounted_failing_negation :
    let start : Session :=
      ⟨Bindings.empty, ⟨Source.seeded 42, #[]⟩, [("roll", .rand), ("failing", .not .rand)]⟩
    let steps : List Step :=
      [.insert "x" (.int 1), .bind "roll" "x", .bind "failing" "y", .insert "x" (.bool true)]
    start.bindings = Bindings.empty ∧ (∀ step ∈ steps, step.Continues) ∧
      (start.run steps).2.bindings.toParams "x" = .bool true ∧
      (start.run steps).2.bindings.toParams "y" = .null ∧
      (start.run steps).2.bindings.size = 1 ∧
      (start.run steps).2.state.source = (Source.seeded 42).skip 2 := by
  intro start steps
  have hcontinue : ∀ step ∈ steps, step.Continues := by
    simp [steps, Step.Continues]
  obtain ⟨-, -, hname, hsize, hsource, -⟩ := run_accounted start rfl steps hcontinue
  have hwrites : writes (start.history steps) =
      [("x", .int 1), ("x", .float (start.state.source.stream 0)), ("x", .bool true)] := rfl
  have hdrawn : drawn (start.history steps) = 2 := rfl
  rw [hwrites] at hname hsize
  rw [hdrawn] at hsource
  exact ⟨rfl, hcontinue, hname "x", hname "y", hsize, hsource⟩

end Session

end DynExpr
