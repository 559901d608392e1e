import DynExpr.Event
import DynExpr.Expr

/-! # Programs that build trees

    A program is a row of instructions in postfix order. They run on a stack
    of expressions: leaves are pushed, and every other instruction takes its
    parts off the stack and pushes the node made of them. At the end exactly
    one expression is left.

    Symbols are resolved as the program runs. An unknown symbol ends it; where
    the symbol was given to the node itself, the refusal is also reported.
-/

namespace DynExpr

/-- One instruction. -/
inductive Instruction where
  | constant (v : Value)
  | param (name : String)
  | rand
  /-- Pushes the expression that a name stands for. -/
  | reference (name : String)
  | not
  /-- Builds a binary node from the symbol of its operator. -/
  | binary (symbol : String) (coercion : Coercion)
  /-- Resolves the operator first and then builds the node from it. -/
  | resolved (symbol : String) (coercion : Coercion)
  /-- Takes a number of items, and the delimiter from below them. -/
  | concat (count : Nat)
  /-- Takes a number of expressions, the first of which is the delimiter. -/
  | concatAll (count : Nat)
  /-- Runs some instructions a number of times. -/
  | iterate (times : Nat) (body : List Instruction)

/-- What a program works on. -/
structure BuildState where
  /-- The expressions not yet part of a node, the last one pushed on top. -/
  stack : List Expr
  /-- The events so far, oldest first. -/
  events : Array Event

/-- Computations on a stack that can fail. -/
abbrev BuildM := ExceptT BuildError (StateM BuildState)

namespace BuildM

/-- Pushes an expression. -/
def push (e : Expr) : BuildM Unit := modify fun s => { s with stack := e :: s.stack }

/-- Takes one expression off the stack. -/
def pop : BuildM Expr := do
  let s ← get
  match s.stack with
  | []        => throw .unbalanced
  | e :: rest => do
    set { s with stack := rest }
    pure e

/-- Takes a number of expressions off the stack and puts them in front of those given, in the
    order in which they were pushed. -/
def popOnto : Nat → List Expr → BuildM (List Expr)
  | 0, taken         => pure taken
  | count + 1, taken => do
    let e ← pop
    popOnto count (e :: taken)

/-- Takes a number of expressions off the stack, in the order in which they were pushed. -/
def popMany (count : Nat) : BuildM (List Expr) := popOnto count []

/-- Repeats a computation. -/
def iterate : Nat → BuildM Unit → BuildM Unit
  | 0, _          => pure ()
  | n + 1, action => do
    action
    iterate n action

end BuildM

namespace Instruction

open BuildM

mutual

/-- Runs one instruction. -/
def run (lookup : String → Option Expr) : Instruction → BuildM Unit
  | constant v => push (.constant v)
  | param name => push (.param name)
  | rand => push .rand
  | reference name =>
    match lookup name with
    | some e => push e
    | none   => throw (.undefined name)
  | not => do
    let operand ← pop
    push (.not operand)
  | binary symbol coercion => do
    let right ← pop
    let left ← pop
    match Expr.ofSymbol symbol coercion left right with
    | .ok e => push e
    | .error e => do
      modify fun s => { s with events := s.events.push (.rejected symbol) }
      throw e
  | resolved symbol coercion => do
    match BinaryOp.ofSymbol? symbol with
    | none => throw (.unsupportedOperator symbol)
    | some op => do
      let right ← pop
      let left ← pop
      push (.binary op coercion left right)
  | concat count => do
    let items ← popMany count
    let delimiter ← pop
    push (.concat delimiter items)
  | concatAll count => do
    let exprs ← popMany count
    match Expr.concatAll exprs with
    | .ok e    => push e
    | .error e => throw e
  | iterate times body => BuildM.iterate times (runAll lookup body)

/-- Runs some instructions in order. -/
def runAll (lookup : String → Option Expr) : List Instruction → BuildM Unit
  | [] => pure ()
  | i :: rest => do
    run lookup i
    runAll lookup rest

end

/-- Builds the tree of a program and reports what happened. -/
def build (lookup : String → Option Expr) (program : List Instruction) :
    Except BuildError Expr × Array Event :=
  let (outcome, s) := (runAll lookup program).run.run ⟨[], #[]⟩
  match outcome, s.stack with
  | .error e, _  => (.error e, s.events)
  | .ok _, [e]   => (.ok e, s.events)
  | .ok _, _     => (.error .unbalanced, s.events)

end Instruction

end DynExpr
