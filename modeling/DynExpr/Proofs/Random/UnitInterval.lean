import DynExpr.Proofs.Arithmetic.Operation
import DynExpr.Proofs.Binary64.Product
import DynExpr.Proofs.Comparison.Standing
import DynExpr.Proofs.Session.History

/-! # Draws from the unit interval

    The draws of a seeded source are multiples of `2 ^ -53` from 0 up to and
    without 1:

    * **Words**: `Random.word` is the stream of the cipher, word by word. Two
      words that follow each other, cut to 53 binary digits, are the numerator
      of a draw (`Random.numerator_eq`).
    * **Fractions**: `IsFraction` says what a numerator becomes without
      rounding. Such a float is an ordinary one, at least zero and below one.
    * **States**: whatever is evaluated, a seeded source only moves along its
      stream, so that all draws are fractions, and whatever a session does, its
      source remains one of a seed (`Session.isSeeded_history`).
-/

namespace DynExpr

open Binary64 (number ofInt ofRatio)

namespace Random

/-! ### Words -/

/-- Word number `n` of the stream of a key. A block holds sixteen words. -/
def word (key : Key) (n : Nat) : UInt32 :=
  (block key (UInt64.ofNat (n / 16))).get ⟨n % 16, Nat.mod_lt n (by decide)⟩

variable (key : Key) (i : Nat)

/-- A numerator is made of two words that follow each other in the stream. -/
theorem numerator_eq :
    numerator key i =
      ((word key (2 * i)).toNat + (word key (2 * i + 1)).toNat * 2 ^ 32) / 2 ^ 11 := by
  have hlow : 2 * i / 16 = i / 8 := by omega
  have hhigh : (2 * i + 1) / 16 = i / 8 := by omega
  unfold numerator word
  rw [hlow, hhigh]

theorem numerator_lt : numerator key i < 2 ^ 53 := by
  have hlow := (word key (2 * i)).toNat_lt
  have hhigh := (word key (2 * i + 1)).toNat_lt
  rw [numerator_eq]
  omega

end Random

/-! ### Fractions -/

/-- The float is `k * 2 ^ -53` for a number `k` of 53 binary digits: this is how it is computed,
    and it is the number that comes out. -/
structure IsFraction (k : Nat) (x : Float) : Prop where
  lt : k < 2 ^ 53
  eq_mul : x = ofInt k * ofRatio false 1 (2 ^ 53)
  number_eq : number x = ((k / 2 ^ 53 : ℝ) : EReal)

theorem isFraction_ofRatio {k : Nat} (h : k < 2 ^ 53) :
    IsFraction k (ofRatio false k (2 ^ 53)) where
  lt := h
  eq_mul := (Binary64.ofInt_mul_ofRatio h.le (by decide)).symm
  number_eq := Binary64.number_ofRatio h.le (by decide)

theorem isFraction_draw (key : Random.Key) (i : Nat) :
    IsFraction (Random.numerator key i) (Random.draw key i) :=
  isFraction_ofRatio (Random.numerator_lt key i)

namespace IsFraction

variable {k : Nat} {x : Float} (h : IsFraction k x)
include h

theorem eq_ofRatio : x = ofRatio false k (2 ^ 53) := by
  rw [h.eq_mul, Binary64.ofInt_mul_ofRatio h.lt.le (by decide)]

theorem number_nonneg : 0 ≤ number x := by
  rw [h.number_eq]
  exact_mod_cast (by positivity : (0 : ℝ) ≤ k / 2 ^ 53)

theorem number_lt_one : number x < 1 := by
  have hlt : (k : ℝ) < 2 ^ 53 := by exact_mod_cast h.lt
  rw [h.number_eq]
  exact_mod_cast (div_lt_one (by positivity)).2 hlt

theorem not_isNaN : ¬ x.isNaN := by
  rw [h.eq_ofRatio]
  exact Binary64.not_isNaN_ofRatio _ _ _

theorem not_isInf : ¬ x.isInf := by
  rw [h.eq_ofRatio, Binary64.isInf_iff, Binary64.place_ofRatio]
  exact (Binary64.nearest_lt_infinity h.lt.le (by decide)).ne

theorem ne_neg_zero : x ≠ -0.0 := by
  rintro rfl
  have hsign : Binary64.isNegative (-0.0) = true := by decide +kernel
  rw [h.eq_ofRatio, Binary64.isNegative_ofRatio] at hsign
  cases hsign

theorem ne_one : x ≠ 1.0 := by
  rintro rfl
  exact h.number_lt_one.ne Binary64.number_one

/-- The comparison of floats finds it at least zero. -/
theorem ofFloats_ge_zero : Comparison.ge.ofFloats x 0.0 = true := by
  have hzero : ¬ (0.0 : Float).isNaN := by decide +kernel
  rw [Comparison.ofFloats_of_not_isNaN .ge h.not_isNaN hzero,
    ← Binary64.compare_number_number h.not_isNaN hzero, Binary64.number_zero]
  exact bne_iff_ne.2 (mt compare_lt_iff_lt.1 h.number_nonneg.not_gt)

/-- It finds it below one. -/
theorem ofFloats_lt_one : Comparison.lt.ofFloats x 1.0 = true := by
  have hone : ¬ (1.0 : Float).isNaN := by decide +kernel
  rw [Comparison.ofFloats_of_not_isNaN .lt h.not_isNaN hone,
    ← Binary64.compare_number_number h.not_isNaN hone, Binary64.number_one]
  exact beq_iff_eq.2 (compare_lt_iff_lt.2 h.number_lt_one)

end IsFraction

/-! ### Seeded sources -/

namespace Source

/-- The source is that of a seed, after some draws. -/
def IsSeeded (source : Source) : Prop := ∃ seed n, source = (seeded seed).skip n

theorem isSeeded_skip_seeded (seed : UInt64) (n : Nat) : ((seeded seed).skip n).IsSeeded :=
  ⟨seed, n, rfl⟩

theorem next_skip_seeded (seed : UInt64) (n : Nat) :
    ((seeded seed).skip n).next.1 = (seeded seed).stream n := by
  simp [next, skip, seeded]

namespace IsSeeded

variable {source : Source} (h : source.IsSeeded)
include h

theorem skip (m : Nat) : (source.skip m).IsSeeded := by
  obtain ⟨seed, n, rfl⟩ := h
  exact ⟨seed, n + m, skip_skip _ n m⟩

/-- All draws that are still to come are fractions. -/
theorem isFraction_ahead (i : Nat) : ∃ k, IsFraction k (source.ahead i) := by
  obtain ⟨seed, n, rfl⟩ := h
  exact ⟨_, isFraction_draw _ _⟩

end IsSeeded

end Source

/-! ### Nodes -/

/-- The node that compares a draw with a float. -/
def Expr.compareDraw (c : Comparison) (policy : Coercion) (y : Float) : Expr :=
  binary (.comparison c) policy rand (constant (.float y))

theorem Expr.trial_compareDraw (c : Comparison) (policy : Coercion) (y : Float) (params : Params)
    (source : Source) :
    ((compareDraw c policy y).trial params source).outcome =
      .ok (.bool (c.ofFloats source.next.1 y)) := by
  have hkind : (Value.float source.next.1).kind = (Value.float y).kind := rfl
  rw [compareDraw, trial_binary, trial_rand, Trial.andThen_ok, trial_constant, Trial.andThen_ok]
  show Except.ok ((BinaryOp.comparison c).apply
    (policy.operands (.float source.next.1) (.float y)).1
    (policy.operands (.float source.next.1) (.float y)).2) = _
  rw [Coercion.operands_of_kind_eq policy hkind]
  rfl

namespace Visit

/-- On a walk that starts with `source`, a random node at the visit draws a fraction, and the nodes
    that ask whether a draw is at least zero, or below one, find it so. -/
structure DrawsFraction (params : Params) (source : Source) (visit : Visit) : Prop where
  rand : visit.node = .rand →
    (visit.node.trial params (source.skip visit.offset)).outcome =
        .ok (.float (source.ahead visit.offset)) ∧
      ∃ k, IsFraction k (source.ahead visit.offset)
  ge_zero : ∀ policy, visit.node = .compareDraw .ge policy 0.0 →
    (visit.node.trial params (source.skip visit.offset)).outcome = .ok (.bool true)
  lt_one : ∀ policy, visit.node = .compareDraw .lt policy 1.0 →
    (visit.node.trial params (source.skip visit.offset)).outcome = .ok (.bool true)

/-- Any visit finds a source of a seed if the walk starts with one. -/
theorem drawsFraction {source : Source} (h : source.IsSeeded) (params : Params) (visit : Visit) :
    visit.DrawsFraction params source := by
  obtain ⟨k, hk⟩ := h.isFraction_ahead visit.offset
  constructor
  · intro hnode
    rw [hnode, Expr.trial_rand]
    exact ⟨rfl, k, hk⟩
  · intro policy hnode
    rw [hnode, Expr.trial_compareDraw]
    exact congrArg (fun b => Except.ok (Value.bool b)) hk.ofFloats_ge_zero
  · intro policy hnode
    rw [hnode, Expr.trial_compareDraw]
    exact congrArg (fun b => Except.ok (Value.bool b)) hk.ofFloats_lt_one

end Visit

/-! ### States -/

/-- A step of a session leaves a source of a seed. -/
theorem Entry.isSeeded_after {entry : Entry} (h : entry.before.state.source.IsSeeded) :
    entry.after.state.source.IsSeeded := by
  by_cases hcontinues : entry.step.Continues
  · rw [after_source hcontinues]
    exact h.skip _
  · rcases entry with ⟨s, step⟩
    cases step with
    | clear => exact h
    | seed seed => exact Source.isSeeded_skip_seeded seed 0
    | insert | get | size | draw | define | eval | bind | inspect | drop =>
      exact absurd trivial hcontinues

/-- So every step of a run finds one. -/
theorem Session.isSeeded_history {s : Session} (h : s.state.source.IsSeeded) (steps : List Step) :
    ∀ entry ∈ s.history steps, entry.before.state.source.IsSeeded := by
  induction steps generalizing s with
  | nil => nofun
  | cons step steps ih =>
    have hentry : (Entry.mk s step).before.state.source.IsSeeded := h
    exact List.forall_mem_cons.2 ⟨hentry, ih (Entry.isSeeded_after hentry)⟩

namespace Expr

/-- **Draws from the unit interval**: every draw of a seeded source is `k * 2 ^ -53` for a `k` below
    `2 ^ 53`, and so it is not NaN, not infinite, not the negative zero and not one. In any state
    of such a source a random node takes the next of these draws, and the nodes that ask whether a
    draw is at least zero, or below one, come out true under every policy. The same holds at every
    node of a tree that is evaluated there, and of the trees that a session evaluates which begins
    there. -/
theorem rand_in_unit_interval (seed : UInt64) :
    (∀ i,
      let key := Random.Key.ofSeed seed
      let x := (Source.seeded seed).stream i
      IsFraction
          (((Random.word key (2 * i)).toNat + (Random.word key (2 * i + 1)).toNat * 2 ^ 32) /
            2 ^ 11) x ∧
        ¬ x.isNaN ∧ ¬ x.isInf ∧ x ≠ -0.0 ∧ x ≠ 1.0) ∧
    (∀ (params : Params) (n : Nat) (events : Array Event),
      let s : EvalState := ⟨(Source.seeded seed).skip n, events⟩
      (rand.run params s).1 = .ok (.float ((Source.seeded seed).stream n)) ∧
      (∀ policy,
        ((compareDraw .ge policy 0.0).run params s).1 = .ok (.bool true) ∧
          ((compareDraw .lt policy 1.0).run params s).1 = .ok (.bool true)) ∧
      ∀ e : Expr,
        (∃ m, (e.run params s).2.source = (Source.seeded seed).skip m) ∧
          ∀ visit ∈ e.walk, visit.DrawsFraction params s.source) ∧
    ∀ (bindings : Bindings) (n : Nat) (events : Array Event)
      (definitions : List (String × Expr)) (steps : List Step),
      let start : Session := ⟨bindings, ⟨(Source.seeded seed).skip n, events⟩, definitions⟩
      ∀ entry ∈ start.history steps,
        (∃ seed' m, entry.before.state.source = (Source.seeded seed').skip m) ∧
          ∀ e, entry.evaluated? = some e → ∀ visit ∈ e.walk,
            visit.DrawsFraction entry.before.bindings.toParams entry.before.state.source := by
  refine ⟨?_, ?_, ?_⟩
  · intro i key x
    have hx : IsFraction (Random.numerator key i) x := isFraction_draw key i
    rw [← Random.numerator_eq]
    exact ⟨hx, hx.not_isNaN, hx.not_isInf, hx.ne_neg_zero, hx.ne_one⟩
  · intro params n events s
    have hs : s.source.IsSeeded := Source.isSeeded_skip_seeded seed n
    have hnode : ∀ node : Expr, Visit.DrawsFraction params s.source ⟨0, node⟩ :=
      fun node => Visit.drawsFraction hs params ⟨0, node⟩
    refine ⟨?_, ?_, ?_⟩
    · rw [run_rand, Source.next_skip_seeded]
    · intro policy
      rw [run_outcome, run_outcome]
      exact ⟨(hnode _).ge_zero policy rfl, (hnode _).lt_one policy rfl⟩
    · intro e
      refine ⟨?_, fun visit _ => visit.drawsFraction hs params⟩
      rw [run_source_eq_skip]
      exact ⟨_, Source.skip_skip _ n _⟩
  · intro bindings n events definitions steps start entry hentry
    have hstart : start.state.source.IsSeeded := Source.isSeeded_skip_seeded seed n
    have hbefore := Session.isSeeded_history hstart steps entry hentry
    exact ⟨hbefore, fun e _ visit _ => visit.drawsFraction hbefore _⟩

end Expr

end DynExpr
