import DynExpr.Proofs.Coercion.Rewriting
import DynExpr.Proofs.Comparison.Agreement
import DynExpr.Proofs.Text.Matching

/-! # Likeness and equality

    `LIKE` holds wherever equality does, and only between two texts can it
    hold of more:

    * **Texts**: a text is like itself, because the wildcards taken off the
      pattern stand for themselves in the subject (`like_self`). A plain
      pattern, without wildcards at its ends, is like nothing else
      (`like_of_plain`).
    * **Other operands**: `LIKE` is equality (`BinaryOp.like_apply_of_ne`).
    * **Policies**: what a policy puts in the place of other operands is never
      a text (`Coercion.operands_cases`), so the two nodes read the same texts.

    **`run_like_extends_equality`** says this of nodes.
-/

namespace DynExpr

namespace Pattern

/-! ### Texts -/

theorem mark_eq_nil_or (present : Bool) : mark present = [] ∨ present := by
  cases present with
  | false => exact Or.inl rfl
  | true => exact Or.inr rfl

/-- What a text is read as matches the text itself. -/
theorem Reads.matches_self {text : List Char} {p : Pattern} (h : Reads text p) :
    p.Matches text := by
  -- The subject is cut where the wildcards are in the pattern.
  refine Or.inr ⟨mark p.openFront, mark p.openBack, ?_, mark_eq_nil_or _, mark_eq_nil_or _⟩
  rw [List.append_assoc]
  exact h.text_eq

/-- Every text is like itself, also with wildcards in it. -/
theorem like_self (s : String) : like s s :=
  (accepts_iff _ _).2 (reads_ofChars s.toList).matches_self

/-- A pattern that is not empty and has no wildcard at either end. -/
structure IsPlain (pattern : String) : Prop where
  ne_empty : pattern ≠ ""
  head_ne : pattern.toList.head? ≠ some wildcard
  last_ne : pattern.toList.getLast? ≠ some wildcard

theorem IsPlain.ofChars_eq {pattern : String} (h : IsPlain pattern) :
    ofChars pattern.toList = ⟨false, pattern.toList, false⟩ := by
  have hread : Reads pattern.toList ⟨false, pattern.toList, false⟩ :=
    ⟨(List.append_nil _).symm, fun hhead => absurd hhead h.head_ne,
      fun hlast => absurd hlast h.last_ne⟩
  exact (reads_ofChars pattern.toList).unique hread

/-- A plain pattern is matched by itself alone. -/
theorem like_of_plain (s : String) {pattern : String} (h : IsPlain pattern) :
    like s pattern = (s == pattern) := by
  have hsome : pattern.toList.isEmpty = false := by
    rw [List.isEmpty_eq_false_iff, Ne, String.toList_eq_nil_iff]
    exact h.ne_empty
  rw [like, h.ofChars_eq, accepts, hsome, Bool.eq_iff_iff]
  show (pattern.toList == s.toList) = true ↔ _
  rw [beq_iff_eq, beq_iff_eq, String.toList_inj]
  exact eq_comm

end Pattern

/-! ### Operands -/

theorem Value.exists_str {v : Value} (h : v.kind = .string) : ∃ s, v = str s := by
  cases v with
  | str s => exact ⟨s, rfl⟩
  | null | bool | uint | int | float | timestamp => cases h

namespace BinaryOp

/-- Unless both operands are texts, `LIKE` is equality. -/
theorem like_apply_of_ne {l r : Value} (h : ¬ (l.kind = .string ∧ r.kind = .string)) :
    like.apply l r = (comparison .eq).apply l r := by
  cases l with
  | str s =>
    cases r with
    | str t => exact absurd ⟨rfl, rfl⟩ h
    | null | bool | uint | int | float | timestamp => rfl
  | null | bool | uint | int | float | timestamp => rfl

/-- Beside a plain text it is equality as well. -/
theorem like_apply_of_plain (l : Value) {pattern : String} (h : Pattern.IsPlain pattern) :
    like.apply l (.str pattern) = (comparison .eq).apply l (.str pattern) := by
  cases l with
  | str s =>
    have heq : Comparison.eq.apply (.str s) (.str pattern) = (s == pattern) := by
      rw [Bool.eq_iff_iff]
      exact Comparison.eq_apply_iff_beq _ _
    show Value.bool (DynExpr.like s pattern) = .bool (Comparison.eq.apply _ _)
    rw [Pattern.like_of_plain s h, heq]
  | null | bool | uint | int | float | timestamp => rfl

/-- Equal values are alike. -/
theorem like_apply_of_eq {l r : Value} (h : Comparison.eq.apply l r) :
    like.apply l r = .bool true := by
  by_cases htexts : l.kind = .string ∧ r.kind = .string
  · obtain ⟨s, rfl⟩ := Value.exists_str htexts.1
    obtain ⟨t, rfl⟩ := Value.exists_str htexts.2
    have hsame : s = t := beq_iff_eq.1 ((Comparison.eq_apply_iff_beq _ _).1 h)
    rw [hsame]
    exact congrArg Value.bool (Pattern.like_self t)
  · rw [like_apply_of_ne htexts]
    exact congrArg Value.bool h

end BinaryOp

/-- A policy leaves two operands alone, or puts others in their place that are no texts. -/
theorem Coercion.operands_cases (policy : Coercion) (l r : Value) :
    policy.operands l r = (l, r) ∨
      (policy.operands l r).1.kind ≠ .string ∧ (policy.operands l r).2.kind ≠ .string := by
  unfold operands
  cases h : policy.coerce? l r with
  | none => exact Or.inl rfl
  | some pair =>
    have hmem : pair.1.kind ∈ commonKinds := (coerce?_becomes h).1
    have hstring : pair.1.kind ≠ .string := by
      intro hkind
      rw [hkind] at hmem
      revert hmem
      decide
    refine Or.inr ⟨hstring, ?_⟩
    show pair.2.kind ≠ .string
    rw [← coerce?_kind_eq h]
    exact hstring

/-- **Likeness**: under every policy, a `LIKE` node is true where the equality node over the same
    values is. Unless the operands are two texts after coercion, the two nodes give the same, and
    so they do if the right one is a plain text. Every value is like itself. -/
theorem run_like_extends_equality (policy : Coercion) (a b : Value) (params : Params)
    (s : EvalState) :
    (((Expr.binary (.comparison .eq) policy (.constant a) (.constant b)).run params s).1 =
        .ok (.bool true) →
      ((Expr.binary .like policy (.constant a) (.constant b)).run params s).1 =
        .ok (.bool true)) ∧
    (¬ ((policy.operands a b).1.kind = .string ∧ (policy.operands a b).2.kind = .string) →
      ((Expr.binary .like policy (.constant a) (.constant b)).run params s).1 =
        ((Expr.binary (.comparison .eq) policy (.constant a) (.constant b)).run params s).1) ∧
    (∀ pattern, (policy.operands a b).2 = .str pattern → b = .str pattern ∧
      (Pattern.IsPlain pattern →
        ((Expr.binary .like policy (.constant a) (.constant b)).run params s).1 =
          ((Expr.binary (.comparison .eq) policy (.constant a) (.constant b)).run params s).1)) ∧
    ((Expr.binary .like policy (.constant a) (.constant a)).run params s).1 =
      .ok (.bool true) := by
  simp only [Coercion.run_constants]
  refine ⟨?_, ?_, ?_, ?_⟩
  · intro h
    have heq : Value.bool (Comparison.eq.apply (policy.operands a b).1 (policy.operands a b).2) =
        .bool true := Except.ok.inj h
    rw [BinaryOp.like_apply_of_eq (Value.bool.inj heq)]
  · intro h
    rw [BinaryOp.like_apply_of_ne h]
  · intro pattern h
    constructor
    · -- A text that is there after coercion was there before.
      rcases policy.operands_cases a b with hkept | hreplaced
      · rw [hkept] at h
        exact h
      · rw [h] at hreplaced
        exact absurd rfl hreplaced.2
    · intro hplain
      rw [h, BinaryOp.like_apply_of_plain _ hplain]
  · rw [Coercion.operands_of_kind_eq policy rfl, BinaryOp.like_apply_of_eq]
    exact Comparison.eq_apply_equivalence.refl a

end DynExpr
