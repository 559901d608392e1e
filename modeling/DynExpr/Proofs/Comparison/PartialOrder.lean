import DynExpr.Proofs.Binary64.Number
import DynExpr.Proofs.Comparison.ValueOrder
import Mathlib.Data.Prod.Lex

/-! # The partial order of values

    The equality and the order that values have of their own belong together:

    * **Equality** is an equivalence (`Value.beq_equivalence`), and equal values
      are those in the order of equals.
    * **Order**: exchanged values are in the reversed order
      (`Value.compare?_swap`), and being below is transitive.
    * **No order** is only between different kinds, and between NaN and another
      float (`Value.compare?_eq_none_iff`).
    * **Replacing** a value by an equal one changes no order
      (`Value.compare?_congr`).

    Instants are ordered by second and nanosecond, and floats as the numbers
    that they are. **`Value.equality_and_order_lawful`** collects the laws.
-/

namespace DynExpr.Value

open Binary64 (number)

/-! ### Equality -/

theorem beq_equivalence : Equivalence fun a b : Value => a == b where
  refl a := (beq_iff a a).2 ⟨rfl, rfl⟩
  symm {a b} hab := by
    rw [beq_iff] at hab ⊢
    exact ⟨hab.1.symm, hab.2.symm⟩
  trans {a b c} hab hbc := by
    rw [beq_iff] at hab hbc ⊢
    exact ⟨hab.1.trans hbc.1, hab.2.trans hbc.2⟩

/-! ### Order -/

/-- Only values of different kinds have no order, and NaN with another float. -/
theorem compare?_eq_none_iff (a b : Value) :
    compare? a b = none ↔ a.kind ≠ b.kind ∨ a.OneNaN b := by
  by_cases hsort : a.sort = b.sort
  · rw [compare?_of_sort_eq hsort]
    refine iff_of_false nofun ?_
    intro h
    cases h with
    | inl hkind => exact hkind (congrArg Prod.fst hsort)
    | inr hone => exact hone.2.2 (congrArg Prod.snd hsort)
  · refine iff_of_true (compare?_of_sort_ne hsort) ?_
    by_cases hkind : a.kind = b.kind
    · exact Or.inr (oneNaN_of_sort_ne hkind hsort)
    · exact Or.inl hkind

theorem compare?_swap (a b : Value) : compare? b a = (compare? a b).map Ordering.swap := by
  by_cases hsort : a.sort = b.sort
  · rw [compare?_of_sort_eq hsort, compare?_of_sort_eq hsort.symm,
      Std.OrientedOrd.eq_swap (a := b.key)]
    rfl
  · rw [compare?_of_sort_ne hsort, compare?_of_sort_ne (Ne.symm hsort)]
    rfl

/-- Equal values are in the same order with everything else. -/
theorem compare?_congr {a a' b b' : Value} (ha : a == a') (hb : b == b') :
    compare? a b = compare? a' b' := by
  obtain ⟨hasort, hakey⟩ := (beq_iff a a').1 ha
  obtain ⟨hbsort, hbkey⟩ := (beq_iff b b').1 hb
  by_cases hsort : a.sort = b.sort
  · have hsort' : a'.sort = b'.sort := by rw [← hasort, ← hbsort, hsort]
    rw [compare?_of_sort_eq hsort, compare?_of_sort_eq hsort', hakey, hbkey]
  · have hsort' : a'.sort ≠ b'.sort := by rwa [← hasort, ← hbsort]
    rw [compare?_of_sort_ne hsort, compare?_of_sort_ne hsort']

theorem compare?_lt_trans {a b c : Value} (hab : compare? a b = some .lt)
    (hbc : compare? b c = some .lt) : compare? a c = some .lt := by
  rw [compare?_eq_some_iff] at hab hbc ⊢
  exact ⟨hab.1.trans hbc.1, Std.TransCmp.lt_trans hab.2 hbc.2⟩

theorem holds_lt_iff (a b : Value) : holds .lt a b ↔ compare? a b = some .lt := by
  unfold holds
  cases compare? a b with
  | none => simp
  | some o => simp [Comparison.holds]

/-! ### The order within some kinds -/

/-- Instants are ordered by second, and within a second by nanosecond. -/
theorem compare?_timestamp (t u : Instant) :
    compare? (timestamp t) (timestamp u) =
      some (compare (toLex (t.seconds, t.nanos)) (toLex (u.seconds, u.nanos))) := by
  rw [compare?, Instant.compare, Prod.Lex.compare_def]
  rfl

/-- Floats other than NaN are ordered as numbers. -/
theorem compare?_float {x y : Float} (hx : ¬ x.isNaN) (hy : ¬ y.isNaN) :
    compare? (float x) (float y) = some (compare (number x) (number y)) := by
  rw [compare?, Binary64.compare?_of_not_isNaN hx hy, Binary64.compare_number_number hx hy]

/-- **Laws of equality and order**: equality is an equivalence, and holds just between values in
    the order of equals. Exchanged values are in the reversed order, being below is transitive,
    and equal values can replace each other. There is no order just between values of different
    kinds, and between NaN and another float. Instants are ordered as pairs of seconds and
    nanoseconds, and floats other than NaN as numbers. -/
theorem equality_and_order_lawful :
    Equivalence (fun a b : Value => a == b) ∧
    (∀ a b, compare? a b = some .eq ↔ a == b) ∧
    (∀ a b, compare? b a = (compare? a b).map Ordering.swap) ∧
    (∀ a b c, holds .lt a b → holds .lt b c → holds .lt a c) ∧
    (∀ a a' b b', a == a' → b == b' → compare? a b = compare? a' b') ∧
    (∀ a b, compare? a b = none ↔ a.kind ≠ b.kind ∨ a.OneNaN b) ∧
    (∀ t u, compare? (timestamp t) (timestamp u) =
      some (compare (toLex (t.seconds, t.nanos)) (toLex (u.seconds, u.nanos)))) ∧
    ∀ x y, ¬ x.isNaN → ¬ y.isNaN →
      compare? (float x) (float y) = some (compare (number x) (number y)) := by
  refine ⟨beq_equivalence, ?_, compare?_swap, ?_, ?_, compare?_eq_none_iff, compare?_timestamp, ?_⟩
  · intro a b
    exact (beq_iff_compare? a b).symm
  · intro a b c hab hbc
    rw [holds_lt_iff] at hab hbc ⊢
    exact compare?_lt_trans hab hbc
  · intro a a' b b' ha hb
    exact compare?_congr ha hb
  · intro x y hx hy
    exact compare?_float hx hy

end DynExpr.Value
