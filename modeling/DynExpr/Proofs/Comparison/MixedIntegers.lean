import DynExpr.Proofs.Binary64.Nearest
import DynExpr.Proofs.Coercion.CommonKind
import DynExpr.Proofs.Comparison.Coherence

/-! # Unsigned beside signed integers

    A policy that promotes numbers compares an unsigned integer with a signed
    one as signed integers while the unsigned one is in their range. Beyond
    the range both are compared as floats, which are far apart there:

    * **Around the end of the range**: the integers that round to `2 ^ 63` are
      those from `2 ^ 63 - 512` to `2 ^ 63 + 1024`. All others are rounded to
      one side of it.
    * **Blurred pairs**: so an unsigned integer from `2 ^ 63` on is taken for
      equal to a signed one if both are among these, and else their order is
      the exact one (`apply_meetInt`).

    **`run_mixed_integers`** says this of comparison nodes, with the operands
    in either order.
-/

namespace DynExpr

/-! ### Around the end of the signed range -/

namespace Binary64

/-- The place of `2 ^ 63`. -/
def boundary : Nat := 1086 * 2 ^ 52

/-- Halfway to the floats next to `2 ^ 63`, rounding still goes to it, as it is even; one further
    it does not. The float below is closer than the float above. -/
theorem nearest_around_boundary :
    nearest (2 ^ 63 - 513) 1 = boundary - 1 ∧ nearest (2 ^ 63 - 512) 1 = boundary ∧
      nearest (2 ^ 63 + 1024) 1 = boundary ∧ nearest (2 ^ 63 + 1025) 1 = boundary + 1 := by
  decide +kernel

theorem level_ofInt_natCast (n : Nat) : level (ofInt n) = nearest n 1 := by
  rw [level_ofInt, signed, if_neg (by simp)]
  rfl

variable {z : Int}

theorem level_ofInt_lt_boundary (h : z < 2 ^ 63 - 512) : level (ofInt z) < boundary := by
  have hle : level (ofInt z) ≤ level (ofInt (2 ^ 63 - 513 : Nat)) := level_ofInt_mono (by omega)
  rw [level_ofInt_natCast, nearest_around_boundary.1] at hle
  unfold boundary at hle ⊢
  omega

theorem boundary_lt_level_ofInt (h : 2 ^ 63 + 1024 < z) : boundary < level (ofInt z) := by
  have hle : level (ofInt (2 ^ 63 + 1025 : Nat)) ≤ level (ofInt z) := level_ofInt_mono (by omega)
  rw [level_ofInt_natCast, nearest_around_boundary.2.2.2] at hle
  unfold boundary at hle ⊢
  omega

theorem level_ofInt_eq_boundary (hlow : 2 ^ 63 - 512 ≤ z) (hhigh : z ≤ 2 ^ 63 + 1024) :
    level (ofInt z) = boundary := by
  have hle : level (ofInt z) ≤ level (ofInt (2 ^ 63 + 1024 : Nat)) := level_ofInt_mono (by omega)
  have hge : level (ofInt (2 ^ 63 - 512 : Nat)) ≤ level (ofInt z) := level_ofInt_mono (by omega)
  rw [level_ofInt_natCast, nearest_around_boundary.2.2.1] at hle
  rw [level_ofInt_natCast, nearest_around_boundary.2.1] at hge
  exact Int.le_antisymm hle hge

end Binary64

namespace Comparison

/-! ### Blurred pairs -/

/-- The two are different integers that round to the same float. -/
def Blurred (a : UInt64) (b : Int64) : Prop :=
  2 ^ 63 ≤ a.toNat ∧ a.toNat ≤ 2 ^ 63 + 1024 ∧ 2 ^ 63 - 512 ≤ b.toInt

instance (a : UInt64) (b : Int64) : Decidable (Blurred a b) :=
  inferInstanceAs (Decidable (_ ∧ _ ∧ _))

/-- How an unsigned integer is taken to stand to a signed one: as it does, unless the two are
    blurred. -/
def mixedOrder (a : UInt64) (b : Int64) : Ordering :=
  if Blurred a b then .eq else compare (a.toNat : Int) b.toInt

theorem lt_of_blurred {a : UInt64} {b : Int64} (h : Blurred a b) : b.toInt < a.toNat := by
  have hb := b.toInt_lt
  have ha := h.1
  omega

/-- Beyond the signed range the floats of the two stand to each other as the two are taken to. -/
theorem compare_level_ofInt {a : UInt64} (b : Int64) (ha : ¬ a.toNat < 2 ^ 63) :
    compare (Binary64.level (Binary64.ofInt a.toNat)) (Binary64.level (Binary64.ofInt b.toInt)) =
      mixedOrder a b := by
  have hb := b.toInt_lt
  by_cases hnear : (a.toNat : Int) ≤ 2 ^ 63 + 1024
  · have hmiddle : 2 ^ 63 - 512 ≤ (a.toNat : Int) := by omega
    rw [Binary64.level_ofInt_eq_boundary hmiddle hnear]
    by_cases hclose : 2 ^ 63 - 512 ≤ b.toInt
    · have hblurred : Blurred a b := ⟨by omega, by omega, hclose⟩
      rw [mixedOrder, if_pos hblurred, compare_eq_iff_eq]
      exact (Binary64.level_ofInt_eq_boundary hclose (by omega)).symm
    · have hexact : ¬ Blurred a b := fun h => hclose h.2.2
      have hgreater : compare (a.toNat : Int) b.toInt = .gt := compare_gt_iff_gt.2 (by omega)
      rw [mixedOrder, if_neg hexact, hgreater, compare_gt_iff_gt]
      exact Binary64.level_ofInt_lt_boundary (Int.not_le.1 hclose)
  · have hexact : ¬ Blurred a b := by
      intro h
      have hfar := h.2.1
      omega
    have hgreater : compare (a.toNat : Int) b.toInt = .gt := compare_gt_iff_gt.2 (by omega)
    rw [mixedOrder, if_neg hexact, hgreater, compare_gt_iff_gt]
    -- The signed integer is rounded to `2 ^ 63` at most.
    have hbelow := Binary64.level_ofInt_mono (by omega : b.toInt ≤ 2 ^ 63 + 1024)
    have hmiddle := Binary64.level_ofInt_eq_boundary (z := 2 ^ 63 + 1024) (by omega) (by omega)
    exact Int.lt_of_le_of_lt (hbelow.trans_eq hmiddle) (Binary64.boundary_lt_level_ofInt (by omega))

/-- Brought together, the two compare as they are taken to stand to each other. -/
theorem apply_meetInt (c : Comparison) (a : UInt64) (b : Int64) :
    c.apply (Coercion.meetInt a b).1 (Coercion.meetInt a b).2 = c.holds (mixedOrder a b) := by
  unfold Coercion.meetInt
  split
  · next hfits =>
    have hexact : (Int64.ofInt a.toNat).toInt = a.toNat :=
      Int64.toInt_ofInt_of_le (by omega) (by omega)
    have hblurred : ¬ Blurred a b := fun h => absurd h.1 (Nat.not_le.2 hfits)
    show c.holds (compare (Int64.ofInt a.toNat).toInt b.toInt) = _
    rw [hexact, mixedOrder, if_neg hblurred]
  · next hbeyond =>
    show c.ofFloats _ _ = _
    rw [ofFloats_of_not_isNaN c (Binary64.not_isNaN_ofInt _) (Binary64.not_isNaN_ofInt _),
      compare_level_ofInt b hbeyond]

/-! ### Comparison nodes -/

theorem operands_uint_int {policy : Coercion} (h : policy ≠ .strict) (a : UInt64) (b : Int64) :
    policy.operands (.uint a) (.int b) = Coercion.meetInt a b := by
  cases policy with
  | strict => exact absurd rfl h
  | numeric | lenient => rfl

theorem operands_int_uint {policy : Coercion} (h : policy ≠ .strict) (a : UInt64) (b : Int64) :
    policy.operands (.int b) (.uint a) = (Coercion.meetInt a b).swap := by
  rw [Coercion.operands_swap, operands_uint_int h]

/-- **Mixed integers**: under a policy that promotes numbers, a comparison node over an unsigned and
    a signed integer, in either order, answers by their exact order, unless they are blurred. Then
    it answers as if they were equal, although the unsigned one is larger. So it is true if what
    it asserts of the two integers is, and for blurred ones if equality is part of it. -/
theorem run_mixed_integers {policy : Coercion} (h : policy ≠ .strict) (c : Comparison) (a : UInt64)
    (b : Int64) (params : Params) (s : EvalState) :
    ((Expr.binary (.comparison c) policy (.constant (.uint a)) (.constant (.int b))).run
      params s).1 = .ok (.bool (c.holds (mixedOrder a b))) ∧
    ((Expr.binary (.comparison c) policy (.constant (.int b)) (.constant (.uint a))).run
      params s).1 = .ok (.bool (c.holds (mixedOrder a b).swap)) ∧
    (Blurred a b → b.toInt < a.toNat) ∧
    (¬ Blurred a b →
      (((Expr.binary (.comparison c) policy (.constant (.uint a)) (.constant (.int b))).run
        params s).1 = .ok (.bool true) ↔ c.Asserts (a.toNat : Int) b.toInt) ∧
      (((Expr.binary (.comparison c) policy (.constant (.int b)) (.constant (.uint a))).run
        params s).1 = .ok (.bool true) ↔ c.Asserts b.toInt a.toNat)) ∧
    (Blurred a b →
      (((Expr.binary (.comparison c) policy (.constant (.uint a)) (.constant (.int b))).run
        params s).1 = .ok (.bool true) ↔ c = .eq ∨ c = .le ∨ c = .ge) ∧
      (((Expr.binary (.comparison c) policy (.constant (.int b)) (.constant (.uint a))).run
        params s).1 = .ok (.bool true) ↔ c = .eq ∨ c = .le ∨ c = .ge)) := by
  have hleft : ((Expr.binary (.comparison c) policy (.constant (.uint a))
      (.constant (.int b))).run params s).1 = .ok (.bool (c.holds (mixedOrder a b))) := by
    rw [run_node, holdsUnder, operands_uint_int h, apply_meetInt]
  have hright : ((Expr.binary (.comparison c) policy (.constant (.int b))
      (.constant (.uint a))).run params s).1 = .ok (.bool (c.holds (mixedOrder a b).swap)) := by
    rw [run_node, holdsUnder, operands_int_uint h, holds_ordering_swap, ← apply_meetInt, apply_swap]
    rfl
  refine ⟨hleft, hright, lt_of_blurred, ?_, ?_⟩
  · intro hexact
    rw [hleft, hright, ok_bool_eq_true_iff, ok_bool_eq_true_iff, mixedOrder, if_neg hexact,
      ← Std.OrientedOrd.eq_swap]
    exact ⟨holds_compare_iff c _ _, holds_compare_iff c _ _⟩
  · intro hblurred
    rw [hleft, hright, ok_bool_eq_true_iff, ok_bool_eq_true_iff, mixedOrder, if_pos hblurred]
    exact ⟨holds_eq_iff c, holds_eq_iff c⟩

/-- At the edge of the blurred pairs. -/
theorem run_mixed_integers_edge :
    Coercion.numeric ≠ .strict ∧
      ((Expr.binary (.comparison .gt) .numeric (.constant (.uint 9223372036854776832))
        (.constant (.int 9223372036854775296))).run Params.none ⟨Source.seeded 0, #[]⟩).1 =
          .ok (.bool false) ∧
      ((Expr.binary (.comparison .gt) .numeric (.constant (.uint 9223372036854776833))
        (.constant (.int 9223372036854775296))).run Params.none ⟨Source.seeded 0, #[]⟩).1 =
          .ok (.bool true) := by
  have hpolicy : Coercion.numeric ≠ .strict := by decide
  have hblurred : gt.holds (mixedOrder 9223372036854776832 9223372036854775296) = false := by decide
  have hexact : gt.holds (mixedOrder 9223372036854776833 9223372036854775296) = true := by decide
  refine ⟨hpolicy, ?_, ?_⟩
  · rw [(run_mixed_integers hpolicy .gt _ _ _ _).1, hblurred]
  · rw [(run_mixed_integers hpolicy .gt _ _ _ _).1, hexact]

end Comparison

end DynExpr
