import DynExpr.Proofs.Arithmetic.Operation
import DynExpr.Proofs.Comparison.Standing

/-! # The six comparisons fit together

    A comparison node compares its operands as its policy leaves them. What
    its six operators say of one pair of operands depends on how these stand
    to each other, so the laws that relate the operators are checked standing
    by standing:

    * **One pair**: `Coherent` collects the laws, with the exceptions that NaN
      and operands of different kinds make.
    * **Several pairs**: without coercion, equality is that of sort and key
      (`eq_apply_iff`), and order that of the keys, with null before
      everything else (`lt_apply_iff`, `le_apply_iff`).
    * **What is asserted**: of two elements of a linear order a comparison holds
      if what its symbol says of them is true (`holds_iff_asserts`).

    **Coherence** (`comparisons_coherent`) says both of comparison nodes.
-/

namespace DynExpr

/-! ### One pair -/

namespace Comparison

/-- The laws that relate the six comparisons of one pair, where `holds` says which of them
    are true. -/
structure Coherent (holds : Comparison → Bool) (l r : Value) : Prop where
  /-- The two are not both equal and different. -/
  not_eq_and_ne : ¬ (holds .eq ∧ holds .ne)
  /-- They are neither only if they are of different kinds and not null. -/
  neither_iff : ¬ holds .eq ∧ ¬ holds .ne ↔ l.Apart r
  /-- Then no other comparison is true either. -/
  none_of_apart : l.Apart r → ∀ c, ¬ holds c
  /-- At most one of below, equal and above. -/
  at_most_one : [lt, eq, gt].countP holds ≤ 1
  /-- Exactly one of them for operands of one kind or with null, unless one of two floats is
      NaN. -/
  exactly_one : l.kind = r.kind ∨ l.isNull ∨ r.isNull → ¬ l.OneNaN r →
    [lt, eq, gt].countP holds = 1
  /-- None of them if one of two floats is NaN. -/
  none_of_oneNaN : l.OneNaN r → [lt, eq, gt].countP holds = 0
  /-- At most is below or equal, except for two NaN. -/
  le_eq : ¬ (l.isNaN ∧ r.isNaN) → holds .le = (holds .lt || holds .eq)
  /-- At least is above or equal, except for two NaN. -/
  ge_eq : ¬ (l.isNaN ∧ r.isNaN) → holds .ge = (holds .gt || holds .eq)
  /-- Two NaN are equal, but neither is at most or at least the other. -/
  of_bothNaN : l.isNaN ∧ r.isNaN → holds .eq ∧ ¬ holds .le ∧ ¬ holds .ge

/-- The laws, read off the standing. -/
theorem ofStanding_laws (s : Standing) :
    ¬ (eq.ofStanding s ∧ ne.ofStanding s) ∧
      (¬ eq.ofStanding s ∧ ¬ ne.ofStanding s ↔ s = .apart) ∧
      [lt, eq, gt].countP (fun c => c.ofStanding s) =
        (if s = .apart ∨ s = .oneNaN then 0 else 1) ∧
      (s ≠ .bothNaN → le.ofStanding s = (lt.ofStanding s || eq.ofStanding s) ∧
        ge.ofStanding s = (gt.ofStanding s || eq.ofStanding s)) ∧
      (s = .bothNaN → eq.ofStanding s ∧ ¬ le.ofStanding s ∧ ¬ ge.ofStanding s) := by
  revert s
  decide

/-- Applied to any two values, the comparisons obey the laws. -/
theorem apply_coherent (l r : Value) : Coherent (fun c => c.apply l r) l r := by
  -- The exceptions in `Coherent` are conditions on the values; here they become standings.
  have happart := Value.standing_eq_apart_iff l r
  have hone := Value.standing_eq_oneNaN_iff l r
  have hboth := Value.standing_eq_bothNaN_iff l r
  obtain ⟨hnot, hneither, hcount, hweak, hnan⟩ := ofStanding_laws (l.standing r)
  simp only [← apply_eq_ofStanding] at hnot hneither hcount hweak hnan
  rw [hboth] at hnan
  exact {
    not_eq_and_ne := hnot
    neither_iff := hneither.trans happart
    none_of_apart := by
      intro h c
      show ¬ c.apply l r = true
      rw [apply_of_apart c h]
      exact Bool.false_ne_true
    at_most_one := by
      rw [hcount]
      split_ifs <;> decide
    exactly_one := by
      intro hcomparable hnone
      have hnotApart : ¬ l.Apart r := by
        rintro ⟨hkind, hl, hr⟩
        rcases hcomparable with h | h | h
        · exact hkind h
        · exact hl h
        · exact hr h
      rw [hcount, if_neg (not_or_intro (mt happart.1 hnotApart) (mt hone.1 hnone))]
    none_of_oneNaN := by
      intro h
      rw [hcount, if_pos (Or.inr (hone.2 h))]
    le_eq := fun h => (hweak (mt hboth.1 h)).1
    ge_eq := fun h => (hweak (mt hboth.1 h)).2
    of_bothNaN := hnan }

/-! ### Several pairs -/

/-- Values are equal if sort and key are. -/
theorem eq_apply_iff (a b : Value) : eq.apply a b ↔ a.sort = b.sort ∧ a.key = b.key := by
  rw [apply_eq_ofStanding]
  unfold Value.standing
  split_ifs with hsort hnan hl hr hkind
  · have hnan' : b.isNaN := (Value.isNaN_iff_of_sort_eq hsort).1 hnan
    have hkeys : a.key = b.key := by rw [Value.key_of_isNaN hnan, Value.key_of_isNaN hnan']
    exact iff_of_true rfl ⟨hsort, hkeys⟩
  · show (compare a.key b.key == .eq) = true ↔ _
    rw [beq_iff_eq, Std.LawfulEqOrd.compare_eq_iff_eq]
    exact (and_iff_right hsort).symm
  all_goals exact iff_of_false nofun fun h => hsort h.1

/-- A value is below another one of its sort if its key is, and null is below the rest. -/
theorem lt_apply_iff (a b : Value) :
    lt.apply a b ↔ a.isNull ∧ ¬ b.isNull ∨ a.sort = b.sort ∧ compare a.key b.key = .lt := by
  have hnull (h : a.isNull ∧ ¬ b.isNull) : a.sort ≠ b.sort :=
    fun hsort => h.2 (Value.isNull_of_sort_eq hsort h.1)
  rw [apply_eq_ofStanding]
  unfold Value.standing
  split_ifs with hsort hnan hl hr hkind
  · have hnan' : b.isNaN := (Value.isNaN_iff_of_sort_eq hsort).1 hnan
    refine iff_of_false nofun ?_
    rintro (h | ⟨-, h⟩)
    · exact hnull h hsort
    · rw [Value.key_of_isNaN hnan, Value.key_of_isNaN hnan'] at h
      cases h
  · show (compare a.key b.key == .lt) = true ↔ _
    rw [beq_iff_eq, or_iff_right fun h => hnull h hsort, and_iff_right hsort]
  · have hr : ¬ b.isNull := fun hr => hsort (by rw [Value.eq_null hl, Value.eq_null hr])
    exact iff_of_true rfl (Or.inl ⟨hl, hr⟩)
  all_goals
    refine iff_of_false nofun ?_
    rintro (h | h)
    · exact hl h.1
    · exact hsort h.1

/-- A value is at most another one of its sort, other than NaN, if its key is, and null is at
    most everything. -/
theorem le_apply_iff (a b : Value) :
    le.apply a b ↔ a.isNull ∨ a.sort = b.sort ∧ ¬ a.isNaN ∧ (compare a.key b.key).isLE := by
  rw [apply_eq_ofStanding]
  unfold Value.standing
  split_ifs with hsort hnan hl hr hkind
  · -- Two NaN are of one sort, but neither is at most the other.
    have hl : ¬ a.isNull := fun hl => nomatch (Value.kind_of_isNull hl).symm.trans
      (Value.kind_of_isNaN hnan)
    refine iff_of_false nofun ?_
    rintro (h | h)
    · exact hl h
    · exact h.2.1 hnan
  · show (compare a.key b.key != .gt) = true ↔ _
    rw [bne_iff_ne, Ne, Ordering.ne_gt_iff_isLE, and_iff_right hsort, and_iff_right hnan]
    refine (or_iff_right_of_imp fun hl => ?_).symm
    have hr : b.isNull := Value.isNull_of_sort_eq hsort hl
    rw [Value.eq_null hl, Value.eq_null hr]
    rfl
  · exact iff_of_true rfl (Or.inl hl)
  all_goals
    refine iff_of_false nofun ?_
    rintro (h | h)
    · exact hl h
    · exact hsort h.1

theorem eq_apply_equivalence : Equivalence fun a b => eq.apply a b where
  refl a := (eq_apply_iff a a).2 ⟨rfl, rfl⟩
  symm {a b} hab := by
    rw [eq_apply_iff] at hab ⊢
    exact ⟨hab.1.symm, hab.2.symm⟩
  trans {a b c} hab hbc := by
    rw [eq_apply_iff] at hab hbc ⊢
    exact ⟨hab.1.trans hbc.1, hab.2.trans hbc.2⟩

theorem lt_apply_irrefl (a : Value) : ¬ lt.apply a a := by
  rw [lt_apply_iff]
  rintro (h | ⟨-, h⟩)
  · exact h.2 h.1
  · have hself : compare a.key a.key = .eq := Std.ReflCmp.compare_self
    rw [hself] at h
    cases h

theorem lt_apply_trans {a b c : Value} (hab : lt.apply a b) (hbc : lt.apply b c) :
    lt.apply a c := by
  rw [lt_apply_iff] at hab hbc ⊢
  rcases hab with ⟨ha, hb⟩ | ⟨hab, hkab⟩
  · -- Null comes first, and what is above a value other than null is not null either.
    rcases hbc with ⟨hb', -⟩ | ⟨hbc, -⟩
    · exact absurd hb' hb
    · exact Or.inl ⟨ha, fun hc => hb (Value.isNull_of_sort_eq hbc.symm hc)⟩
  · rcases hbc with ⟨hb, hc⟩ | ⟨hbc, hkbc⟩
    · exact Or.inl ⟨Value.isNull_of_sort_eq hab.symm hb, hc⟩
    · exact Or.inr ⟨hab.trans hbc, Std.TransCmp.lt_trans hkab hkbc⟩

theorem le_apply_trans {a b c : Value} (hab : le.apply a b) (hbc : le.apply b c) :
    le.apply a c := by
  rw [le_apply_iff] at hab hbc ⊢
  rcases hab with ha | ⟨hab, hnan, hkab⟩
  · exact Or.inl ha
  · rcases hbc with hb | ⟨hbc, -, hkbc⟩
    · exact Or.inl (Value.isNull_of_sort_eq hab.symm hb)
    · exact Or.inr ⟨hab.trans hbc, hnan, Std.TransCmp.isLE_trans hkab hkbc⟩

/-! ### What is asserted -/

section

variable {α : Type*} [LinearOrder α]

/-- What a comparison asserts of two elements of a linear order. -/
def Asserts (a b : α) : Comparison → Prop
  | eq => a = b
  | ne => a ≠ b
  | lt => a < b
  | le => a ≤ b
  | gt => b < a
  | ge => b ≤ a

variable {a b : α} {o : Ordering}

/-- A comparison holds of two elements, in the order in which they stand, if what it asserts of
    them is true. -/
theorem holds_iff_asserts (hlt : o = .lt ↔ a < b) (heq : o = .eq ↔ a = b) (c : Comparison) :
    c.holds o ↔ c.Asserts a b := by
  have hgt : o = .gt ↔ b < a := by
    cases o with
    | lt => exact iff_of_false nofun (lt_asymm (hlt.1 rfl))
    | eq => exact iff_of_false nofun (heq.1 rfl).not_gt
    | gt =>
      have hnotLt : ¬ a < b := mt hlt.2 nofun
      have hne : a ≠ b := mt heq.2 nofun
      exact iff_of_true rfl (lt_of_le_of_ne (not_lt.1 hnotLt) hne.symm)
  have hle : o ≠ .gt ↔ a ≤ b := hgt.not.trans not_lt
  have hge : o ≠ .lt ↔ b ≤ a := hlt.not.trans not_lt
  cases c with
  | eq => exact beq_iff_eq.trans heq
  | ne => exact bne_iff_ne.trans heq.not
  | lt => exact beq_iff_eq.trans hlt
  | le => exact bne_iff_ne.trans hle
  | gt => exact beq_iff_eq.trans hgt
  | ge => exact bne_iff_ne.trans hge

theorem holds_compare_iff (c : Comparison) (a b : α) : c.holds (compare a b) ↔ c.Asserts a b :=
  holds_iff_asserts compare_lt_iff_lt compare_eq_iff_eq c

end

/-- Equal elements are also at most and at least each other. -/
theorem holds_eq_iff (c : Comparison) : c.holds .eq ↔ c = .eq ∨ c = .le ∨ c = .ge := by
  cases c <;> decide

/-! ### Comparison nodes -/

/-- Is the comparison true of the operands as the policy leaves them? -/
def holdsUnder (c : Comparison) (policy : Coercion) (a b : Value) : Bool :=
  c.apply (policy.operands a b).1 (policy.operands a b).2

theorem holdsUnder_strict (c : Comparison) (a b : Value) :
    c.holdsUnder .strict a b = c.apply a b := by
  have hoperands : Coercion.operands .strict a b = (a, b) := by
    unfold Coercion.operands Coercion.coerce?
    rw [ite_self]
    rfl
  rw [holdsUnder, hoperands]

/-- The value of a comparison node with constant operands. -/
theorem run_node (c : Comparison) (policy : Coercion) (a b : Value) (params : Params)
    (s : EvalState) :
    ((Expr.binary (.comparison c) policy (.constant a) (.constant b)).run params s).1 =
      .ok (.bool (c.holdsUnder policy a b)) :=
  Coercion.run_constants (.comparison c) policy a b params s

/-- Which nodes answer with true. -/
theorem ok_bool_eq_true_iff (b : Bool) :
    (Except.ok (.bool b) : Except EvalError Value) = .ok (.bool true) ↔ b := by
  rw [Except.ok.injEq, Value.bool.injEq]

/-- **Coherence**: under every policy, the six comparison nodes over two values obey the laws of
    `Coherent`, with the operands as the policy leaves them. Without coercion, equality is an
    equivalence, being below is irreflexive and transitive, being at most is transitive, and null
    is below all other values. -/
theorem comparisons_coherent :
    (∀ policy a b,
      (∀ c params s,
        ((Expr.binary (.comparison c) policy (.constant a) (.constant b)).run params s).1 =
          .ok (.bool (c.holdsUnder policy a b))) ∧
      Coherent (fun c => c.holdsUnder policy a b) (policy.operands a b).1
        (policy.operands a b).2) ∧
    Equivalence (fun a b => eq.holdsUnder .strict a b) ∧
    (∀ a, ¬ lt.holdsUnder .strict a a) ∧
    (∀ a b c, lt.holdsUnder .strict a b → lt.holdsUnder .strict b c →
      lt.holdsUnder .strict a c) ∧
    (∀ a b c, le.holdsUnder .strict a b → le.holdsUnder .strict b c →
      le.holdsUnder .strict a c) ∧
    ∀ a, ¬ a.isNull → lt.holdsUnder .strict .null a := by
  simp only [holdsUnder_strict]
  refine ⟨?_, eq_apply_equivalence, lt_apply_irrefl, ?_, ?_, ?_⟩
  · intro policy a b
    exact ⟨fun c params s => run_node c policy a b params s, apply_coherent _ _⟩
  · intro a b c hab hbc
    exact lt_apply_trans hab hbc
  · intro a b c hab hbc
    exact le_apply_trans hab hbc
  · intro a ha
    exact (lt_apply_iff .null a).2 (Or.inl ⟨rfl, ha⟩)

end Comparison

end DynExpr
