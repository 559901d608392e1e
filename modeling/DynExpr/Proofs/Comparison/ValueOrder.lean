import DynExpr.Proofs.Comparison.Standing

/-! # Equality and order of values by their keys

    The equality and the order that values have of their own are those of
    their keys, within a sort:

    * **Texts**: different texts have different bytes, so a text is told from
      its key (`Text.key_injective`).
    * **Equality**: values are equal if sort and key are (`Value.beq_iff`).
    * **Order**: values of different sorts have no order
      (`Value.compare?_of_sort_ne`), and values of one sort that of their
      keys.
-/

namespace DynExpr

namespace Text

theorem bytes_injective : Function.Injective bytes := by
  intro s t h
  -- The bytes are what a text is stored as.
  have hencoded : s.toList.utf8Encode = t.toList.utf8Encode := congrArg List.toByteArray h
  rw [String.utf8Encode_toList, String.utf8Encode_toList] at hencoded
  exact String.toByteArray_inj.1 hencoded

theorem key_injective : Function.Injective key := by
  have hbyte : Function.Injective fun b : UInt8 => (b.toNat : Int) :=
    fun _ _ h => UInt8.toNat_inj.1 (Int.ofNat_inj.1 h)
  exact (List.map_injective_iff.2 hbyte).comp bytes_injective

end Text

namespace Value

theorem beq_of_kind_ne {a b : Value} (h : a.kind ≠ b.kind) : (a == b) = false := by
  cases a <;> cases b <;>
    first
    | rfl
    | exact absurd rfl h

theorem compare?_of_kind_ne {a b : Value} (h : a.kind ≠ b.kind) : compare? a b = none := by
  cases a <;> cases b <;>
    first
    | rfl
    | exact absurd rfl h

/-- Floats are equal if both are NaN, or neither is and their levels are the same. -/
theorem beq_float_iff (x y : Float) :
    float x == float y ↔ (float x).sort = (float y).sort ∧ (float x).key = (float y).key := by
  have hsort : (float x).sort = (float y).sort ↔ x.isNaN = y.isNaN := by
    simp [sort, kind, isNaN]
  show Binary64.equal x y = true ↔ _
  rw [hsort, key, key]
  by_cases hx : x.isNaN
  · rw [Binary64.equal_iff_of_isNaN (Or.inl hx), if_pos hx, hx]
    constructor
    · intro hboth
      exact ⟨hboth.2.symm, (if_pos hboth.2).symm⟩
    · intro hsame
      exact ⟨rfl, hsame.1.symm⟩
  · by_cases hy : y.isNaN
    · rw [Binary64.equal_iff_of_isNaN (Or.inr hy)]
      exact iff_of_false (fun hboth => hx hboth.1) fun hsame => hx (hsame.1.trans hy)
    · rw [Binary64.equal_iff_level hx hy, if_neg hx, if_neg hy, List.singleton_inj]
      rw [Bool.not_eq_true] at hx hy
      exact (and_iff_right (hx.trans hy.symm)).symm

/-- **Equality**: values are equal if their sorts and keys are. -/
theorem beq_iff (a b : Value) : a == b ↔ a.sort = b.sort ∧ a.key = b.key := by
  by_cases h : a.kind = b.kind
  · cases a with
    | null =>
      cases b with
      | null => exact iff_of_true rfl ⟨rfl, rfl⟩
      | bool | uint | int | float | str | timestamp => cases h
    | bool x =>
      cases b with
      | bool y => cases x <;> cases y <;> decide
      | null | uint | int | float | str | timestamp => cases h
    | uint n =>
      cases b with
      | uint m =>
        show (n == m) = true ↔ _
        simp [sort, kind, isNaN, key, ← UInt64.toNat_inj]
      | null | bool | int | float | str | timestamp => cases h
    | int n =>
      cases b with
      | int m =>
        show (n == m) = true ↔ _
        simp [sort, kind, isNaN, key, ← Int64.toInt_inj]
      | null | bool | uint | float | str | timestamp => cases h
    | float x =>
      cases b with
      | float y => exact beq_float_iff x y
      | null | bool | uint | int | str | timestamp => cases h
    | str s =>
      cases b with
      | str t =>
        show (s == t) = true ↔ _
        rw [beq_iff_eq, ← Text.key_injective.eq_iff]
        exact (and_iff_right rfl).symm
      | null | bool | uint | int | float | timestamp => cases h
    | timestamp t =>
      cases b with
      | timestamp u =>
        show decide (t = u) = true ↔ _
        cases t
        cases u
        simp [sort, kind, isNaN, key]
      | null | bool | uint | int | float | str => cases h
  · rw [beq_of_kind_ne h]
    exact iff_of_false Bool.false_ne_true fun hsame => h (congrArg Prod.fst hsame.1)

/-- Values of different sorts have no order. -/
theorem compare?_of_sort_ne {a b : Value} (h : a.sort ≠ b.sort) : compare? a b = none := by
  by_cases hkind : a.kind = b.kind
  · -- Of one kind and two sorts: one of two floats is NaN.
    obtain ⟨ha, hb, hnan⟩ := oneNaN_of_sort_ne hkind h
    obtain ⟨x, rfl⟩ := exists_float ha
    obtain ⟨y, rfl⟩ := exists_float hb
    have hone : x.isNaN ∨ y.isNaN := isNaN_or_isNaN hnan
    have hnotEqual : ¬ Binary64.equal x y := by
      rw [Binary64.equal_iff_of_isNaN hone]
      exact fun hboth => hnan (hboth.1.trans hboth.2.symm)
    show Binary64.compare? x y = none
    rw [Binary64.compare?, if_neg hnotEqual, if_neg (Binary64.not_lt_of_isNaN hone),
      if_neg (Binary64.not_lt_of_isNaN hone.symm)]
  · exact compare?_of_kind_ne hkind

/-- **Order**: values are in an order if they are of one sort and their keys are in that order. -/
theorem compare?_eq_some_iff {a b : Value} {o : Ordering} :
    compare? a b = some o ↔ a.sort = b.sort ∧ compare a.key b.key = o := by
  by_cases h : a.sort = b.sort
  · rw [compare?_of_sort_eq h, Option.some.injEq]
    exact (and_iff_right h).symm
  · rw [compare?_of_sort_ne h]
    exact iff_of_false nofun fun hsame => h hsame.1

/-- Equality is the order of equals. -/
theorem beq_iff_compare? (a b : Value) : a == b ↔ compare? a b = some .eq := by
  rw [beq_iff, compare?_eq_some_iff, Std.LawfulEqOrd.compare_eq_iff_eq]

theorem compare?_eq_gt_iff {a b : Value} : compare? a b = some .gt ↔ compare? b a = some .lt := by
  rw [compare?_eq_some_iff, compare?_eq_some_iff, Std.OrientedCmp.gt_iff_lt]
  exact and_congr_left fun _ => eq_comm

theorem compare?_eq_eq_comm {a b : Value} : compare? a b = some .eq ↔ compare? b a = some .eq := by
  rw [← beq_iff_compare?, ← beq_iff_compare?, beq_iff, beq_iff]
  exact and_congr eq_comm eq_comm

end Value

end DynExpr
