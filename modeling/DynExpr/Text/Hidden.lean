import DynExpr.Text.Hidden.Combining
import DynExpr.Text.Hidden.Unassigned
import DynExpr.Text.Hidden.Unprinted

/-! # Characters that do not show by themselves

    Some characters cannot be seen or told apart when they are printed: they
    have no shape, or combine with the character before them, or are no
    characters at all. Each of the three kinds is a table of closed ranges in
    ascending order.

    * **`inRanges_iff`**: the search in such a table finds the numbers that
      lie in one of its ranges.
    * **`unprintedRanges_ascending`** and its two companions: the tables are
      in order.
-/

namespace DynExpr.Text

/-- Does a number lie in one of the ranges? They ascend, so that the search can stop at the
    first range that starts beyond the number. -/
def inRanges : List (Nat × Nat) → Nat → Bool
  | [], _                    => false
  | (first, last) :: rest, n => first ≤ n && (n ≤ last || inRanges rest n)

/-- Does a character not show by itself? -/
def isHidden (c : Char) : Bool :=
  inRanges unprintedRanges c.toNat || inRanges combiningRanges c.toNat ||
    inRanges unassignedRanges c.toNat

/-! ### The search in a table -/

/-- Does each range start where the one before it starts, or later? -/
def ascending : List (Nat × Nat) → Bool
  | r :: s :: rest => r.1 ≤ s.1 && ascending (s :: rest)
  | _              => true

theorem unprintedRanges_ascending : ascending unprintedRanges := by decide +kernel

theorem combiningRanges_ascending : ascending combiningRanges := by decide +kernel

theorem unassignedRanges_ascending : ascending unassignedRanges := by decide +kernel

/-- No later range starts before the first one. -/
theorem le_of_ascending {r s : Nat × Nat} {rest : List (Nat × Nat)}
    (h : ascending (r :: rest)) (mem : s ∈ rest) : r.1 ≤ s.1 := by
  induction rest generalizing r with
  | nil => cases mem
  | cons t rest ih =>
    obtain ⟨first, later⟩ : r.1 ≤ t.1 ∧ ascending (t :: rest) := by simpa [ascending] using h
    rcases List.mem_cons.mp mem with rfl | mem
    · exact first
    · exact Nat.le_trans first (ih later mem)

/-- In ascending ranges the search finds the numbers that lie in one of them. -/
theorem inRanges_iff {ranges : List (Nat × Nat)} (h : ascending ranges) (n : Nat) :
    inRanges ranges n ↔ ∃ r ∈ ranges, r.1 ≤ n ∧ n ≤ r.2 := by
  induction ranges with
  | nil => simp [inRanges]
  | cons r rest ih =>
    have later : ascending rest := by
      cases rest with
      | nil => rfl
      | cons s rest => exact (Bool.and_eq_true_iff.mp h).2
    rw [inRanges, Bool.and_eq_true, Bool.or_eq_true, decide_eq_true_eq, decide_eq_true_eq, ih later]
    constructor
    · rintro ⟨start, last | ⟨s, mem, bounds⟩⟩
      · exact ⟨r, List.mem_cons_self, start, last⟩
      · exact ⟨s, List.mem_cons_of_mem r mem, bounds⟩
    · rintro ⟨s, mem, start, last⟩
      rcases List.mem_cons.mp mem with rfl | mem
      · exact ⟨start, .inl last⟩
      · exact ⟨Nat.le_trans (le_of_ascending h mem) start, .inr ⟨s, mem, start, last⟩⟩

end DynExpr.Text
