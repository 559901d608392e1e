import DynExpr.Operator.Apply
import DynExpr.Proofs.Binary64.Place

/-! # How two values stand to each other

    All comparisons of values come down to one order on rows of integers:

    * **Keys**: values can be compared if they are of one `sort`, which is the
      kind, and for floats also whether it is NaN. Then they compare as their
      keys (`Value.compare?_of_sort_eq`).
    * **Standing**: `Value.standing` says how the operators take two values:
      in some order, with null before everything else; as two NaN; as one NaN
      and a number; or as of different kinds.
    * **Operators**: every comparison can be read off the standing
      (`Comparison.apply_eq_ofStanding`).
-/

namespace DynExpr

/-- The order of naturals is that of integers. -/
theorem compare_natCast (n m : Nat) : compare (n : Int) (m : Int) = compare n m := by
  rcases Nat.lt_trichotomy n m with h | h | h
  · rw [compare_lt_iff_lt.2 h, compare_lt_iff_lt.2 (Int.ofNat_lt.2 h)]
  · rw [h, compare_eq_iff_eq.2 rfl, compare_eq_iff_eq.2 rfl]
  · rw [compare_gt_iff_gt.2 h, compare_gt_iff_gt.2 (Int.ofNat_lt.2 h)]

/-! ### Keys -/

namespace Text

/-- Rows of things that are in the same order are in the same order. -/
theorem compare_map {α β : Type*} [Ord α] [Ord β] {f : α → β}
    (hf : ∀ a b, Ord.compare (f a) (f b) = Ord.compare a b) (as bs : List α) :
    Ord.compare (as.map f) (bs.map f) = Ord.compare as bs := by
  induction as generalizing bs with
  | nil => cases bs <;> rfl
  | cons a as ih =>
    cases bs with
    | nil => rfl
    | cons b bs =>
      rw [List.map_cons, List.map_cons, List.compare_cons_cons, List.compare_cons_cons, hf, ih]

/-- A text as a row of integers, by its bytes. -/
def key (s : String) : List Int := (bytes s).map fun b => (b.toNat : Int)

theorem compareBytes_eq (as bs : List UInt8) :
    compareBytes as bs = Ord.compare (as.map UInt8.toNat) (bs.map UInt8.toNat) := by
  induction as generalizing bs with
  | nil => cases bs <;> rfl
  | cons a as ih =>
    cases bs with
    | nil => rfl
    | cons b bs => rw [compareBytes, ih, List.map_cons, List.map_cons, List.compare_cons_cons]

theorem compare_eq_key (s t : String) : compare s t = Ord.compare (key s) (key t) := by
  have hkey (s : String) : key s = ((bytes s).map UInt8.toNat).map Nat.cast := by
    rw [List.map_map]
    rfl
  rw [hkey, hkey, compare_map compare_natCast]
  exact compareBytes_eq (bytes s) (bytes t)

end Text

namespace Value

/-- Is it the float NaN? -/
def isNaN : Value → Bool
  | float x => x.isNaN
  | _       => false

/-- What two values must have in common in order to be compared: the kind, and for floats
    whether they are NaN. -/
def sort (v : Value) : Kind × Bool := (v.kind, v.isNaN)

/-- A value as a row of integers, in the order of its sort. -/
def key : Value → List Int
  | null        => []
  | bool b      => [if b then 1 else 0]
  | uint n      => [n.toNat]
  | int n       => [n.toInt]
  | float x     => if x.isNaN then [] else [Binary64.level x]
  | str s       => Text.key s
  | timestamp t => [t.seconds, t.nanos]

theorem exists_float {v : Value} (h : v.kind = .float) : ∃ x, v = float x := by
  cases v with
  | float x => exact ⟨x, rfl⟩
  | null | bool | uint | int | str | timestamp => cases h

theorem kind_of_isNaN {v : Value} (h : v.isNaN) : v.kind = .float := by
  cases v with
  | float x => rfl
  | null | bool | uint | int | str | timestamp => cases h

theorem eq_null {v : Value} (h : v.isNull) : v = null := by
  cases v with
  | null => rfl
  | bool | uint | int | float | str | timestamp => cases h

theorem kind_of_isNull {v : Value} (h : v.isNull) : v.kind = .null := by
  rw [eq_null h]
  rfl

theorem isNull_of_sort_eq {l r : Value} (h : l.sort = r.sort) (hl : l.isNull) : r.isNull := by
  have hkind : r.kind = .null := (congrArg Prod.fst h).symm.trans (kind_of_isNull hl)
  cases r with
  | null => rfl
  | bool | uint | int | float | str | timestamp => cases hkind

theorem key_of_isNaN {v : Value} (h : v.isNaN) : v.key = [] := by
  obtain ⟨x, rfl⟩ := exists_float (kind_of_isNaN h)
  exact if_pos h

theorem isNaN_iff_of_sort_eq {a b : Value} (h : a.sort = b.sort) : a.isNaN ↔ b.isNaN := by
  have hnan : a.isNaN = b.isNaN := congrArg Prod.snd h
  rw [hnan]

/-- Values of one sort compare as their keys. -/
theorem compare?_of_sort_eq {a b : Value} (h : a.sort = b.sort) :
    compare? a b = some (compare a.key b.key) := by
  cases a with
  | null =>
    cases b with
    | null => rfl
    | bool | uint | int | float | str | timestamp => cases h
  | bool x =>
    cases b with
    | bool y => cases x <;> cases y <;> rfl
    | null | uint | int | float | str | timestamp => cases h
  | uint n =>
    cases b with
    | uint m =>
      rw [compare?, key, key, List.compare_cons_cons, compare_natCast]
      exact congrArg some Ordering.then_eq.symm
    | null | bool | int | float | str | timestamp => cases h
  | int n =>
    cases b with
    | int m =>
      rw [compare?, key, key, List.compare_cons_cons]
      exact congrArg some Ordering.then_eq.symm
    | null | bool | uint | float | str | timestamp => cases h
  | float x =>
    cases b with
    | float y =>
      have hnan : x.isNaN ↔ y.isNaN := isNaN_iff_of_sort_eq h
      show Binary64.compare? x y = _
      by_cases hx : x.isNaN
      · have hy := hnan.1 hx
        have hequal : Binary64.equal x y := (Binary64.equal_iff_of_isNaN (Or.inl hx)).2 ⟨hx, hy⟩
        rw [key, key, if_pos hx, if_pos hy, Binary64.compare?, if_pos hequal]
        rfl
      · have hy := mt hnan.2 hx
        rw [Binary64.compare?_of_not_isNaN hx hy, key, key, if_neg hx, if_neg hy,
          List.compare_cons_cons]
        exact congrArg some Ordering.then_eq.symm
    | null | bool | uint | int | str | timestamp => cases h
  | str s =>
    cases b with
    | str t => exact congrArg some (Text.compare_eq_key s t)
    | null | bool | uint | int | float | timestamp => cases h
  | timestamp t =>
    cases b with
    | timestamp u =>
      rw [compare?, Instant.compare, key, key, List.compare_cons_cons, List.compare_cons_cons,
        compare_natCast]
      exact congrArg (fun o => some (Ordering.then _ o)) Ordering.then_eq.symm
    | null | bool | uint | int | float | str => cases h

end Value

/-! ### Standing -/

/-- How an operator takes two operands. -/
inductive Standing where
  /-- In an order. -/
  | ordered (o : Ordering)
  /-- Both as NaN. -/
  | bothNaN
  /-- As NaN and another float. -/
  | oneNaN
  /-- As values of different kinds, neither of them null. -/
  | apart
deriving DecidableEq, Fintype

/-- Does a comparison hold of two operands that stand in the given way? Two NaN are equal, but
    not ordered. -/
def Comparison.ofStanding (c : Comparison) : Standing → Bool
  | .ordered o => c.holds o
  | .bothNaN   => c == .eq
  | .oneNaN    => c == .ne
  | .apart     => false

namespace Value

/-- How two values stand to each other. Null stands before everything else. -/
def standing (l r : Value) : Standing :=
  if l.sort = r.sort then (if l.isNaN then .bothNaN else .ordered (compare l.key r.key))
  else if l.isNull then .ordered .lt
  else if r.isNull then .ordered .gt
  else if l.kind = r.kind then .oneNaN
  else .apart

/-- The two are of different kinds, and neither is null. -/
def Apart (l r : Value) : Prop := l.kind ≠ r.kind ∧ ¬ l.isNull ∧ ¬ r.isNull

/-- The two are floats, and exactly one of them is NaN. -/
def OneNaN (l r : Value) : Prop := l.kind = .float ∧ r.kind = .float ∧ l.isNaN ≠ r.isNaN

variable {l r : Value}

theorem isNaN_or_isNaN (h : l.isNaN ≠ r.isNaN) : l.isNaN ∨ r.isNaN := by
  by_cases hl : l.isNaN
  · exact Or.inl hl
  · rw [Bool.not_eq_true] at hl
    rw [hl] at h
    exact Or.inr (Bool.eq_true_of_not_eq_false h.symm)

theorem oneNaN_of_sort_ne (hkind : l.kind = r.kind) (hsort : l.sort ≠ r.sort) : l.OneNaN r := by
  have hnan : l.isNaN ≠ r.isNaN := fun hnan => hsort (Prod.ext hkind hnan)
  rcases isNaN_or_isNaN hnan with hl | hr
  · exact ⟨kind_of_isNaN hl, hkind.symm.trans (kind_of_isNaN hl), hnan⟩
  · exact ⟨hkind.trans (kind_of_isNaN hr), kind_of_isNaN hr, hnan⟩

/-! Each of the other standings has one cause. -/

theorem standing_eq_apart_iff (l r : Value) : l.standing r = .apart ↔ l.Apart r := by
  unfold standing
  split_ifs with hsort hnan hl hr hkind
  · exact iff_of_false nofun fun h => h.1 (congrArg Prod.fst hsort)
  · exact iff_of_false nofun fun h => h.1 (congrArg Prod.fst hsort)
  · exact iff_of_false nofun fun h => h.2.1 hl
  · exact iff_of_false nofun fun h => h.2.2 hr
  · exact iff_of_false nofun fun h => h.1 hkind
  · exact iff_of_true rfl ⟨hkind, hl, hr⟩

theorem standing_eq_oneNaN_iff (l r : Value) : l.standing r = .oneNaN ↔ l.OneNaN r := by
  unfold standing
  split_ifs with hsort hnan hl hr hkind
  · exact iff_of_false nofun fun h => h.2.2 (congrArg Prod.snd hsort)
  · exact iff_of_false nofun fun h => h.2.2 (congrArg Prod.snd hsort)
  · exact iff_of_false nofun fun h => nomatch (kind_of_isNull hl).symm.trans h.1
  · exact iff_of_false nofun fun h => nomatch (kind_of_isNull hr).symm.trans h.2.1
  · exact iff_of_true rfl (oneNaN_of_sort_ne hkind hsort)
  · exact iff_of_false nofun fun h => hkind (h.1.trans h.2.1.symm)

theorem standing_eq_bothNaN_iff (l r : Value) :
    l.standing r = .bothNaN ↔ l.isNaN ∧ r.isNaN := by
  have hsort_of_isNaN (h : l.isNaN ∧ r.isNaN) : l.sort = r.sort :=
    Prod.ext ((kind_of_isNaN h.1).trans (kind_of_isNaN h.2).symm) (h.1.trans h.2.symm)
  unfold standing
  split_ifs with hsort hnan hl hr hkind
  · exact iff_of_true rfl ⟨hnan, (isNaN_iff_of_sort_eq hsort).1 hnan⟩
  · exact iff_of_false nofun fun h => hnan h.1
  all_goals exact iff_of_false nofun fun h => hsort (hsort_of_isNaN h)

end Value

namespace Comparison

theorem ofFloats_of_not_isNaN (c : Comparison) {x y : Float} (hx : ¬ x.isNaN) (hy : ¬ y.isNaN) :
    c.ofFloats x y = c.holds (compare (Binary64.level x) (Binary64.level y)) := by
  have heq : Binary64.equal x y = (compare (Binary64.level x) (Binary64.level y) == .eq) := by
    rw [Bool.eq_iff_iff, Binary64.equal_iff_level hx hy, beq_iff_eq, compare_eq_iff_eq]
  rw [Bool.eq_iff_iff]
  cases c with
  | eq => exact Bool.eq_iff_iff.1 heq
  | ne => exact Bool.eq_iff_iff.1 (congrArg not heq)
  | lt =>
    show decide (x < y) = true ↔ (_ == _) = true
    rw [decide_eq_true_eq, Binary64.lt_iff_level hx hy, beq_iff_eq, compare_lt_iff_lt]
  | le =>
    show decide (x ≤ y) = true ↔ (_ != _) = true
    rw [decide_eq_true_eq, Binary64.le_iff_level hx hy, bne_iff_ne, Ne, compare_gt_iff_gt]
    exact Int.not_lt.symm
  | gt =>
    show decide (y < x) = true ↔ (_ == _) = true
    rw [decide_eq_true_eq, Binary64.lt_iff_level hy hx, beq_iff_eq, compare_gt_iff_gt]
  | ge =>
    show decide (y ≤ x) = true ↔ (_ != _) = true
    rw [decide_eq_true_eq, Binary64.le_iff_level hy hx, bne_iff_ne, Ne, compare_lt_iff_lt]
    exact Int.not_lt.symm

theorem ofFloats_of_isNaN (c : Comparison) {x y : Float} (h : x.isNaN ∨ y.isNaN) :
    c.ofFloats x y = if x.isNaN ∧ y.isNaN then c == .eq else c == .ne := by
  have heq := Binary64.equal_iff_of_isNaN h
  have hlt := Binary64.not_lt_of_isNaN h
  have hle := Binary64.not_le_of_isNaN h
  have hgt := Binary64.not_lt_of_isNaN h.symm
  have hge := Binary64.not_le_of_isNaN h.symm
  by_cases hboth : x.isNaN ∧ y.isNaN
  · rw [if_pos hboth]
    cases c with
    | eq => exact heq.2 hboth
    | ne => exact congrArg not (heq.2 hboth)
    | lt => exact decide_eq_false hlt
    | le => exact decide_eq_false hle
    | gt => exact decide_eq_false hgt
    | ge => exact decide_eq_false hge
  · rw [if_neg hboth]
    have hne : Binary64.equal x y = false := by
      rw [← Bool.not_eq_true]
      exact mt heq.1 hboth
    cases c with
    | eq => exact hne
    | ne => exact congrArg not hne
    | lt => exact decide_eq_false hlt
    | le => exact decide_eq_false hle
    | gt => exact decide_eq_false hgt
    | ge => exact decide_eq_false hge

/-- On operands of one kind other than floats, a comparison asks for the order of the values. -/
theorem apply_eq_any (c : Comparison) {l r : Value} (h : l.kind = r.kind) (hl : l.kind ≠ .float) :
    c.apply l r = (Value.compare? l r).any c.holds := by
  cases l with
  | null =>
    cases r with
    | null => cases c <;> rfl
    | bool | uint | int | float | str | timestamp => cases h
  | bool x =>
    cases r with
    | bool y => rfl
    | null | uint | int | float | str | timestamp => cases h
  | uint n =>
    cases r with
    | uint m => rfl
    | null | bool | int | float | str | timestamp => cases h
  | int n =>
    cases r with
    | int m => rfl
    | null | bool | uint | float | str | timestamp => cases h
  | float x => exact absurd rfl hl
  | str s =>
    cases r with
    | str t => rfl
    | null | bool | uint | int | float | timestamp => cases h
  | timestamp t =>
    cases r with
    | timestamp u => rfl
    | null | bool | uint | int | float | str => cases h

/-- Between values of one sort other than NaN, a comparison is that of their keys. -/
theorem apply_of_sort_eq (c : Comparison) {l r : Value} (h : l.sort = r.sort) (hl : ¬ l.isNaN) :
    c.apply l r = c.holds (compare l.key r.key) := by
  have hkind : l.kind = r.kind := congrArg Prod.fst h
  have horder := Value.compare?_of_sort_eq h
  by_cases hfloat : l.kind = .float
  · -- Floats have comparisons of their own; without NaN these say the same.
    obtain ⟨x, rfl⟩ := Value.exists_float hfloat
    obtain ⟨y, rfl⟩ := Value.exists_float (hkind.symm.trans hfloat)
    have hy : ¬ y.isNaN := mt (Value.isNaN_iff_of_sort_eq h).2 hl
    rw [Value.compare?, Binary64.compare?_of_not_isNaN hl hy, Option.some.injEq] at horder
    rw [← horder]
    exact ofFloats_of_not_isNaN c hl hy
  · rw [apply_eq_any c hkind hfloat, horder]
    rfl

/-- A comparison with null looks only at which side is null. -/
theorem apply_of_isNull (c : Comparison) {l r : Value} (h : l.isNull ∨ r.isNull) :
    c.apply l r = c.ofNulls l.isNull r.isNull := by
  cases l with
  | null => cases r <;> rfl
  | bool | uint | int | float | str | timestamp =>
    cases r with
    | null => rfl
    | bool | uint | int | float | str | timestamp => rcases h with h | h <;> cases h

/-- Operands of different kinds, neither of them null, are in no comparison. -/
theorem apply_of_apart (c : Comparison) {l r : Value} (h : l.Apart r) : c.apply l r = false := by
  have hmismatched : BinaryOp.mismatched l r := by
    simp [BinaryOp.mismatched, h.1, h.2.1, h.2.2]
  exact Value.bool.inj (BinaryOp.apply_of_mismatched (.comparison c) hmismatched)

/-- NaN and another float are different, and nothing else. -/
theorem apply_of_oneNaN (c : Comparison) {l r : Value} (h : l.OneNaN r) :
    c.apply l r = (c == .ne) := by
  have hone : l.isNaN ∨ r.isNaN := Value.isNaN_or_isNaN h.2.2
  have hboth : ¬ (l.isNaN ∧ r.isNaN) := fun hboth => h.2.2 (hboth.1.trans hboth.2.symm)
  obtain ⟨x, rfl⟩ := Value.exists_float h.1
  obtain ⟨y, rfl⟩ := Value.exists_float h.2.1
  exact (ofFloats_of_isNaN c hone).trans (if_neg hboth)

/-- A comparison depends only on how its operands stand to each other. -/
theorem apply_eq_ofStanding (c : Comparison) (l r : Value) :
    c.apply l r = c.ofStanding (l.standing r) := by
  unfold Value.standing
  -- The tests of `standing`, in their order; each answer is the rule of one branch of `apply`.
  by_cases hsort : l.sort = r.sort
  · rw [if_pos hsort]
    by_cases hnan : l.isNaN
    · rw [if_pos hnan]
      have hr := (Value.isNaN_iff_of_sort_eq hsort).1 hnan
      obtain ⟨x, rfl⟩ := Value.exists_float (Value.kind_of_isNaN hnan)
      obtain ⟨y, rfl⟩ := Value.exists_float (Value.kind_of_isNaN hr)
      show c.ofFloats x y = (c == .eq)
      rw [ofFloats_of_isNaN c (Or.inl hnan), if_pos ⟨hnan, hr⟩]
    · rw [if_neg hnan]
      exact apply_of_sort_eq c hsort hnan
  · rw [if_neg hsort]
    by_cases hl : l.isNull
    · have hr : r.isNull = false := by
        rw [← Bool.not_eq_true]
        intro hr
        exact hsort (by rw [Value.eq_null hl, Value.eq_null hr])
      rw [if_pos hl, apply_of_isNull c (Or.inl hl), hl, hr]
      cases c <;> rfl
    · rw [if_neg hl]
      by_cases hr : r.isNull
      · rw [if_pos hr, apply_of_isNull c (Or.inr hr), Bool.eq_false_of_not_eq_true hl, hr]
        cases c <;> rfl
      · rw [if_neg hr]
        by_cases hkind : l.kind = r.kind
        · rw [if_pos hkind]
          exact apply_of_oneNaN c (Value.oneNaN_of_sort_ne hkind hsort)
        · rw [if_neg hkind]
          exact apply_of_apart c ⟨hkind, hl, hr⟩

end Comparison

/-! ### Exchanging the operands -/

/-- The standing of the second operand to the first. -/
def Standing.swap : Standing → Standing
  | ordered o => ordered o.swap
  | s         => s

theorem Value.standing_swap (l r : Value) : r.standing l = (l.standing r).swap := by
  by_cases hsort : l.sort = r.sort
  · by_cases hnan : l.isNaN
    · have hnan' : r.isNaN := (isNaN_iff_of_sort_eq hsort).1 hnan
      rw [standing, standing, if_pos hsort.symm, if_pos hsort, if_pos hnan, if_pos hnan']
      rfl
    · have hnan' : ¬ r.isNaN := mt (isNaN_iff_of_sort_eq hsort).2 hnan
      rw [standing, standing, if_pos hsort.symm, if_pos hsort, if_neg hnan, if_neg hnan',
        Std.OrientedOrd.eq_swap (a := r.key)]
      rfl
  · rw [standing, standing, if_neg (Ne.symm hsort), if_neg hsort]
    by_cases hl : l.isNull
    · have hr : ¬ r.isNull := fun hr => hsort (by rw [eq_null hl, eq_null hr])
      rw [if_neg hr, if_pos hl, if_pos hl]
      rfl
    · by_cases hr : r.isNull
      · rw [if_pos hr, if_neg hl, if_pos hr]
        rfl
      · rw [if_neg hr, if_neg hl, if_neg hl, if_neg hr]
        by_cases hkind : l.kind = r.kind
        · rw [if_pos hkind.symm, if_pos hkind]
          rfl
        · rw [if_neg (Ne.symm hkind), if_neg hkind]
          rfl

namespace Comparison

theorem ofStanding_swap (c : Comparison) (s : Standing) :
    c.swap.ofStanding s.swap = c.ofStanding s := by
  cases s with
  | ordered o => exact holds_swap c o
  | bothNaN | oneNaN | apart => cases c <;> rfl

/-- A comparison says of two values what its mirror image says of them in exchanged places. -/
theorem apply_swap (c : Comparison) (l r : Value) : c.swap.apply r l = c.apply l r := by
  rw [apply_eq_ofStanding, apply_eq_ofStanding, Value.standing_swap, ofStanding_swap]

end Comparison

end DynExpr
