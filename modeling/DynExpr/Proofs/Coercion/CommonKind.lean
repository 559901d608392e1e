import DynExpr.Proofs.Arithmetic.Operation

/-! # Operands on a common kind

    What a policy makes of two operands of different kinds:

    * **Common kind**: a pair that replaces another one is of one kind,
      whether it was promoted or read from text (`coerce?_kind_eq`).
    * **Exchanged operands** are replaced by the same values, exchanged
      (`coerce?_swap`).
    * **Chain**: a policy replaces every pair that an earlier one replaces,
      and by the same pair (`coerce?_of_rank_le`). So operands that an earlier
      policy leaves fit for their operator are the same under all later ones
      (`operands_of_rank_le`).
-/

namespace DynExpr

/-- Operands fall through if their kinds differ and neither of them is null. -/
theorem BinaryOp.mismatched_iff {l r : Value} :
    mismatched l r ↔ l.kind ≠ r.kind ∧ l ≠ .null ∧ r ≠ .null := by
  have hnull (v : Value) : v.isNull = false ↔ v ≠ .null := by
    cases v <;> simp [Value.isNull]
  simp only [mismatched, Bool.and_eq_true, Bool.not_eq_true', bne_iff_ne, hnull]
  exact and_comm

namespace Coercion

/-! ### Common kind -/

theorem meetInt_kind_eq (a : UInt64) (b : Int64) :
    (meetInt a b).1.kind = (meetInt a b).2.kind := by
  unfold meetInt
  split
  · show Kind.int = .int
    rfl
  · show Kind.float = .float
    rfl

/-- Promotion is of two numbers, and onto one kind. -/
theorem promote?_kind_eq {l r : Value} {pair : Value × Value} (h : promote? l r = some pair) :
    l.kind.isNumeric ∧ r.kind.isNumeric ∧ pair.1.kind = pair.2.kind := by
  cases l with
  | uint a =>
    cases r with
    | int b =>
      have hpair : meetInt a b = pair := Option.some.inj h
      rw [← hpair]
      exact ⟨rfl, rfl, meetInt_kind_eq a b⟩
    | float y =>
      cases h
      exact ⟨rfl, rfl, (rfl : Kind.float = .float)⟩
    | null | bool | uint | str | timestamp => cases h
  | int a =>
    cases r with
    | uint b =>
      have hpair : (meetInt b a).swap = pair := Option.some.inj h
      rw [← hpair]
      exact ⟨rfl, rfl, (meetInt_kind_eq b a).symm⟩
    | float y =>
      cases h
      exact ⟨rfl, rfl, (rfl : Kind.float = .float)⟩
    | null | bool | int | str | timestamp => cases h
  | float x =>
    cases r with
    | uint b | int b =>
      cases h
      exact ⟨rfl, rfl, (rfl : Kind.float = .float)⟩
    | null | bool | float | str | timestamp => cases h
  | null | bool | str | timestamp => cases h

/-- Two numbers of different kinds can always be promoted. -/
theorem promote?_isSome {l r : Value} (hl : l.kind.isNumeric) (hr : r.kind.isNumeric)
    (h : l.kind ≠ r.kind) : (promote? l r).isSome := by
  cases l with
  | null | bool | str | timestamp => cases hl
  | uint | int | float =>
    cases r with
    | null | bool | str | timestamp => cases hr
    | uint | int | float =>
      first
      | rfl
      | exact absurd rfl h

/-- Two values of one kind have nothing to be promoted to. -/
theorem promote?_of_kind_eq {l r : Value} (h : l.kind = r.kind) : promote? l r = none := by
  cases l with
  | uint | int | float =>
    cases r with
    | null | bool | str | timestamp => rfl
    | uint | int | float => first | rfl | cases h
  | null | bool | str | timestamp => rfl

/-- Numbers that are brought together after reading end up on one kind. -/
theorem reconcile_kind_eq {l r : Value} (hl : l.kind.isNumeric) (hr : r.kind.isNumeric) :
    (reconcile l r).1.kind = (reconcile l r).2.kind := by
  unfold reconcile
  cases h : promote? l r with
  | some pair => exact (promote?_kind_eq h).2.2
  | none =>
    -- Numbers that cannot be promoted are of one kind already.
    by_cases hkind : l.kind = r.kind
    · exact hkind
    · have hsome := promote?_isSome hl hr hkind
      rw [h] at hsome
      cases hsome

theorem readUInt?_kind {cs : List Char} {v : Value} (h : readUInt? cs = some v) :
    v.kind = .uint := by
  obtain ⟨n, -, hn⟩ := Option.bind_eq_some_iff.1 h
  split at hn
  · cases hn
    rfl
  · cases hn

theorem readInt?_kind {cs : List Char} {v : Value} (h : readInt? cs = some v) :
    v.kind = .int := by
  obtain ⟨z, -, hz⟩ := Option.bind_eq_some_iff.1 h
  split at hz
  · cases hz
    rfl
  · cases hz

theorem readFloat?_kind {cs : List Char} {v : Value} (h : readFloat? cs = some v) :
    v.kind = .float := by
  obtain ⟨x, -, hx⟩ := Option.map_eq_some_iff.1 h
  cases hx
  rfl

/-- Text is read as a number only beside a number. -/
theorem readNumber?_isNumeric {cs : List Char} {kind : Kind} {v : Value}
    (h : readNumber? cs kind = some v) : v.kind.isNumeric ∧ kind.isNumeric := by
  have hkind : v.kind = .uint ∨ v.kind = .int ∨ v.kind = .float := by
    cases kind with
    | uint =>
      simp only [readNumber?, Option.orElse_eq_orElse, Option.orElse_eq_or,
        Option.or_eq_some_iff] at h
      rcases h with h | ⟨-, h | ⟨-, h⟩⟩
      · exact Or.inl (readUInt?_kind h)
      · exact Or.inr (Or.inl (readInt?_kind h))
      · exact Or.inr (Or.inr (readFloat?_kind h))
    | int =>
      simp only [readNumber?, Option.orElse_eq_orElse, Option.orElse_eq_or,
        Option.or_eq_some_iff] at h
      rcases h with h | ⟨-, h⟩
      · exact Or.inr (Or.inl (readInt?_kind h))
      · exact Or.inr (Or.inr (readFloat?_kind h))
    | float => exact Or.inr (Or.inr (readFloat?_kind h))
    | null | bool | string | timestamp => cases h
  constructor
  · rcases hkind with h | h | h <;> rw [h] <;> rfl
  · cases kind with
    | uint | int | float => rfl
    | null | bool | string | timestamp => cases h

/-- What is read is of the kind of the truth value beside it, or is brought onto one kind with
    the number beside it. -/
theorem readText?_kind_eq {l r : Value} {pair : Value × Value} (h : readText? l r = some pair) :
    pair.1.kind = pair.2.kind := by
  unfold readText? at h
  split at h
  · obtain ⟨x, -, rfl⟩ := Option.map_eq_some_iff.1 h
    rfl
  · obtain ⟨x, -, rfl⟩ := Option.map_eq_some_iff.1 h
    rfl
  · obtain ⟨x, hx, rfl⟩ := Option.map_eq_some_iff.1 h
    obtain ⟨hl, hr⟩ := readNumber?_isNumeric hx
    exact reconcile_kind_eq hl hr
  · obtain ⟨x, hx, rfl⟩ := Option.map_eq_some_iff.1 h
    obtain ⟨hr, hl⟩ := readNumber?_isNumeric hx
    exact reconcile_kind_eq hl hr
  · cases h

/-- A replacement was read from text, or else promoted. -/
theorem readText?_or_promote?_of_coerce? {policy : Coercion} {l r : Value} {pair : Value × Value}
    (h : policy.coerce? l r = some pair) :
    readText? l r = some pair ∨ promote? l r = some pair := by
  unfold coerce? at h
  split at h
  · cases h
  · cases policy with
    | strict => cases h
    | numeric => exact Or.inr h
    | lenient =>
      simp only [Option.orElse_eq_orElse, Option.orElse_eq_or, Option.or_eq_some_iff] at h
      rcases h with h | ⟨-, h⟩
      · exact Or.inl h
      · exact Or.inr h

/-- **Common kind**: operands that replace others are of one kind. -/
theorem coerce?_kind_eq {policy : Coercion} {l r : Value} {pair : Value × Value}
    (h : policy.coerce? l r = some pair) : pair.1.kind = pair.2.kind := by
  rcases readText?_or_promote?_of_coerce? h with hread | hpromote
  · exact readText?_kind_eq hread
  · exact (promote?_kind_eq hpromote).2.2

/-! ### Exchanged operands -/

theorem promote?_swap (l r : Value) : promote? l r = (promote? r l).map Prod.swap := by
  cases l <;> cases r <;> rfl

theorem reconcile_swap (l r : Value) : reconcile l r = (reconcile r l).swap := by
  rw [reconcile, promote?_swap, reconcile]
  cases promote? r l <;> rfl

theorem readText?_swap (l r : Value) : readText? l r = (readText? r l).map Prod.swap := by
  have hmap {α : Type} (read : Option α) {f g : α → Value × Value} (h : ∀ x, f x = (g x).swap) :
      read.map f = (read.map g).map Prod.swap := by
    rw [Option.map_map]
    exact congrArg read.map (funext h)
  cases l with
  | str s =>
    cases r with
    | bool => exact hmap (readBool? s) fun _ => rfl
    | uint | int | float => exact hmap (readNumber? s.toList _) fun _ => reconcile_swap _ _
    | null | str | timestamp => rfl
  | bool =>
    cases r with
    | str s => exact hmap (readBool? s) fun _ => rfl
    | null | bool | uint | int | float | timestamp => rfl
  | uint | int | float =>
    cases r with
    | str s => exact hmap (readNumber? s.toList _) fun _ => reconcile_swap _ _
    | null | bool | uint | int | float | timestamp => rfl
  | null | timestamp => cases r <;> rfl

/-- **Exchanged operands**: a policy treats both sides alike. -/
theorem coerce?_swap (policy : Coercion) (l r : Value) :
    policy.coerce? l r = (policy.coerce? r l).map Prod.swap := by
  unfold coerce?
  by_cases hkind : l.kind = r.kind
  · rw [if_pos hkind, if_pos hkind.symm]
    rfl
  · rw [if_neg hkind, if_neg (Ne.symm hkind)]
    cases policy with
    | strict => rfl
    | numeric => exact promote?_swap l r
    | lenient =>
      show (readText? l r <|> promote? l r) = _
      rw [readText?_swap, promote?_swap]
      cases readText? r l <;> rfl

theorem operands_swap (policy : Coercion) (l r : Value) :
    policy.operands l r = (policy.operands r l).swap := by
  unfold operands
  rw [coerce?_swap]
  cases policy.coerce? r l <;> rfl

/-! ### The chain of policies -/

/-- The place of a policy in the chain; later ones accept more. -/
def rank : Coercion → Nat
  | strict  => 0
  | numeric => 1
  | lenient => 2

/-- A later policy replaces whatever an earlier one replaces, by the same operands. -/
theorem coerce?_of_rank_le {policy later : Coercion} (hrank : policy.rank ≤ later.rank)
    {l r : Value} {pair : Value × Value} (h : policy.coerce? l r = some pair) :
    later.coerce? l r = some pair := by
  unfold coerce? at h ⊢
  by_cases hkind : l.kind = r.kind
  · rw [if_pos hkind] at h
    cases h
  · rw [if_neg hkind] at h ⊢
    cases policy with
    | strict => cases h
    | numeric =>
      cases later with
      | strict => exact absurd hrank (by decide)
      | numeric => exact h
      | lenient =>
        -- Two numbers: nothing is read, and they are promoted as before.
        obtain ⟨hl, hr, -⟩ := promote?_kind_eq h
        show (readText? l r <|> promote? l r) = some pair
        rw [readText?_eq_none (Or.inr hl) (Or.inr hr)]
        exact h
    | lenient =>
      cases later with
      | strict | numeric => exact absurd hrank (by decide)
      | lenient => exact h

/-- **Chain**: operands that fit after an earlier policy are the same after every later one. -/
theorem operands_of_rank_le {policy later : Coercion} (hrank : policy.rank ≤ later.rank)
    {l r : Value}
    (hfit : ¬ BinaryOp.mismatched (policy.operands l r).1 (policy.operands l r).2) :
    later.operands l r = policy.operands l r := by
  cases h : policy.coerce? l r with
  | some pair =>
    have hlater := coerce?_of_rank_le hrank h
    rw [operands, operands, h, hlater]
  | none =>
    -- Operands that fit as they are have one kind, or one of them is null; no policy touches them.
    have hsame : policy.operands l r = (l, r) := by
      rw [operands, h]
      rfl
    rw [hsame] at hfit ⊢
    rw [BinaryOp.mismatched_iff] at hfit
    by_cases hl : l = .null
    · rw [hl]
      exact operands_null_left later r
    · by_cases hr : r = .null
      · rw [hr]
        exact operands_null_right later l
      · apply operands_of_kind_eq
        exact Decidable.byContradiction fun hkind => hfit ⟨hkind, hl, hr⟩

end Coercion

end DynExpr
