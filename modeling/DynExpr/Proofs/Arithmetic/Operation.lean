import DynExpr.Expr.Eval

/-! # Arithmetic on values

    What one arithmetic operation makes of two operands, seen from the
    integers:

    * **Integers**: `Value.integer?` is the integer that a value of an integer
      kind is, and `Kind.Holds` the range of such a kind.
    * **Exactness**: an operation gives an integer only if its operands are
      integers, and then the exact one (`calculate_integer?`).
    * **Absorption**: null goes in and null comes out; so it does where an
      exact result is out of range, and after a division by zero.
-/

namespace DynExpr

/-- The integers that fit a kind. Only the two integer kinds hold any. -/
def Kind.Holds : Kind → Int → Prop
  | uint, z => 0 ≤ z ∧ z < 2 ^ 64
  | int, z  => -2 ^ 63 ≤ z ∧ z < 2 ^ 63
  | _, _    => False

namespace Value

/-- The integer that a value of an integer kind is. -/
def integer? : Value → Option Int
  | uint n => some n.toNat
  | int n  => some n.toInt
  | _      => none

/-- Is it a number or null? -/
def IsNumberOrNull (v : Value) : Prop := v.kind = .null ∨ v.kind.isNumeric

/-- Is it a zero, of any numeric kind? -/
def IsZero : Value → Prop
  | uint n  => n = 0
  | int n   => n = 0
  | float x => x == 0
  | _       => False

theorem holds_of_integer? {v : Value} {z : Int} (h : v.integer? = some z) : v.kind.Holds z := by
  cases v with
  | uint n =>
    cases h
    have hlt := n.toNat_lt
    exact ⟨by omega, by omega⟩
  | int n =>
    cases h
    exact ⟨n.le_toInt, n.toInt_lt⟩
  | null | bool | float | str | timestamp => cases h

theorem exists_integer? {v : Value} (h : v.kind = .uint ∨ v.kind = .int) :
    ∃ z, v.integer? = some z := by
  cases v with
  | uint n => exact ⟨_, rfl⟩
  | int n => exact ⟨_, rfl⟩
  | null | bool | float | str | timestamp => rcases h with h | h <;> cases h

end Value

namespace Arithmetic

/-- Only a division by zero has no exact result. -/
theorem exists_overIntegers {op : Arithmetic} (x : Int) {y : Int} (h : op = .div → y ≠ 0) :
    ∃ z, op.overIntegers x y = some z := by
  cases op with
  | add | sub | mul => exact ⟨_, rfl⟩
  | div =>
    refine ⟨x.tdiv y, ?_⟩
    show (if y = 0 then none else some (x.tdiv y)) = some (x.tdiv y)
    exact if_neg (h rfl)

/-! ### Operands of one kind -/

/-- An exact result as a value of an integer kind, or null if the kind cannot hold it. -/
def ofExact : Kind → Option Int → Value
  | .uint, result => toUInt result
  | .int, result  => toInt result
  | _, _          => .null

/-- Between two integers of one kind, an operation computes over all integers. -/
theorem apply_eq_ofExact {op : Arithmetic} {a b : Value} {x y : Int} (hkind : a.kind = b.kind)
    (hx : a.integer? = some x) (hy : b.integer? = some y) :
    op.apply a b = ofExact a.kind (op.overIntegers x y) := by
  cases a with
  | uint n =>
    cases b with
    | uint m =>
      cases hx
      cases hy
      rfl
    | null | bool | int | float | str | timestamp => cases hkind
  | int n =>
    cases b with
    | int m =>
      cases hx
      cases hy
      rfl
    | null | bool | uint | float | str | timestamp => cases hkind
  | null | bool | float | str | timestamp => cases hx

theorem ofExact_of_holds {kind : Kind} {z : Int} (h : kind.Holds z) :
    (ofExact kind (some z)).kind = kind ∧ (ofExact kind (some z)).integer? = some z := by
  cases kind with
  | uint =>
    have hrange : 0 ≤ z ∧ z < 2 ^ 64 := h
    have hsmall : z.toNat < 2 ^ 64 := by omega
    rw [ofExact, toUInt, if_pos hrange]
    refine ⟨rfl, ?_⟩
    show some ((UInt64.ofNat z.toNat).toNat : Int) = some z
    rw [UInt64.toNat_ofNat_of_lt' hsmall, Int.toNat_of_nonneg hrange.1]
  | int =>
    have hrange : -2 ^ 63 ≤ z ∧ z < 2 ^ 63 := h
    rw [ofExact, toInt, if_pos hrange]
    refine ⟨rfl, ?_⟩
    show some (Int64.ofInt z).toInt = some z
    rw [Int64.toInt_ofInt_of_le hrange.1 hrange.2]
  | null | bool | float | string | timestamp => cases h

theorem ofExact_of_not_holds {kind : Kind} {result : Option Int}
    (h : ∀ z, result = some z → ¬ kind.Holds z) : ofExact kind result = .null := by
  cases result with
  | none => cases kind <;> rfl
  | some z =>
    have hz := h z rfl
    cases kind with
    | uint => exact if_neg hz
    | int => exact if_neg hz
    | null | bool | float | string | timestamp => rfl

/-- A result is exact, or it is null. -/
theorem ofExact_cases (kind : Kind) (result : Option Int) :
    (∃ z, result = some z ∧ kind.Holds z ∧ (ofExact kind result).kind = kind ∧
        (ofExact kind result).integer? = some z) ∨
      ofExact kind result = .null := by
  by_cases hfits : ∃ z, result = some z ∧ kind.Holds z
  · obtain ⟨z, rfl, hholds⟩ := hfits
    exact Or.inl ⟨z, rfl, hholds, ofExact_of_holds hholds⟩
  · refine Or.inr (ofExact_of_not_holds ?_)
    intro z hz hholds
    exact hfits ⟨z, hz, hholds⟩

theorem ofExact_integer? {kind : Kind} {result : Option Int} {z : Int}
    (h : (ofExact kind result).integer? = some z) : result = some z := by
  rcases ofExact_cases kind result with ⟨z', hresult, -, -, hexact⟩ | hnull
  · rw [hresult, ← h, hexact]
  · rw [hnull] at h
    cases h

/-- An operation gives an integer only between two integers of one kind. -/
theorem apply_integer? {op : Arithmetic} {a b : Value} {z : Int}
    (h : (op.apply a b).integer? = some z) :
    ∃ x y, a.kind = b.kind ∧ a.integer? = some x ∧ b.integer? = some y ∧
      op.overIntegers x y = some z := by
  cases a with
  | uint n =>
    cases b with
    | uint m =>
      have hz : (ofExact .uint (op.overIntegers n.toNat m.toNat)).integer? = some z := h
      exact ⟨n.toNat, m.toNat, rfl, rfl, rfl, ofExact_integer? hz⟩
    | null | bool | int | float | str | timestamp => cases h
  | int n =>
    cases b with
    | int m =>
      have hz : (ofExact .int (op.overIntegers n.toInt m.toInt)).integer? = some z := h
      exact ⟨n.toInt, m.toInt, rfl, rfl, rfl, ofExact_integer? hz⟩
    | null | bool | uint | float | str | timestamp => cases h
  | float x =>
    cases b with
    | float y =>
      -- Floats make floats, or null.
      cases op with
      | div =>
        have hnone : (ofFloats x y .div).integer? = none := by
          rw [ofFloats]
          split <;> rfl
        rw [apply, hnone] at h
        cases h
      | add | sub | mul => cases h
    | null | bool | uint | int | str | timestamp => cases h
  | null | bool | str | timestamp => cases h

theorem ofExact_isNumberOrNull (kind : Kind) (result : Option Int) :
    (ofExact kind result).IsNumberOrNull := by
  rcases ofExact_cases kind result with ⟨z, -, hholds, hkind, -⟩ | hnull
  · cases kind with
    | uint | int => exact Or.inr (congrArg Kind.isNumeric hkind)
    | null | bool | float | string | timestamp => cases hholds
  · rw [hnull]
    exact Or.inl rfl

/-- Arithmetic makes numbers, or null. -/
theorem apply_isNumberOrNull (op : Arithmetic) (a b : Value) :
    (op.apply a b).IsNumberOrNull := by
  cases a with
  | uint n =>
    cases b with
    | uint m => exact ofExact_isNumberOrNull .uint (op.overIntegers n.toNat m.toNat)
    | null | bool | int | float | str | timestamp => exact Or.inl rfl
  | int n =>
    cases b with
    | int m => exact ofExact_isNumberOrNull .int (op.overIntegers n.toInt m.toInt)
    | null | bool | uint | float | str | timestamp => exact Or.inl rfl
  | float x =>
    cases b with
    | float y =>
      cases op with
      | div =>
        rw [apply, ofFloats]
        split
        · exact Or.inl rfl
        · exact Or.inr rfl
      | add | sub | mul => exact Or.inr rfl
    | null | bool | uint | int | str | timestamp => exact Or.inl rfl
  | null | bool | str | timestamp => exact Or.inl rfl

theorem apply_null_left (op : Arithmetic) (b : Value) : op.apply .null b = .null := by
  cases b <;> rfl

theorem apply_null_right (op : Arithmetic) (a : Value) : op.apply a .null = .null := by
  cases a <;> rfl

/-- Nothing is divided by zero. -/
theorem div_of_isZero (a : Value) {b : Value} (h : b.IsZero) : div.apply a b = .null := by
  cases b with
  | uint m =>
    have hm : m = 0 := h
    subst hm
    cases a <;> rfl
  | int m =>
    have hm : m = 0 := h
    subst hm
    cases a <;> rfl
  | float y =>
    cases a with
    | float x => exact if_pos h
    | null | bool | uint | int | str | timestamp => rfl
  | null | bool | str | timestamp => cases h

end Arithmetic

/-! ### Operands under a policy -/

namespace Coercion

/-- The operands that an operator is applied to under a policy. -/
def operands (policy : Coercion) (l r : Value) : Value × Value :=
  (policy.coerce? l r).getD (l, r)

theorem operands_of_kind_eq (policy : Coercion) {l r : Value} (h : l.kind = r.kind) :
    policy.operands l r = (l, r) := by
  unfold operands coerce?
  rw [if_pos h]
  rfl

theorem operands_null_left (policy : Coercion) (r : Value) :
    policy.operands .null r = (.null, r) := by
  cases policy <;> cases r <;> rfl

theorem operands_null_right (policy : Coercion) (l : Value) :
    policy.operands l .null = (l, .null) := by
  cases policy <;> cases l <;> rfl

/-- A node over two values applies its operator to them as its policy leaves them. -/
theorem run_constants (op : BinaryOp) (policy : Coercion) (l r : Value) (params : Params)
    (s : EvalState) :
    ((Expr.binary op policy (.constant l) (.constant r)).run params s).1 =
      .ok (op.apply (policy.operands l r).1 (policy.operands l r).2) := by
  rw [Expr.run_binary, Expr.run_constant]
  simp only [Expr.run_constant]
  rfl

/-- There is no text to read among numbers and null. -/
theorem readText?_eq_none {l r : Value} (hl : l.IsNumberOrNull) (hr : r.IsNumberOrNull) :
    readText? l r = none := by
  -- Only a text on one side is ever read as the kind of the other side.
  cases l with
  | bool | str | timestamp => rcases hl with h | h <;> cases h
  | null | uint | int | float =>
    cases r with
    | bool | str | timestamp => rcases hr with h | h <;> cases h
    | null | uint | int | float => rfl

/-- Numbers and null are at most promoted. -/
theorem operands_eq_or_promote (policy : Coercion) {l r : Value} (hl : l.IsNumberOrNull)
    (hr : r.IsNumberOrNull) :
    policy.operands l r = (l, r) ∨ promote? l r = some (policy.operands l r) := by
  unfold operands coerce?
  split
  · exact Or.inl rfl
  · cases policy with
    | strict => exact Or.inl rfl
    | numeric =>
      cases h : promote? l r with
      | none => exact Or.inl rfl
      | some pair => exact Or.inr rfl
    | lenient =>
      rw [readText?_eq_none hl hr]
      cases h : promote? l r with
      | none => exact Or.inl rfl
      | some pair => exact Or.inr rfl

/-! ### Promotion -/

/-- What promotion may make of one operand: the operand itself, the same integer as a signed one,
    or the float nearest to it. -/
inductive Promoted : Value → Value → Prop where
  | same (v : Value) : Promoted v v
  | int {v : Value} {n : Int64} (h : v.integer? = some n.toInt) : Promoted v (.int n)
  | float {v : Value} {z : Int} (h : v.integer? = some z) : Promoted v (.float (Binary64.ofInt z))

theorem meetInt_promoted (a : UInt64) (b : Int64) :
    Promoted (.uint a) (meetInt a b).1 ∧ Promoted (.int b) (meetInt a b).2 := by
  unfold meetInt
  split
  · -- The unsigned integer fits the signed kind, so both stay integers.
    next hfits =>
    have hlow : -2 ^ 63 ≤ (a.toNat : Int) := by omega
    have hhigh : (a.toNat : Int) < 2 ^ 63 := by omega
    refine ⟨.int ?_, .same _⟩
    rw [Int64.toInt_ofInt_of_le hlow hhigh]
    rfl
  · -- It does not, so both become floats.
    exact ⟨.float rfl, .float rfl⟩

/-- Promotion does to each operand what it may. -/
theorem promote?_promoted {l r : Value} {pair : Value × Value} (h : promote? l r = some pair) :
    Promoted l pair.1 ∧ Promoted r pair.2 := by
  cases l with
  | uint a =>
    cases r with
    | int b =>
      have hpair : meetInt a b = pair := Option.some.inj h
      rw [← hpair]
      exact meetInt_promoted a b
    | float y =>
      cases h
      exact ⟨.float rfl, .same _⟩
    | null | bool | uint | str | timestamp => cases h
  | int a =>
    cases r with
    | uint b =>
      have hpair : (meetInt b a).swap = pair := Option.some.inj h
      rw [← hpair]
      exact (meetInt_promoted b a).symm
    | float y =>
      cases h
      exact ⟨.float rfl, .same _⟩
    | null | bool | int | str | timestamp => cases h
  | float x =>
    cases r with
    | uint b | int b =>
      cases h
      exact ⟨.same _, .float rfl⟩
    | null | bool | float | str | timestamp => cases h
  | null | bool | str | timestamp => cases h

/-- What is left an integer is the integer that it was. -/
theorem Promoted.integer? {v v' : Value} {z : Int} (h : Promoted v v')
    (hz : v'.integer? = some z) : v.integer? = some z := by
  cases h with
  | same => exact hz
  | int hv =>
    cases hz
    exact hv
  | float hv => cases hz

theorem ofInt_zero : (Binary64.ofInt 0 == 0) = true := by
  -- The scale is too large a number to be multiplied out, and here it need not be.
  have hplace : Binary64.nearest 0 1 = 0 := by
    unfold Binary64.nearest
    simp only [Nat.zero_mul]
    rfl
  show (Binary64.ofPlace false (Binary64.nearest 0 1) == 0) = true
  rw [hplace]
  decide

/-- A zero stays a zero. -/
theorem Promoted.isZero {v v' : Value} (h : Promoted v v') (hzero : v.IsZero) : v'.IsZero := by
  have hinteger : ∀ {z : Int}, v.integer? = some z → z = 0 := by
    intro z hz
    cases v with
    | uint n =>
      have hn : n = 0 := hzero
      subst hn
      cases hz
      rfl
    | int n =>
      have hn : n = 0 := hzero
      subst hn
      cases hz
      rfl
    | null | bool | float | str | timestamp => cases hz
  cases h with
  | same => exact hzero
  | @int n hv =>
    -- The word is told from its integer.
    show n = 0
    rw [← Int64.toInt_inj, hinteger hv]
    rfl
  | float hv =>
    rw [hinteger hv]
    exact ofInt_zero

end Coercion

/-! ### One operation under a policy -/

namespace Arithmetic

open Coercion

/-- The value of an arithmetic node whose operands have the given values. -/
def applyUnder (op : Arithmetic) (policy : Coercion) (l r : Value) : Value :=
  op.apply (policy.operands l r).1 (policy.operands l r).2

variable (op : Arithmetic) (policy : Coercion)

theorem applyUnder_fst (l r : Value) :
    ((BinaryOp.arithmetic op).applyUnder policy l r).1 = op.applyUnder policy l r := rfl

theorem applyUnder_null_left (r : Value) : op.applyUnder policy .null r = .null := by
  unfold applyUnder
  rw [operands_null_left]
  exact apply_null_left op r

theorem applyUnder_null_right (l : Value) : op.applyUnder policy l .null = .null := by
  unfold applyUnder
  rw [operands_null_right]
  exact apply_null_right op l

variable {op policy}

/-- Under every policy, an integer result is the exact one for the operands as they were. -/
theorem applyUnder_integer? {l r : Value} (hl : l.IsNumberOrNull) (hr : r.IsNumberOrNull) {z : Int}
    (h : (op.applyUnder policy l r).integer? = some z) :
    ∃ x y, l.integer? = some x ∧ r.integer? = some y ∧ op.overIntegers x y = some z := by
  obtain ⟨x, y, -, hx, hy, hz⟩ := apply_integer? h
  -- `x` and `y` are the operands as the policy left them; they were the same before.
  rcases operands_eq_or_promote policy hl hr with hsame | hpromote
  · rw [hsame] at hx hy
    exact ⟨x, y, hx, hy, hz⟩
  · have hpromoted := promote?_promoted hpromote
    exact ⟨x, y, hpromoted.1.integer? hx, hpromoted.2.integer? hy, hz⟩

/-- Under every policy, a division by zero gives null. -/
theorem applyUnder_div_of_isZero {l r : Value} (hl : l.IsNumberOrNull) (hr : r.IsNumberOrNull)
    (hzero : r.IsZero) : div.applyUnder policy l r = .null := by
  unfold applyUnder
  apply div_of_isZero
  rcases operands_eq_or_promote policy hl hr with hsame | hpromote
  · rw [hsame]
    exact hzero
  · exact (promote?_promoted hpromote).2.isZero hzero

end Arithmetic

end DynExpr
