import DynExpr.Proofs.Arithmetic.Operation
import DynExpr.Proofs.Evaluation.Trial
import DynExpr.Proofs.Evaluation.Walk

/-! # Trees of arithmetic

    Trees of arithmetic nodes only, with any policies, over leaves that are
    integers or null. They are compared with the same tree over all integers:

    * **Evaluation**: such a tree draws nothing and does not fail, so its value
      is put together part by part (`Expr.calculate`).
    * **Exact value**: `Expr.unbounded?` computes over unbounded integers.
    * **Exact or null**: an integer result is the exact value. Over leaves of
      one integer kind there is one if and only if every part fits the kind.
    * **Nothing is masked**: null in any part is null at the root.
-/

namespace DynExpr.Expr

/-! ### Trees over leaves -/

/-- Trees of arithmetic nodes whose leaves are constants and parameters with values in `P`. -/
inductive ArithmeticOver (params : Params) (P : Value → Prop) : Expr → Prop where
  | constant {v : Value} (h : P v) : ArithmeticOver params P (constant v)
  | param {name : String} (h : P (params name)) : ArithmeticOver params P (param name)
  | node {op : Arithmetic} {coercion : Coercion} {left right : Expr}
      (hleft : ArithmeticOver params P left) (hright : ArithmeticOver params P right) :
      ArithmeticOver params P (binary (.arithmetic op) coercion left right)

/-- The value of a tree of arithmetic, from the values of its parts. -/
def calculate (params : Params) : Expr → Value
  | constant v => v
  | param name => params name
  | binary (.arithmetic op) coercion left right =>
    op.applyUnder coercion (left.calculate params) (right.calculate params)
  | _ => .null

/-- The value of a tree of arithmetic over unbounded integers. There is none if a leaf is no
    integer, nor if a divisor is zero; quotients are cut toward zero. -/
def unbounded? (params : Params) : Expr → Option Int
  | constant v => v.integer?
  | param name => (params name).integer?
  | binary (.arithmetic op) _ left right =>
    match left.unbounded? params, right.unbounded? params with
    | some x, some y =>
      match op with
      | .add => some (x + y)
      | .sub => some (x - y)
      | .mul => some (x * y)
      | .div => if y = 0 then none else some (x.tdiv y)
    | _, _ => none
  | _ => none

theorem unbounded?_node {params : Params} {op : Arithmetic} {coercion : Coercion}
    {left right : Expr} {x y : Int} (hx : left.unbounded? params = some x)
    (hy : right.unbounded? params = some y) :
    (binary (.arithmetic op) coercion left right).unbounded? params = op.overIntegers x y := by
  rw [unbounded?, hx, hy]
  cases op <;> rfl

section Parts

variable {params : Params} {P : Value → Prop} {e : Expr}

/-- A tree of arithmetic takes no draws and does not fail. -/
theorem ArithmeticOver.trial_eq (h : ArithmeticOver params P e) (source : Source) :
    e.trial params source = ⟨.ok (e.calculate params), source⟩ := by
  induction h with
  | constant _ => exact trial_constant ..
  | param _ => exact trial_param ..
  | node _ _ ihleft ihright =>
    rw [trial_binary, ihleft, Trial.andThen_ok, ihright, Trial.andThen_ok, calculate,
      Arithmetic.applyUnder_fst]

theorem ArithmeticOver.run_eq (h : ArithmeticOver params P e) (s : EvalState) :
    (e.run params s).1 = .ok (e.calculate params) := by
  rw [run_outcome, h.trial_eq]

/-- Every part of a tree of arithmetic is one. -/
theorem ArithmeticOver.part (h : ArithmeticOver params P e) {part : Expr} (hpart : part ∈ e.nodes) :
    ArithmeticOver params P part := by
  induction h with
  | constant hv =>
    rw [List.mem_singleton.1 hpart]
    exact .constant hv
  | param hv =>
    rw [List.mem_singleton.1 hpart]
    exact .param hv
  | node hleft hright ihleft ihright =>
    rw [nodes, List.mem_append, List.mem_append, List.mem_singleton] at hpart
    rcases hpart with (hpart | hpart) | rfl
    · exact ihleft hpart
    · exact ihright hpart
    · exact .node hleft hright

/-- **Absorption**: where one part is null, the whole is. -/
theorem ArithmeticOver.calculate_null (h : ArithmeticOver params P e) {part : Expr}
    (hpart : part ∈ e.nodes) (hnull : part.calculate params = .null) :
    e.calculate params = .null := by
  -- Up from the part that is null, each node has a null operand; the part may be the node itself.
  induction h with
  | constant _ | param _ =>
    rw [← List.mem_singleton.1 hpart]
    exact hnull
  | node _ _ ihleft ihright =>
    rw [nodes, List.mem_append, List.mem_append, List.mem_singleton] at hpart
    rcases hpart with (hpart | hpart) | rfl
    · rw [calculate, ihleft hpart]
      exact Arithmetic.applyUnder_null_left ..
    · rw [calculate, ihright hpart]
      exact Arithmetic.applyUnder_null_right ..
    · exact hnull

end Parts

/-! ### Integer results are exact -/

/-- Over numbers and null the parts are numbers and null, and each integer among them is exact. -/
theorem ArithmeticOver.calculate_integer? {params : Params} {e : Expr}
    (h : ArithmeticOver params Value.IsNumberOrNull e) :
    (e.calculate params).IsNumberOrNull ∧
      ∀ z, (e.calculate params).integer? = some z → e.unbounded? params = some z := by
  induction h with
  | constant hv => exact ⟨hv, fun z hz => hz⟩
  | param hv => exact ⟨hv, fun z hz => hz⟩
  | node _ _ ihleft ihright =>
    refine ⟨Arithmetic.apply_isNumberOrNull .., ?_⟩
    intro z hz
    -- Promotion to floats on the way would not have left an integer.
    obtain ⟨x, y, hx, hy, hexact⟩ := Arithmetic.applyUnder_integer? ihleft.1 ihright.1 hz
    rw [unbounded?_node (ihleft.2 x hx) (ihright.2 y hy)]
    exact hexact

/-! ### Leaves of one kind -/

section Kinds

variable (params : Params) (kind : Kind)

/-- The exact value of every part fits the kind, and no divisor is zero. -/
def Fits (e : Expr) : Prop :=
  (∀ part ∈ e.nodes, ∀ z, part.unbounded? params = some z → kind.Holds z) ∧
    ∀ coercion left right, binary (.arithmetic .div) coercion left right ∈ e.nodes →
      right.unbounded? params ≠ some 0

variable {params kind}

theorem fits_leaf {e : Expr} (hleaf : e.isLeaf) (hnodes : e.nodes = [e])
    (hvalue : ∀ z, e.unbounded? params = some z → kind.Holds z) : e.Fits params kind := by
  constructor
  · intro part hpart z hz
    rw [hnodes] at hpart
    rw [List.mem_singleton.1 hpart] at hz
    exact hvalue z hz
  · intro coercion left right hpart
    rw [hnodes] at hpart
    rw [← List.mem_singleton.1 hpart] at hleaf
    cases hleaf

/-- A node fits if its operands do, its own exact value does and it does not divide by zero. -/
theorem fits_node_iff {op : Arithmetic} {coercion : Coercion} {left right : Expr} :
    (binary (.arithmetic op) coercion left right).Fits params kind ↔
      left.Fits params kind ∧ right.Fits params kind ∧
        (∀ z, (binary (.arithmetic op) coercion left right).unbounded? params = some z →
          kind.Holds z) ∧
        (op = .div → right.unbounded? params ≠ some 0) := by
  have hmem : ∀ part, part ∈ (binary (.arithmetic op) coercion left right).nodes ↔
      (part ∈ left.nodes ∨ part ∈ right.nodes) ∨
        part = binary (.arithmetic op) coercion left right := by
    intro part
    rw [nodes, List.mem_append, List.mem_append, List.mem_singleton]
  constructor
  · intro h
    refine ⟨⟨?_, ?_⟩, ⟨?_, ?_⟩, ?_, ?_⟩
    · exact fun part hpart => h.1 part ((hmem part).2 (Or.inl (Or.inl hpart)))
    · exact fun c l r hpart => h.2 c l r ((hmem _).2 (Or.inl (Or.inl hpart)))
    · exact fun part hpart => h.1 part ((hmem part).2 (Or.inl (Or.inr hpart)))
    · exact fun c l r hpart => h.2 c l r ((hmem _).2 (Or.inl (Or.inr hpart)))
    · exact h.1 _ ((hmem _).2 (Or.inr rfl))
    · intro hop
      subst hop
      exact h.2 coercion left right ((hmem _).2 (Or.inr rfl))
  · intro ⟨hleft, hright, hvalue, hdivisor⟩
    constructor
    · intro part hpart
      rcases (hmem part).1 hpart with (hpart | hpart) | rfl
      · exact hleft.1 part hpart
      · exact hright.1 part hpart
      · exact hvalue
    · intro c l r hpart
      rcases (hmem _).1 hpart with (hpart | hpart) | hself
      · exact hleft.2 c l r hpart
      · exact hright.2 c l r hpart
      · cases hself
        exact hdivisor rfl

variable (params kind) in
/-- The tree has a value of the kind, and it is the exact one. -/
def IsExact (e : Expr) : Prop :=
  (e.calculate params).kind = kind ∧
    ∃ z, (e.calculate params).integer? = some z ∧ e.unbounded? params = some z

/-- A leaf of an integer kind is exact and fits its kind. -/
theorem isExact_of_leaf {e : Expr} {v : Value} (hinteger : kind = .uint ∨ kind = .int)
    (hkind : v.kind = kind) (hleaf : e.isLeaf) (hnodes : e.nodes = [e])
    (hcalculate : e.calculate params = v) (hexact : e.unbounded? params = v.integer?) :
    e.Fits params kind ∧ e.IsExact params kind := by
  subst hkind
  obtain ⟨z, hz⟩ := Value.exists_integer? hinteger
  constructor
  · apply fits_leaf hleaf hnodes
    intro z' hz'
    rw [hexact] at hz'
    exact Value.holds_of_integer? hz'
  · unfold IsExact
    rw [hcalculate, hexact]
    exact ⟨rfl, z, hz, hz⟩

/-- A node over exact operands that fit is exact if it fits, and null if it does not. -/
theorem isExact_or_null_of_node {op : Arithmetic} {coercion : Coercion} {left right : Expr}
    (hleft : left.Fits params kind ∧ left.IsExact params kind)
    (hright : right.Fits params kind ∧ right.IsExact params kind) :
    ((binary (.arithmetic op) coercion left right).Fits params kind ∧
        (binary (.arithmetic op) coercion left right).IsExact params kind) ∨
      (¬ (binary (.arithmetic op) coercion left right).Fits params kind ∧
        (binary (.arithmetic op) coercion left right).calculate params = .null) := by
  obtain ⟨hfleft, hkleft, x, hx, hxexact⟩ := hleft
  obtain ⟨hfright, hkright, y, hy, hyexact⟩ := hright
  have hexact : (binary (.arithmetic op) coercion left right).unbounded? params =
      op.overIntegers x y := unbounded?_node hxexact hyexact
  have hvalue : (binary (.arithmetic op) coercion left right).calculate params =
      Arithmetic.ofExact kind (op.overIntegers x y) := by
    -- Operands of one kind are left alone by every policy.
    have hkinds := hkleft.trans hkright.symm
    rw [calculate, Arithmetic.applyUnder, Coercion.operands_of_kind_eq coercion hkinds,
      Arithmetic.apply_eq_ofExact hkinds hx hy, hkleft]
  unfold IsExact
  rw [fits_node_iff, hvalue, hexact, hyexact]
  -- The node has no exact result, or one outside the kind, or one inside it.
  by_cases hzero : op = .div ∧ y = 0
  · obtain ⟨rfl, rfl⟩ := hzero
    refine Or.inr ⟨fun h => h.2.2.2 rfl rfl, ?_⟩
    apply Arithmetic.ofExact_of_not_holds
    intro z hz
    cases hz
  · have hdivisor : op = .div → y ≠ 0 := fun hop hy => hzero ⟨hop, hy⟩
    obtain ⟨z, hz⟩ := Arithmetic.exists_overIntegers x hdivisor
    rw [hz]
    by_cases hholds : kind.Holds z
    · obtain ⟨hkind, hinteger⟩ := Arithmetic.ofExact_of_holds hholds
      refine Or.inl ⟨⟨hfleft, hfright, ?_, ?_⟩, hkind, z, hinteger, rfl⟩
      · intro z' hz'
        cases hz'
        exact hholds
      · intro hop hy
        exact hdivisor hop (Option.some.inj hy)
    · refine Or.inr ⟨fun h => hholds (h.2.2.1 z rfl), ?_⟩
      apply Arithmetic.ofExact_of_not_holds
      intro z' hz'
      cases hz'
      exact hholds

/-- **Exact or null**: over leaves of one integer kind, a tree that fits the kind has its exact
    value, in that kind; every other tree is null. -/
theorem ArithmeticOver.exact_or_null {e : Expr} (hinteger : kind = .uint ∨ kind = .int)
    (h : ArithmeticOver params (fun v => v.kind = kind) e) :
    (e.Fits params kind ∧ e.IsExact params kind) ∨
      (¬ e.Fits params kind ∧ e.calculate params = .null) := by
  -- A part that does not fit is null already, and null is absorbed on the way up.
  induction h with
  | constant hv => exact Or.inl (isExact_of_leaf hinteger hv rfl rfl rfl rfl)
  | param hv => exact Or.inl (isExact_of_leaf hinteger hv rfl rfl rfl rfl)
  | node _ _ ihleft ihright =>
    rcases ihleft with hleft | ⟨hfits, hnull⟩
    · rcases ihright with hright | ⟨hfits, hnull⟩
      · exact isExact_or_null_of_node hleft hright
      · refine Or.inr ⟨fun h => hfits (fits_node_iff.1 h).2.1, ?_⟩
        rw [calculate, hnull]
        exact Arithmetic.applyUnder_null_right ..
    · refine Or.inr ⟨fun h => hfits (fits_node_iff.1 h).1, ?_⟩
      rw [calculate, hnull]
      exact Arithmetic.applyUnder_null_left ..

end Kinds

/-! ### The whole tree -/

/-- A part that has no result to go on with: it is null, or its operands, as the policy leaves
    them, are integers of one kind without an exact result in that kind, or it divides by zero. -/
inductive Voided (params : Params) (s : EvalState) : Expr → Prop where
  | null {part : Expr} (h : (part.run params s).1 = .ok .null) : Voided params s part
  | overflow {op : Arithmetic} {coercion : Coercion} {left right : Expr} {l r l' r' : Value}
      {x y : Int} (hl : (left.run params s).1 = .ok l) (hr : (right.run params s).1 = .ok r)
      (hoperands : coercion.operands l r = (l', r')) (hkind : l'.kind = r'.kind)
      (hx : l'.integer? = some x) (hy : r'.integer? = some y)
      (hz : ∀ z, op.overIntegers x y = some z → ¬ l'.kind.Holds z) :
      Voided params s (binary (.arithmetic op) coercion left right)
  | zero {coercion : Coercion} {left right : Expr} {r : Value}
      (hr : (right.run params s).1 = .ok r) (hzero : r.IsZero) :
      Voided params s (binary (.arithmetic .div) coercion left right)

variable {params : Params} {s : EvalState} {e : Expr}

/-- A voided part of a tree of arithmetic evaluates to null. -/
theorem ArithmeticOver.calculate_of_voided
    (h : ArithmeticOver params Value.IsNumberOrNull e) (hvoided : e.Voided params s) :
    e.calculate params = .null := by
  cases hvoided with
  | null hnull =>
    rw [h.run_eq] at hnull
    exact Except.ok.inj hnull
  | overflow hl hr hoperands hkind hx hy hz =>
    -- The operands that were named are the ones that the node computes with.
    cases h with
    | node hleft hright =>
      rw [hleft.run_eq] at hl
      rw [hright.run_eq] at hr
      cases hl
      cases hr
      rw [calculate, Arithmetic.applyUnder, hoperands, Arithmetic.apply_eq_ofExact hkind hx hy]
      exact Arithmetic.ofExact_of_not_holds hz
  | zero hr hzero =>
    cases h with
    | node hleft hright =>
      rw [hright.run_eq] at hr
      cases hr
      exact Arithmetic.applyUnder_div_of_isZero hleft.calculate_integer?.1
        hright.calculate_integer?.1 hzero

theorem ArithmeticOver.mono {P Q : Value → Prop} (h : ArithmeticOver params P e)
    (himp : ∀ v, P v → Q v) : ArithmeticOver params Q e := by
  induction h with
  | constant hv => exact .constant (himp _ hv)
  | param hv => exact .param (himp _ hv)
  | node _ _ ihleft ihright => exact .node ihleft ihright

/-- **Exact integer arithmetic**: a tree of arithmetic over unsigned integers, signed integers and
    null, with any policies, has a value. If the value is an integer, it is the exact value over
    all integers, and no part is null. Over leaves of one integer kind, the value is the exact one
    in that kind if and only if every part fits the kind and no divisor is zero, and null
    otherwise. A part without a result of its own makes the whole null, whatever lies around it. -/
theorem run_arithmetic (params : Params) (s : EvalState) (e : Expr)
    (h : ArithmeticOver params
      (fun v => v.kind = .null ∨ v.kind = .uint ∨ v.kind = .int) e) :
    ∃ w, (e.run params s).1 = .ok w ∧
      (∀ z, w.integer? = some z →
        e.unbounded? params = some z ∧
          ∀ part ∈ e.nodes, (part.run params s).1 ≠ .ok .null) ∧
      (∀ kind, kind = .uint ∨ kind = .int → ArithmeticOver params (fun v => v.kind = kind) e →
        ((w.kind = kind ∧ ∃ z, w.integer? = some z ∧ e.unbounded? params = some z) ↔
            e.Fits params kind) ∧
          (¬ e.Fits params kind → w = .null)) ∧
      ∀ part ∈ e.nodes, part.Voided params s → w = .null := by
  have hnumbers : ArithmeticOver params Value.IsNumberOrNull e := by
    apply h.mono
    intro v hv
    rcases hv with hnull | huint | hint
    · exact Or.inl hnull
    · exact Or.inr (congrArg Kind.isNumeric huint)
    · exact Or.inr (congrArg Kind.isNumeric hint)
  refine ⟨e.calculate params, h.run_eq s, ?_, ?_, ?_⟩
  · intro z hz
    refine ⟨hnumbers.calculate_integer?.2 z hz, ?_⟩
    -- A null part would have made the whole null.
    intro part hpart hnull
    rw [(h.part hpart).run_eq] at hnull
    rw [h.calculate_null hpart (Except.ok.inj hnull)] at hz
    cases hz
  · intro kind hinteger hkind
    rcases hkind.exact_or_null hinteger with ⟨hfits, hexact⟩ | ⟨hfits, hnull⟩
    · exact ⟨⟨fun _ => hfits, fun _ => hexact⟩, fun hnot => absurd hfits hnot⟩
    · refine ⟨⟨?_, fun hyes => absurd hyes hfits⟩, fun _ => hnull⟩
      intro hexact
      obtain ⟨-, z, hz, -⟩ := hexact
      rw [hnull] at hz
      cases hz
  · intro part hpart hvoided
    exact h.calculate_null hpart ((hnumbers.part hpart).calculate_of_voided hvoided)

/-- The one quotient that overflows, inside a sum of mixed kinds. -/
theorem run_arithmetic_min_div_neg_one :
    let quotient := binary (.arithmetic .div) .numeric (constant (.int Int64.minValue)) (param "d")
    let sum := binary (.arithmetic .add) .lenient quotient (constant (.uint 1))
    let params : Params := fun _ => .int (-1)
    let s : EvalState := ⟨⟨fun _ => 0.5, 0⟩, #[]⟩
    ArithmeticOver params (fun v => v.kind = .null ∨ v.kind = .uint ∨ v.kind = .int) sum ∧
      quotient.Voided params s ∧ (sum.run params s).1 = .ok .null := by
  intro quotient sum params s
  have hsum : ArithmeticOver params
      (fun v => v.kind = .null ∨ v.kind = .uint ∨ v.kind = .int) sum :=
    .node (.node (.constant (Or.inr (Or.inr rfl))) (.param (Or.inr (Or.inr rfl))))
      (.constant (Or.inr (Or.inl rfl)))
  have hvoided : quotient.Voided params s := .null rfl
  obtain ⟨w, hw, -, -, hmasked⟩ := run_arithmetic params s sum hsum
  rw [hmasked quotient (by simp [sum, nodes, quotient]) hvoided] at hw
  exact ⟨hsum, hvoided, hw⟩

end DynExpr.Expr
