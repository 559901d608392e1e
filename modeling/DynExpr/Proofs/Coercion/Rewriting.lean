import DynExpr.Proofs.Binary64.Nearest
import DynExpr.Proofs.Coercion.CommonKind
import DynExpr.Proofs.Text.Literals

/-! # What policies replace

    * **When** a policy replaces two operands is told from their kinds and,
      if one of them is a text, from its form (`Replaces`). Whether a text is
      read does not depend on the kind of the number beside it, although the
      kind decides which readers are tried (`readNumber?_isSome_iff`).
    * **By what**: the new operands are of one kind that an operator knows
      what to do with, and say the same as the old ones (`Reconciled`). Only
      integers that both become floats may lose something, and then they are
      rounded.

    **`coerce?_reconciles`** says both of every policy and all operands.
-/

namespace DynExpr.Coercion

open Binary64 (IsLiteral Rounds)

/-! ### Legible texts -/

/-- The texts that stand for a truth value. -/
def boolLiterals : List String :=
  ["", "0", "f", "F", "false", "FALSE", "False", "1", "t", "T", "true", "TRUE", "True"]

/-- A text that can be read to match the value beside it. -/
inductive LegibleBeside : Value → Value → Prop where
  | bool {s : String} (h : s ∈ boolLiterals) (b : Bool) : LegibleBeside (.str s) (.bool b)
  | number {s : String} (h : IsLiteral s.toList) {w : Value} (hw : w.kind.isNumeric) :
      LegibleBeside (.str s) w

theorem readBool?_isSome_iff {s : String} : (readBool? s).isSome ↔ s ∈ boolLiterals := by
  have hsplit : boolLiterals = ["", "0", "f", "F", "false", "FALSE", "False"] ++
      ["1", "t", "T", "true", "TRUE", "True"] := rfl
  rw [hsplit, List.mem_append]
  unfold readBool?
  split_ifs with hfalse htrue
  · exact iff_of_true rfl (Or.inl hfalse)
  · exact iff_of_true rfl (Or.inr htrue)
  · exact iff_of_false Bool.false_ne_true (not_or_intro hfalse htrue)

theorem readFloat?_isSome_iff {cs : List Char} : (readFloat? cs).isSome ↔ IsLiteral cs := by
  rw [readFloat?, Option.isSome_map]
  exact Binary64.read?_isSome_iff

/-- What reads as an unsigned integer is the literal of a float as well. -/
theorem isLiteral_of_readUInt? {cs : List Char} (h : (readUInt? cs).isSome) : IsLiteral cs := by
  obtain ⟨v, hv⟩ := Option.isSome_iff_exists.1 h
  obtain ⟨n, hn, -⟩ := Option.bind_eq_some_iff.1 hv
  obtain ⟨sign, ds, rfl, hdigits, -⟩ := Numeral.readNat?_eq_some_iff.1 hn
  exact Binary64.isLiteral_sign_append hdigits sign

/-- So is what reads as a signed one. -/
theorem isLiteral_of_readInt? {cs : List Char} (h : (readInt? cs).isSome) : IsLiteral cs := by
  obtain ⟨v, hv⟩ := Option.isSome_iff_exists.1 h
  obtain ⟨z, hz, -⟩ := Option.bind_eq_some_iff.1 hv
  obtain ⟨sign, ds, rfl, hdigits, -⟩ := Numeral.readInt?_eq_some_iff.1 hz
  exact Binary64.isLiteral_sign_append hdigits sign

/-- Beside a number of whatever kind, the literals of floats are read. -/
theorem readNumber?_isSome_iff {cs : List Char} {kind : Kind} :
    (readNumber? cs kind).isSome ↔ kind.isNumeric ∧ IsLiteral cs := by
  cases kind with
  | uint =>
    simp only [readNumber?, Option.orElse_eq_orElse, Option.orElse_eq_or, Option.isSome_or,
      Bool.or_eq_true]
    constructor
    · rintro (h | h | h)
      · exact ⟨rfl, isLiteral_of_readUInt? h⟩
      · exact ⟨rfl, isLiteral_of_readInt? h⟩
      · exact ⟨rfl, readFloat?_isSome_iff.1 h⟩
    · rintro ⟨-, h⟩
      exact Or.inr (Or.inr (readFloat?_isSome_iff.2 h))
  | int =>
    simp only [readNumber?, Option.orElse_eq_orElse, Option.orElse_eq_or, Option.isSome_or,
      Bool.or_eq_true]
    constructor
    · rintro (h | h)
      · exact ⟨rfl, isLiteral_of_readInt? h⟩
      · exact ⟨rfl, readFloat?_isSome_iff.1 h⟩
    · rintro ⟨-, h⟩
      exact Or.inr (readFloat?_isSome_iff.2 h)
  | float => exact readFloat?_isSome_iff.trans (iff_and_self.2 fun _ => rfl)
  | null | bool | string | timestamp =>
    refine iff_of_false Bool.false_ne_true ?_
    rintro ⟨hkind, -⟩
    cases hkind

/-- Beside a number a text is read as a number, and the two are brought together. -/
theorem readText?_str {s : String} {w : Value} (hw : w.kind.isNumeric) :
    readText? (.str s) w = (readNumber? s.toList w.kind).map fun x => reconcile x w := by
  cases w with
  | uint | int | float => rfl
  | null | bool | str | timestamp => cases hw

theorem readText?_isSome_of_legibleBeside {l r : Value} (h : LegibleBeside l r) :
    (readText? l r).isSome := by
  cases h with
  | bool h b =>
    show ((readBool? _).map _).isSome
    rw [Option.isSome_map, readBool?_isSome_iff]
    exact h
  | number h hw =>
    rw [readText?_str hw, Option.isSome_map, readNumber?_isSome_iff]
    exact ⟨hw, h⟩

theorem readText?_isSome_iff {l r : Value} :
    (readText? l r).isSome ↔ LegibleBeside l r ∨ LegibleBeside r l := by
  constructor
  · intro h
    unfold readText? at h
    split at h
    · rw [Option.isSome_map, readBool?_isSome_iff] at h
      exact Or.inl (.bool h _)
    · rw [Option.isSome_map, readBool?_isSome_iff] at h
      exact Or.inr (.bool h _)
    · rw [Option.isSome_map, readNumber?_isSome_iff] at h
      exact Or.inl (.number h.2 h.1)
    · rw [Option.isSome_map, readNumber?_isSome_iff] at h
      exact Or.inr (.number h.2 h.1)
    · cases h
  · rintro (h | h)
    · exact readText?_isSome_of_legibleBeside h
    · rw [readText?_swap, Option.isSome_map]
      exact readText?_isSome_of_legibleBeside h

/-! ### When operands are replaced -/

/-- The operands that a policy replaces: two numbers of different kinds, and under the last policy
    also a legible text on either side. -/
inductive Replaces : Coercion → Value → Value → Prop where
  | numbers {policy : Coercion} (hpolicy : policy ≠ strict) {l r : Value} (hl : l.kind.isNumeric)
      (hr : r.kind.isNumeric) (hkind : l.kind ≠ r.kind) : Replaces policy l r
  | left {l r : Value} (h : LegibleBeside l r) : Replaces lenient l r
  | right {l r : Value} (h : LegibleBeside r l) : Replaces lenient l r

/-- A legible text is a text beside a truth value or a number. -/
theorem LegibleBeside.kinds {l r : Value} (h : LegibleBeside l r) :
    l.kind = .string ∧ (r.kind = .bool ∨ r.kind.isNumeric) := by
  cases h with
  | bool => exact ⟨rfl, Or.inl rfl⟩
  | number h hw => exact ⟨rfl, Or.inr hw⟩

theorem LegibleBeside.kind_ne {l r : Value} (h : LegibleBeside l r) : l.kind ≠ r.kind := by
  obtain ⟨hl, hr⟩ := h.kinds
  intro hkind
  rw [← hkind, hl] at hr
  rcases hr with hr | hr <;> cases hr

theorem Replaces.kind_ne {policy : Coercion} {l r : Value} (h : Replaces policy l r) :
    l.kind ≠ r.kind := by
  cases h with
  | numbers hpolicy hl hr hkind => exact hkind
  | left h => exact h.kind_ne
  | right h => exact h.kind_ne.symm

/-- Null and instants are never replaced, nor is what stands beside them. -/
theorem not_replaces {policy : Coercion} {l r : Value}
    (h : l.kind ∈ [Kind.null, .timestamp] ∨ r.kind ∈ [Kind.null, .timestamp]) :
    ¬ Replaces policy l r := by
  have hnumeric {kind : Kind} (hkind : kind.isNumeric) : kind ∉ [Kind.null, .timestamp] := by
    cases kind <;> simp_all [Kind.isNumeric]
  have hlegible {text partner : Value} (hlegible : LegibleBeside text partner) :
      text.kind ∉ [Kind.null, .timestamp] ∧ partner.kind ∉ [Kind.null, .timestamp] := by
    obtain ⟨htext, hpartner⟩ := hlegible.kinds
    rw [htext]
    refine ⟨by decide, ?_⟩
    rcases hpartner with hpartner | hpartner
    · rw [hpartner]
      decide
    · exact hnumeric hpartner
  intro hreplaces
  cases hreplaces with
  | numbers hpolicy hl hr hkind => exact h.elim (hnumeric hl) (hnumeric hr)
  | left hl => exact h.elim (hlegible hl).1 (hlegible hl).2
  | right hr => exact h.elim (hlegible hr).2 (hlegible hr).1

/-- A policy replaces the operands that it is to replace. -/
theorem coerce?_isSome_iff {policy : Coercion} {l r : Value} :
    (policy.coerce? l r).isSome ↔ Replaces policy l r := by
  by_cases hkind : l.kind = r.kind
  · unfold coerce?
    rw [if_pos hkind]
    exact iff_of_false Bool.false_ne_true fun h => h.kind_ne hkind
  · have hpromote : (promote? l r).isSome ↔ l.kind.isNumeric ∧ r.kind.isNumeric := by
      constructor
      · intro h
        obtain ⟨pair, hpair⟩ := Option.isSome_iff_exists.1 h
        obtain ⟨hl, hr, -⟩ := promote?_kind_eq hpair
        exact ⟨hl, hr⟩
      · rintro ⟨hl, hr⟩
        exact promote?_isSome hl hr hkind
    unfold coerce?
    rw [if_neg hkind]
    cases policy with
    | strict =>
      refine iff_of_false Bool.false_ne_true ?_
      rintro ⟨hpolicy⟩
      exact hpolicy rfl
    | numeric =>
      rw [hpromote]
      constructor
      · rintro ⟨hl, hr⟩
        exact .numbers (by decide) hl hr hkind
      · rintro ⟨-, hl, hr⟩
        exact ⟨hl, hr⟩
    | lenient =>
      -- Text is tried first; what it leaves are the pairs without a text to read.
      simp only [Option.orElse_eq_orElse, Option.orElse_eq_or, Option.isSome_or, Bool.or_eq_true]
      rw [readText?_isSome_iff, hpromote]
      constructor
      · rintro ((h | h) | ⟨hl, hr⟩)
        · exact .left h
        · exact .right h
        · exact .numbers (by decide) hl hr hkind
      · intro h
        cases h with
        | numbers hpolicy hl hr => exact Or.inr ⟨hl, hr⟩
        | left h => exact Or.inl (Or.inl h)
        | right h => exact Or.inl (Or.inr h)

/-! ### What operands are replaced by -/

/-- What may become of an operand. -/
inductive Becomes : Value → Value → Prop where
  /-- A truth value stays what it is. -/
  | bool (b : Bool) : Becomes (.bool b) (.bool b)
  /-- So does a float. -/
  | float (x : Float) : Becomes (.float x) (.float x)
  /-- An integer stays the same number, perhaps as one of another kind. -/
  | integer {v v' : Value} {z : Int} (h : v.integer? = some z) (h' : v'.integer? = some z) :
      Becomes v v'
  /-- Or it becomes the float nearest to it. -/
  | rounded {v : Value} {z : Int} (h : v.integer? = some z) {x : Float}
      (hx : Rounds (decide (z < 0)) z.natAbs 1 x) : Becomes v (.float x)
  /-- A text is read. -/
  | text (s : String) (v : Value) : Becomes (.str s) v

/-- The kinds that operands are brought onto. -/
def commonKinds : List Kind := [.bool, .uint, .int, .float]

theorem mem_commonKinds {kind : Kind} (h : kind.isNumeric) : kind ∈ commonKinds := by
  cases kind with
  | uint | int | float => decide
  | null | bool | string | timestamp => cases h

/-- A number that is promoted is still a number. -/
theorem Promoted.isNumeric {v v' : Value} (h : Promoted v v') (hv : v.kind.isNumeric) :
    v'.kind.isNumeric := by
  cases h with
  | same => exact hv
  | int | float => rfl

theorem Promoted.becomes {v v' : Value} (h : Promoted v v') (hv : v.kind.isNumeric) :
    Becomes v v' := by
  cases h with
  | same =>
    cases v with
    | uint | int => exact .integer rfl rfl
    | float => exact .float _
    | null | bool | str | timestamp => cases hv
  | int h => exact .integer h rfl
  | float h => exact .rounded h ((Binary64.rounds_iff Nat.one_pos).2 rfl)

theorem reconcile_promoted (l r : Value) :
    Promoted l (reconcile l r).1 ∧ Promoted r (reconcile l r).2 := by
  unfold reconcile
  cases h : promote? l r with
  | none => exact ⟨.same l, .same r⟩
  | some pair => exact promote?_promoted h

theorem readText?_becomes {l r : Value} {pair : Value × Value} (h : readText? l r = some pair) :
    pair.1.kind ∈ commonKinds ∧ Becomes l pair.1 ∧ Becomes r pair.2 := by
  unfold readText? at h
  split at h
  · obtain ⟨x, -, rfl⟩ := Option.map_eq_some_iff.1 h
    exact ⟨List.mem_cons_self, .text _ _, .bool _⟩
  · obtain ⟨x, -, rfl⟩ := Option.map_eq_some_iff.1 h
    exact ⟨List.mem_cons_self, .bool _, .text _ _⟩
  · obtain ⟨x, hx, rfl⟩ := Option.map_eq_some_iff.1 h
    obtain ⟨hl, hr⟩ := readNumber?_isNumeric hx
    obtain ⟨hread, hkept⟩ := reconcile_promoted x r
    exact ⟨mem_commonKinds (hread.isNumeric hl), .text _ _, hkept.becomes hr⟩
  · obtain ⟨x, hx, rfl⟩ := Option.map_eq_some_iff.1 h
    obtain ⟨hr, hl⟩ := readNumber?_isNumeric hx
    obtain ⟨hkept, hread⟩ := reconcile_promoted l x
    exact ⟨mem_commonKinds (hkept.isNumeric hl), hkept.becomes hl, .text _ _⟩
  · cases h

/-- What two operands are replaced by, operand by operand. -/
theorem coerce?_becomes {policy : Coercion} {l r : Value} {pair : Value × Value}
    (h : policy.coerce? l r = some pair) :
    pair.1.kind ∈ commonKinds ∧ Becomes l pair.1 ∧ Becomes r pair.2 := by
  rcases readText?_or_promote?_of_coerce? h with hread | hpromote
  · exact readText?_becomes hread
  · obtain ⟨hl, hr, -⟩ := promote?_kind_eq hpromote
    obtain ⟨hleft, hright⟩ := promote?_promoted hpromote
    exact ⟨mem_commonKinds (hleft.isNumeric hl), hleft.becomes hl, hright.becomes hr⟩

/-- What an operator may rely on when its operands were replaced. -/
structure Reconciled (policy : Coercion) (l r l' r' : Value) : Prop where
  /-- They are of one kind. -/
  kind_eq : l'.kind = r'.kind
  /-- It is one of those that operands are brought onto. -/
  kind_mem : l'.kind ∈ commonKinds
  /-- The left one comes from the one before. -/
  left : Becomes l l'
  /-- So does the right one. -/
  right : Becomes r r'
  /-- No policy would replace them again. -/
  settled : ∀ later : Coercion, later.coerce? l' r' = none
  /-- They do not fall through to the default result of an operator. -/
  fit : ¬ BinaryOp.mismatched l' r'
  /-- The operator is applied to them, and reports nothing but the replacement. -/
  applied : ∀ op : BinaryOp, op.applyUnder policy l r =
    (op.apply l' r', [.coerced policy l.kind r.kind l'.kind r'.kind])

/-- **Replacement**: a policy replaces the operands that it is to replace, by operands on a common
    kind that say the same. Null and instants it never touches. -/
theorem coerce?_reconciles (policy : Coercion) (l r : Value) :
    ((policy.coerce? l r).isSome ↔ Replaces policy l r) ∧
      (∀ l' r', policy.coerce? l r = some (l', r') → Reconciled policy l r l' r') ∧
      (l.kind ∈ [Kind.null, .timestamp] ∨ r.kind ∈ [Kind.null, .timestamp] →
        policy.coerce? l r = none) := by
  refine ⟨coerce?_isSome_iff, ?_, ?_⟩
  · intro l' r' h
    have hkind : l'.kind = r'.kind := coerce?_kind_eq h
    have hfit : ¬ BinaryOp.mismatched l' r' := fun hm => (BinaryOp.mismatched_iff.1 hm).1 hkind
    obtain ⟨hmem, hleft, hright⟩ := coerce?_becomes h
    exact {
      kind_eq := hkind
      kind_mem := hmem
      left := hleft
      right := hright
      settled := fun later => if_pos hkind
      fit := hfit
      applied := by
        intro op
        have hnone : Event.ofOperands op l' r' = [] := if_neg hfit
        unfold BinaryOp.applyUnder
        rw [h]
        show (op.apply l' r', _ ++ Event.ofOperands op l' r') = _
        rw [hnone]
        rfl }
  · intro hkinds
    rw [← Option.not_isSome_iff_eq_none, coerce?_isSome_iff]
    exact not_replaces hkinds

/-- A text that is read as a signed integer may still have to meet a large number as a float. -/
example : (lenient.coerce? (.str "-1") (.uint 18446744073709551615)).map
    (fun pair => (pair.1.kind, pair.2.kind)) = some (.float, .float) := by
  decide

end DynExpr.Coercion
