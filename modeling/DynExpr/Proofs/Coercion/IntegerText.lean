import DynExpr.Proofs.Coercion.Rewriting
import DynExpr.Value.Text

/-! # Integers written as text

    A lenient node reads digits with a sign beside a number. The kind of the
    number chooses the readers and their order, and what is read may still
    have to be promoted:

    * **What is read**: `StandsFor` says which number a text stands for beside
      a number of some kind, by the sign and the range and not by the readers;
      it is the one that they find (`readNumber?_eq_some_iff`).
    * **What is computed**: the text and that number are replaced by the same
      operands, so nodes over them give the same (`operands_str`,
      `operands_numbers`).
    * **Texts of numbers**: an unsigned integer meets a number on the way of
      its text as it meets it itself: digits beyond the range are rounded as
      the integer is when it is promoted (`reconcile_uint`).

    **`run_integer_text`** says this of nodes, with the operands in either
    order.
-/

namespace DynExpr.Coercion

open Numeral (Sign IsDigits)
open Binary64 (Rounds)

/-! ### The number that a text stands for -/

/-- Are digits with a sign read as an integer beside a number of the given kind? Beside unsigned
    integers they are a signed one if the sign is a minus, and else an unsigned one. -/
def FitsBeside (sign : Sign) (n : Nat) : Kind → Prop
  | .uint => sign ≠ .minus ∧ n < 2 ^ 64 ∨ sign = .minus ∧ -2 ^ 63 ≤ sign.apply n
  | .int  => -2 ^ 63 ≤ sign.apply n ∧ sign.apply n < 2 ^ 63
  | _     => False

/-- The number that digits denoting `n`, with a sign in front, stand for beside a number of the
    given kind. -/
inductive StandsFor (sign : Sign) (n : Nat) : Kind → Value → Prop where
  | uint (hsign : sign ≠ .minus) {a : UInt64} (h : a.toNat = n) : StandsFor sign n .uint (.uint a)
  | negative (hsign : sign = .minus) {b : Int64} (h : b.toInt = sign.apply n) :
      StandsFor sign n .uint (.int b)
  | int {b : Int64} (h : b.toInt = sign.apply n) : StandsFor sign n .int (.int b)
  | float {kind : Kind} (hkind : kind.isNumeric) (hfar : ¬ FitsBeside sign n kind) {x : Float}
      (hx : Rounds sign.isMinus n 1 x) : StandsFor sign n kind (.float x)

variable {sign : Sign} {n : Nat} {kind : Kind}

theorem exists_standsFor (hkind : kind.isNumeric) : ∃ v, StandsFor sign n kind v := by
  by_cases hfits : FitsBeside sign n kind
  · cases kind with
    | uint =>
      rcases hfits with ⟨hsign, hfits⟩ | ⟨rfl, hfits⟩
      · exact ⟨_, .uint hsign (UInt64.toNat_ofNat_of_lt' hfits)⟩
      · have hhigh : Sign.minus.apply n < 2 ^ 63 := by
          show -(n : Int) < 2 ^ 63
          omega
        exact ⟨_, .negative rfl (Int64.toInt_ofInt_of_le hfits hhigh)⟩
    | int => exact ⟨_, .int (Int64.toInt_ofInt_of_le hfits.1 hfits.2)⟩
    | null | bool | float | string | timestamp => exact hfits.elim
  · exact ⟨_, .float hkind hfits ((Binary64.rounds_iff Nat.one_pos).2 rfl)⟩

/-- What does not fit beside unsigned integers is no signed one either. -/
theorem not_fits_int (h : ¬ FitsBeside sign n .uint) :
    ¬ (-2 ^ 63 ≤ sign.apply n ∧ sign.apply n < 2 ^ 63) := by
  rintro ⟨hlow, hhigh⟩
  by_cases hsign : sign = .minus
  · exact h (Or.inr ⟨hsign, hlow⟩)
  · rw [sign.apply_of_ne_minus hsign] at hhigh
    exact h (Or.inl ⟨hsign, by omega⟩)

/-- What an integer text stands for is a number. -/
theorem StandsFor.isNumeric {v : Value} (h : StandsFor sign n kind v) : v.kind.isNumeric := by
  cases h with
  | uint | negative | int | float => rfl

/-! ### Reading integer texts -/

section Read

variable {ds : List Char} (hds : IsDigits ds)
include hds

theorem readUInt?_sign_append :
    readUInt? (sign.text ++ ds) =
      if sign ≠ .minus ∧ Numeral.value ds < 2 ^ 64 then
        some (.uint (UInt64.ofNat (Numeral.value ds))) else none := by
  rw [readUInt?, Numeral.readNat?_sign (hds.precedes sign),
    Numeral.readDigits?_eq_some_iff.2 ⟨hds, rfl⟩]
  cases sign with
  | minus => rfl
  | none | plus => simp [Sign.isMinus]

theorem readInt?_sign_append :
    readInt? (sign.text ++ ds) =
      if -2 ^ 63 ≤ sign.apply (Numeral.value ds) ∧ sign.apply (Numeral.value ds) < 2 ^ 63 then
        some (.int (Int64.ofInt (sign.apply (Numeral.value ds)))) else none := by
  rw [readInt?, Numeral.readInt?_sign (hds.precedes sign),
    Numeral.readDigits?_eq_some_iff.2 ⟨hds, rfl⟩]
  rfl

theorem readFloat?_sign_append {x : Float} (hx : Rounds sign.isMinus (Numeral.value ds) 1 x) :
    readFloat? (sign.text ++ ds) = some (.float x) := by
  rw [readFloat?, Binary64.read?_digits hds, (Binary64.rounds_iff Nat.one_pos).1 hx]
  rfl

theorem readInt?_of_toInt {b : Int64} (h : b.toInt = sign.apply (Numeral.value ds)) :
    readInt? (sign.text ++ ds) = some (.int b) := by
  have hlow := b.le_toInt
  have hhigh := b.toInt_lt
  rw [h] at hlow hhigh
  rw [readInt?_sign_append hds, if_pos ⟨hlow, hhigh⟩, ← h, Int64.ofInt_toInt]

/-- The number that a text stands for is read. -/
theorem readNumber?_of_standsFor {v : Value} (h : StandsFor sign (Numeral.value ds) kind v) :
    readNumber? (sign.text ++ ds) kind = some v := by
  have hunsigned : readUInt? (sign.text ++ ds) = _ := readUInt?_sign_append hds
  have hsigned : readInt? (sign.text ++ ds) = _ := readInt?_sign_append hds
  cases h with
  | @uint hsign a h =>
    have hfits : Numeral.value ds < 2 ^ 64 := by
      rw [← h]
      exact a.toNat_lt
    rw [if_pos ⟨hsign, hfits⟩, ← h, UInt64.ofNat_toNat] at hunsigned
    show (readUInt? _ <|> readInt? _ <|> readFloat? _) = some (.uint a)
    rw [hunsigned]
    rfl
  | @negative hsign b h =>
    rw [if_neg fun hfits => hfits.1 hsign] at hunsigned
    show (readUInt? _ <|> readInt? _ <|> readFloat? _) = some (.int b)
    rw [hunsigned, readInt?_of_toInt hds h]
    rfl
  | @int b h =>
    show (readInt? _ <|> readFloat? _) = some (.int b)
    rw [readInt?_of_toInt hds h]
    rfl
  | @float _ hkind hfar x hx =>
    have hfloat := readFloat?_sign_append hds hx
    cases kind with
    | uint =>
      -- Neither reader of integers takes it, so the last one does.
      show (readUInt? _ <|> readInt? _ <|> readFloat? _) = some (.float x)
      rw [hunsigned, hsigned, hfloat, if_neg fun hfits => hfar (Or.inl hfits),
        if_neg (not_fits_int hfar)]
      rfl
    | int =>
      show (readInt? _ <|> readFloat? _) = some (.float x)
      have hrange : ¬ (-2 ^ 63 ≤ sign.apply (Numeral.value ds) ∧
          sign.apply (Numeral.value ds) < 2 ^ 63) := hfar
      rw [hsigned, hfloat, if_neg hrange]
      rfl
    | float => exact hfloat
    | null | bool | string | timestamp => cases hkind

/-- **What is read**: beside a number, a text is read as what it stands for. -/
theorem readNumber?_eq_some_iff (hkind : kind.isNumeric) {v : Value} :
    readNumber? (sign.text ++ ds) kind = some v ↔ StandsFor sign (Numeral.value ds) kind v := by
  constructor
  · intro h
    obtain ⟨v', hv'⟩ := exists_standsFor hkind
    rw [readNumber?_of_standsFor hds hv', Option.some.injEq] at h
    rwa [← h]
  · exact readNumber?_of_standsFor hds

end Read

/-- Beside an unsigned integer, a minus sign makes a signed one even in front of zero. -/
example : (readNumber? ['-', '0'] .uint).map Value.kind = some .int := by decide

/-! ### Nodes over interchangeable values -/

/-- Beside `w` a lenient node gives the same with `a` as with `b`, on either side. -/
def Interchangeable (a b w : Value) : Prop :=
  ∀ (op : BinaryOp) (params : Params) (s : EvalState),
    ((Expr.binary op lenient (.constant a) (.constant w)).run params s).1 =
        ((Expr.binary op lenient (.constant b) (.constant w)).run params s).1 ∧
      ((Expr.binary op lenient (.constant w) (.constant a)).run params s).1 =
        ((Expr.binary op lenient (.constant w) (.constant b)).run params s).1

/-- Values that are replaced by the same operands are interchangeable. -/
theorem interchangeable_of_operands_eq {a b w : Value}
    (h : lenient.operands a w = lenient.operands b w) : Interchangeable a b w := by
  intro op params s
  simp only [run_constants]
  constructor
  · rw [h]
  · rw [operands_swap lenient w a, operands_swap lenient w b, h]

/-- A text beside a number is replaced by what is read, brought together with the number. -/
theorem operands_str {s : String} {w x : Value} (hw : w.kind.isNumeric)
    (h : readNumber? s.toList w.kind = some x) : lenient.operands (.str s) w = reconcile x w := by
  have hkind : (Value.str s).kind ≠ w.kind := by
    intro hkind
    rw [← hkind] at hw
    cases hw
  unfold operands coerce?
  rw [if_neg hkind]
  show ((readText? _ _ <|> promote? _ _).getD _) = _
  rw [readText?_str hw, h]
  rfl

/-- Two numbers are brought together as they are. -/
theorem operands_numbers {v w : Value} (hv : v.kind.isNumeric) (hw : w.kind.isNumeric) :
    lenient.operands v w = reconcile v w := by
  unfold operands coerce?
  by_cases hkind : v.kind = w.kind
  · rw [if_pos hkind, reconcile, promote?_of_kind_eq hkind]
  · rw [if_neg hkind]
    show ((readText? v w <|> promote? v w).getD (v, w)) = _
    rw [readText?_eq_none (Or.inr hv) (Or.inr hw)]
    rfl

/-- **Texts of numbers**: digits in the range of unsigned integers meet a number as the integer
    that they denote. -/
theorem reconcile_uint {k : UInt64} {v w : Value} (h : StandsFor .none k.toNat w.kind v) :
    reconcile v w = reconcile (.uint k) w := by
  cases w with
  | uint a =>
    cases h with
    | uint hsign h => rw [UInt64.toNat_inj.1 h]
    | negative hsign => cases hsign
    | float hkind hfar => exact absurd (Or.inl ⟨by decide, k.toNat_lt⟩) hfar
  | int b =>
    show _ = meetInt k b
    cases h with
    | @int k' h =>
      have hvalue : k'.toInt = k.toNat := h
      have hfits : k.toNat < 2 ^ 63 := by
        have hhigh := k'.toInt_lt
        omega
      rw [meetInt, if_pos hfits, ← hvalue, Int64.ofInt_toInt]
      rfl
    | @float _ hkind hfar x hx =>
      -- Beyond the signed range the text becomes a float when it is read, and the integer when it
      -- is promoted. Both are rounded to the same one, and take the signed integer with them.
      have hbeyond : ¬ k.toNat < 2 ^ 63 := by
        intro hfits
        have hrange : -2 ^ 63 ≤ (k.toNat : Int) ∧ (k.toNat : Int) < 2 ^ 63 := by omega
        exact hfar hrange
      rw [meetInt, if_neg hbeyond, Binary64.ofInt_natCast,
        (Binary64.rounds_iff Nat.one_pos).1 hx]
      rfl
  | float y =>
    cases h with
    | @float _ hkind hfar x hx =>
      show _ = (Value.float (Binary64.ofInt k.toNat), Value.float y)
      rw [Binary64.ofInt_natCast, (Binary64.rounds_iff Nat.one_pos).1 hx]
      rfl
  | null | bool | str | timestamp =>
    cases h with
    | float hkind => cases hkind

/-! ### Integer texts under the lenient policy -/

/-- An integer text is replaced as the number that it stands for. -/
theorem operands_integerText {ds : List Char} (hds : IsDigits ds) (sign : Sign) {v w : Value}
    (hw : w.kind.isNumeric) (hv : StandsFor sign (Numeral.value ds) w.kind v) :
    lenient.operands (.str (String.ofList (sign.text ++ ds))) w = lenient.operands v w := by
  have hread : readNumber? (String.ofList (sign.text ++ ds)).toList w.kind = some v := by
    rw [String.toList_ofList, readNumber?_eq_some_iff hds hw]
    exact hv
  rw [operands_str hw hread, operands_numbers hv.isNumeric hw]

/-- So is the text of an unsigned integer, and the integer itself. -/
theorem operands_display_uint (k : UInt64) {w : Value} (hw : w.kind.isNumeric) :
    lenient.operands (.str (Value.uint k).display) w = lenient.operands (.uint k) w := by
  have hdigits := Numeral.isDigits_digits k.toNat
  obtain ⟨v, hv⟩ : ∃ v, StandsFor .none k.toNat w.kind v := exists_standsFor hw
  rw [← Numeral.value_digits k.toNat] at hv
  have htext : lenient.operands (.str (Value.uint k).display) w = lenient.operands v w :=
    operands_integerText hdigits .none hw hv
  rw [Numeral.value_digits] at hv
  rw [htext, operands_numbers hv.isNumeric hw, reconcile_uint hv]
  exact (operands_numbers rfl hw).symm

/-- **Integer texts**: beside a number, digits with a sign stand for one number, and a lenient node
    gives the same with either. So does one over the text of an unsigned integer and that integer
    itself. -/
theorem run_integer_text {ds : List Char} (hds : IsDigits ds) (sign : Sign) {w : Value}
    (hw : w.kind.isNumeric) :
    (∃! v, StandsFor sign (Nat.ofDigitChars 10 ds 0) w.kind v) ∧
      (∀ v, StandsFor sign (Nat.ofDigitChars 10 ds 0) w.kind v →
        Interchangeable (.str (String.ofList (sign.text ++ ds))) v w) ∧
      ∀ k : UInt64, Interchangeable (.str (Value.uint k).display) (.uint k) w := by
  rw [← Numeral.value_eq_ofDigitChars]
  refine ⟨?_, ?_, ?_⟩
  · obtain ⟨v, hv⟩ : ∃ v, StandsFor sign (Numeral.value ds) w.kind v := exists_standsFor hw
    refine ⟨v, hv, ?_⟩
    intro v' hv'
    -- A text is read as one number only.
    rw [← readNumber?_eq_some_iff hds hw] at hv hv'
    rw [hv, Option.some.injEq] at hv'
    exact hv'.symm
  · intro v hv
    exact interchangeable_of_operands_eq (operands_integerText hds sign hw hv)
  · intro k
    exact interchangeable_of_operands_eq (operands_display_uint k hw)

/-- One beyond the range, the text of an integer is taken for equal to the largest one. -/
theorem run_integer_text_beyond :
    IsDigits ['1', '8', '4', '4', '6', '7', '4', '4', '0', '7', '3', '7', '0', '9', '5', '5', '1',
        '6', '1', '6'] ∧
      (Value.uint 18446744073709551615).kind.isNumeric ∧
      ((Expr.binary (.comparison .eq) lenient (.constant (.str "18446744073709551616"))
        (.constant (.uint 18446744073709551615))).run Params.none ⟨Source.seeded 0, #[]⟩).1 =
          .ok (.bool true) := by
  have hdigits : IsDigits ['1', '8', '4', '4', '6', '7', '4', '4', '0', '7', '3', '7', '0', '9',
      '5', '5', '1', '6', '1', '6'] := by decide
  have hnumber : (Value.uint 18446744073709551615).kind.isNumeric := rfl
  have hstands : StandsFor .none (2 ^ 64) .uint (.float (Binary64.ofInt (2 ^ 64 : Nat))) := by
    refine .float rfl ?_ ((Binary64.rounds_iff Nat.one_pos).2 (Binary64.ofInt_natCast _))
    rintro (⟨-, hfits⟩ | ⟨hsign, -⟩)
    · exact absurd hfits (by decide)
    · cases hsign
  have hnodes := (run_integer_text hdigits .none hnumber).2.1 _ hstands (.comparison .eq)
    Params.none ⟨Source.seeded 0, #[]⟩
  have hplaces : Binary64.nearest (2 ^ 64 - 1) 1 = Binary64.nearest (2 ^ 64) 1 := by decide +kernel
  have hfloats : Binary64.ofInt (2 ^ 64 - 1 : Nat) = Binary64.ofInt (2 ^ 64 : Nat) := by
    rw [Binary64.ofInt_natCast, Binary64.ofInt_natCast, Binary64.ofRatio, Binary64.ofRatio,
      hplaces]
  have hequal : Binary64.equal (Binary64.ofInt (2 ^ 64 : Nat))
      (Binary64.ofInt (2 ^ 64 - 1 : Nat)) := by
    rw [hfloats, Binary64.equal_iff_level (Binary64.not_isNaN_ofInt _) (Binary64.not_isNaN_ofInt _)]
  refine ⟨hdigits, hnumber, hnodes.1.trans ?_⟩
  rw [run_constants, ← hequal]
  rfl

end DynExpr.Coercion
