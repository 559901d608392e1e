import DynExpr.Proofs.Binary64.ReadBack
import DynExpr.Proofs.Coercion.IntegerText

/-! # Floats written as text

    A lenient node reads the text of a float beside another float. The text
    has the shortest digits that are enough, so it reads back as the float
    that it was written for:

    * **What is read**: that float, bit by bit, in either order of the operands
      (`coerce?_floatText`). Only NaN, which has many words and one text, loses
      its bits.
    * **What is computed**: nodes over the text give what nodes over the float
      give.

    **`run_float_text`** says this of every word that a float can have.
-/

namespace DynExpr.Coercion

open Binary64 (infinity)

/-- The text of a float is read as that float. -/
theorem readNumber?_floatText (x : Float) :
    readNumber? (Value.float x).display.toList .float = some (.float x) := by
  have hread : Binary64.read? (Value.float x).display.toList = some x := by
    rw [Value.display, String.toList_ofList]
    exact Binary64.read?_text .plain x
  rw [readNumber?, readFloat?, hread]
  rfl

/-- Beside a float, the text of another one is replaced by what it was written for. -/
theorem coerce?_floatText (x y : Float) :
    lenient.coerce? (.str (Value.float x).display) (.float y) = some (.float x, .float y) := by
  have hkind : (Value.str (Value.float x).display).kind ≠ (Value.float y).kind := by
    intro h
    cases h
  have htext : readText? (.str (Value.float x).display) (.float y) =
      some (.float x, .float y) := by
    have hread : readNumber? (Value.float x).display.toList (Value.float y).kind =
        some (.float x) := readNumber?_floatText x
    rw [readText?_str rfl, hread]
    -- What is read and the partner are of one kind already.
    rfl
  unfold coerce?
  rw [if_neg hkind]
  show (readText? _ _ <|> promote? _ _) = _
  rw [htext]
  rfl

/-- So an operator is applied to the two floats, as it is without the text. -/
theorem operands_floatText (x y : Float) :
    lenient.operands (.str (Value.float x).display) (.float y) =
      lenient.operands (.float x) (.float y) := by
  have hfloats : lenient.operands (.float x) (.float y) = (.float x, .float y) :=
    operands_of_kind_eq lenient rfl
  rw [hfloats, operands, coerce?_floatText]
  rfl

/-- **Float texts**: beside a float, on either side, the text of the float of any word is replaced
    by that float, which has just this word, unless it is a word of NaN, and the other float
    stays as it is. So a lenient node gives the same over the text as over the float. -/
theorem run_float_text (word : UInt64) (y : Float) :
    lenient.coerce? (.str (Value.float (Float.ofBits word)).display) (.float y) =
        some (.float (Float.ofBits word), .float y) ∧
      lenient.coerce? (.float y) (.str (Value.float (Float.ofBits word)).display) =
        some (.float y, .float (Float.ofBits word)) ∧
      (word.toNat % 2 ^ 63 ≤ infinity → (Float.ofBits word).toBits = word) ∧
      (infinity < word.toNat % 2 ^ 63 → (Float.ofBits word).isNaN) ∧
      Interchangeable (.str (Value.float (Float.ofBits word)).display)
        (.float (Float.ofBits word)) (.float y) := by
  have hcoerce : lenient.coerce? (.str (Value.float (Float.ofBits word)).display) (.float y) =
      some (.float (Float.ofBits word), .float y) := coerce?_floatText _ y
  have hswapped : lenient.coerce? (.float y) (.str (Value.float (Float.ofBits word)).display) =
      some (.float y, .float (Float.ofBits word)) := by
    rw [coerce?_swap, hcoerce]
    rfl
  exact ⟨hcoerce, hswapped, Binary64.toBits_ofBits, (Binary64.isNaN_ofBits_iff word).2,
    interchangeable_of_operands_eq (operands_floatText _ y)⟩

end DynExpr.Coercion
