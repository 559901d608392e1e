import DynExpr.Binary64.Text
import DynExpr.Text.Quoted
import DynExpr.Value

/-! # The texts of a value

    * `Value.display` is the text shown to a reader: strings stand bare, and
      null has a placeholder.
    * `Value.structural` also tells the kind, and quotes strings, so that
      different values have different texts.
-/

namespace DynExpr.Value

/-- The placeholder for null. -/
def nullText : String := "<nil>"

/-- The text of a truth value. -/
def boolText (b : Bool) : String := if b then "true" else "false"

/-- The text that a value contributes to a concatenation or a rendering. -/
def display : Value → String
  | null        => nullText
  | bool b      => boolText b
  | uint n      => String.ofList (Numeral.digits n.toNat)
  | int n       => String.ofList (Numeral.ofInt n.toInt)
  | float x     => String.ofList (Binary64.text .plain x)
  | str s       => s
  | timestamp t => String.ofList t.text

/-- The text of a value with its kind. -/
def structural : Value → String
  | null        => "Null"
  | bool b      => "Bool(" ++ boolText b ++ ")"
  | uint n      => "UInt(" ++ String.ofList (Numeral.digits n.toNat) ++ ")"
  | int n       => "Int(" ++ String.ofList (Numeral.ofInt n.toInt) ++ ")"
  | float x     => "Float(" ++ String.ofList (Binary64.text .structural x) ++ ")"
  | str s       => "Str(" ++ Text.quoted s ++ ")"
  | timestamp t => "Timestamp(" ++ String.ofList t.text ++ ")"

end DynExpr.Value
