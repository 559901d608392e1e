import DynExpr.Text.Hidden

/-! # Quoted text

    A quoted text stands between double quotes. Characters that could not be
    told apart or seen there are escaped by a backslash:

    * the quote and the backslash stand behind a backslash;
    * newline, carriage return, tab and NUL have a letter each;
    * every other character that does not show by itself is written by its
      number in hexadecimal digits.
-/

namespace DynExpr.Text

/-- How one character is written between quotes. -/
def escape (c : Char) : List Char :=
  match c with
  | '"'    => ['\\', '"']
  | '\\'   => ['\\', '\\']
  | '\n'   => ['\\', 'n']
  | '\r'   => ['\\', 'r']
  | '\t'   => ['\\', 't']
  | '\x00' => ['\\', '0']
  | c      =>
    if isHidden c then ['\\', 'u', '\x7b'] ++ Nat.toDigits 16 c.toNat ++ ['\x7d'] else [c]

/-- A text between double quotes. -/
def quoted (s : String) : String := String.ofList ('"' :: s.toList.flatMap escape ++ ['"'])

end DynExpr.Text
