/-! # Patterns

    A pattern is a text that may have a wildcard `%` at its front, at its
    end, or at both; a lone `%` counts as one at the front. What is left
    between them is the needle. A `%` elsewhere stands for itself, and there
    are no escapes.
-/

namespace DynExpr

/-- A text to look for, and whether other text may stand before and after it. -/
structure Pattern where
  openFront : Bool
  needle : List Char
  openBack : Bool
deriving DecidableEq

namespace Pattern

/-- The wildcard. -/
def wildcard : Char := '%'

/-- Takes one wildcard off the end of a text, if there is one. -/
def dropBack (cs : List Char) : Bool × List Char :=
  if cs.getLast? = some wildcard then (true, cs.dropLast) else (false, cs)

/-- Reads a pattern: first a wildcard at the front is taken off, then one at the end of what
    is left. -/
def ofChars (cs : List Char) : Pattern :=
  let (front, rest) := match cs with
    | c :: rest => if c = wildcard then (true, rest) else (false, cs)
    | []        => (false, [])
  let (back, needle) := dropBack rest
  ⟨front, needle, back⟩

/-- Does a row of characters occur somewhere in a text? The search goes through the text once,
    and never back. -/
def occursIn (needle cs : List Char) : Bool := (String.ofList cs).contains (String.ofList needle)

/-- It occurs if and only if the text can be cut before and after it. -/
theorem occursIn_iff (needle cs : List Char) : occursIn needle cs ↔ needle <:+: cs := by
  rw [occursIn, String.contains_string_iff, String.toList_ofList, String.toList_ofList]

/-- Does a text match? An empty needle matches every text. Otherwise the needle is the whole
    text, or its front, its end or any part of it, as the wildcards permit. -/
def accepts (p : Pattern) (cs : List Char) : Bool :=
  p.needle.isEmpty ||
    match p.openFront, p.openBack with
    | false, false => p.needle == cs
    | false, true  => p.needle.isPrefixOf cs
    | true, false  => p.needle.isSuffixOf cs
    | true, true   => occursIn p.needle cs

end Pattern

/-- Does the subject match the pattern? -/
def like (subject pattern : String) : Bool :=
  (Pattern.ofChars pattern.toList).accepts subject.toList

end DynExpr
