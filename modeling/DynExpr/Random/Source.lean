import DynExpr.Binary64.Grid
import DynExpr.Random.ChaCha

/-! # Random sources

    A source is an endless stream of draws together with the number of those
    already taken. The draws of a seeded source are fractions with 53 binary
    digits, spread evenly from 0 up to and without 1.
-/

namespace DynExpr

namespace Random

/-- The 53-bit numerator of draw number `i`: words `2 * i` and `2 * i + 1` of the stream, the
    first one the low half, with the lowest eleven bits cut off. A block holds the words of
    eight draws. -/
def numerator (key : Key) (i : Nat) : Nat :=
  let words := block key (UInt64.ofNat (i / 8))
  let low := words.get ⟨2 * i % 16, Nat.mod_lt _ (by decide)⟩
  let high := words.get ⟨(2 * i + 1) % 16, Nat.mod_lt _ (by decide)⟩
  (low.toNat + high.toNat * 2 ^ 32) / 2 ^ 11

/-- Draw number `i` under a key. -/
def draw (key : Key) (i : Nat) : Float := Binary64.ofRatio false (numerator key i) (2 ^ 53)

end Random

/-- A stream of draws that is being read. -/
structure Source where
  /-- All draws, from the first on. -/
  stream : Nat → Float
  /-- How many of them have been taken. -/
  taken : Nat

namespace Source

/-- The source of a seed, with nothing taken yet. -/
def seeded (seed : UInt64) : Source :=
  let key := Random.Key.ofSeed seed
  ⟨Random.draw key, 0⟩

/-- Takes the next draw. -/
def next (s : Source) : Float × Source := (s.stream s.taken, { s with taken := s.taken + 1 })

/-- The next draws, in order. -/
def upcoming (s : Source) (n : Nat) : List Float :=
  (List.range n).map fun i => s.stream (s.taken + i)

/-- Leaves out some draws. -/
def skip (s : Source) (n : Nat) : Source := { s with taken := s.taken + n }

/-- Takes some draws, in order. -/
def takeDraws (s : Source) (n : Nat) : List Float × Source := (s.upcoming n, s.skip n)

end Source

end DynExpr
