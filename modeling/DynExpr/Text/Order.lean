/-! # Order of texts

    Texts are ordered by the bytes of their UTF-8 form: the first byte that
    differs decides, and a text comes before its own continuations.
-/

namespace DynExpr.Text

/-- The bytes of the UTF-8 form of a text. -/
def bytes (s : String) : List UInt8 := s.toList.flatMap String.utf8EncodeChar

/-- Lexicographic order of rows of bytes. -/
def compareBytes : List UInt8 → List UInt8 → Ordering
  | [], []           => .eq
  | [], _ :: _       => .lt
  | _ :: _, []       => .gt
  | a :: as, b :: bs => (Ord.compare a.toNat b.toNat).then (compareBytes as bs)

/-- The order of two texts. -/
def compare (s t : String) : Ordering := compareBytes (bytes s) (bytes t)

end DynExpr.Text
