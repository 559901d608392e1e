import DynExpr.Proofs.Comparison.Coherence
import DynExpr.Proofs.Comparison.ValueOrder

/-! # Texts in the order of their characters

    Texts are compared by the bytes of their UTF-8 form, and that is the order
    of their code points:

    * **One character**: the first byte of a character shows how many there
      are, and is larger for longer characters. So the bytes of two characters
      are in the order of the code points, whatever follows
      (`compare_utf8Row_append`).
    * **Texts**: character by character, bytes and code points are decided at
      the same place (`compare_eq_codePoints`). A text that ends there comes
      first in both.

    **`run_by_code_points`** says this of values and of comparison nodes.
-/

namespace DynExpr

namespace Text

/-- The code points of a text. -/
def codePoints (s : String) : List Nat := s.toList.map Char.toNat

theorem codePoints_injective : Function.Injective codePoints := by
  have hchar : Function.Injective Char.toNat := fun _ _ h => Char.toNat_inj.1 h
  intro s t h
  exact String.toList_inj.1 (List.map_injective_iff.2 hchar h)

/-! ### One character -/

/-- The bytes of a character as numbers: the digits of its code point to base 64, with marks in
    front. The mark of the first byte says how many bytes there are. -/
def utf8Row (n : Nat) : List Nat :=
  if n ≤ 0x7f then [n]
  else if n ≤ 0x7ff then [n / 64 + 0xc0, n % 64 + 0x80]
  else if n ≤ 0xffff then [n / 4096 + 0xe0, n / 64 % 64 + 0x80, n % 64 + 0x80]
  else [n / 262144 + 0xf0, n / 4096 % 64 + 0x80, n / 64 % 64 + 0x80, n % 64 + 0x80]

theorem utf8EncodeChar_toNat (c : Char) :
    (String.utf8EncodeChar c).map UInt8.toNat = utf8Row c.toNat := by
  have hword : c.toNat = c.val.toNat := rfl
  have hvalid : c.val.toNat < 0x110000 := by
    have hc := c.valid
    simp only [UInt32.isValidChar, Nat.isValidChar] at hc
    omega
  rw [hword]
  unfold String.utf8EncodeChar utf8Row
  generalize c.val.toNat = n at hvalid ⊢
  dsimp only
  -- Each byte is below 256, so that nothing is lost when it is stored.
  split_ifs
  all_goals
    simp only [List.map_cons, List.map_nil, UInt8.toNat_ofNat', List.cons.injEq, and_true]
    omega

theorem utf8Row_ne_nil (n : Nat) : utf8Row n ≠ [] := by
  unfold utf8Row
  split_ifs
  all_goals exact List.cons_ne_nil _ _

/-- The bytes of the smaller code point come first. Of two characters with equally many bytes the
    digits decide, and of others the marks of the first bytes. -/
theorem compare_utf8Row_append_of_lt {n m : Nat} (h : n < m) (as bs : List Nat) :
    Ord.compare (utf8Row n ++ as) (utf8Row m ++ bs) = .lt := by
  unfold utf8Row
  split_ifs
  all_goals
    simp only [List.cons_append, List.nil_append, List.compare_cons_cons, Ordering.then_eq_lt,
      compare_lt_iff_lt, compare_eq_iff_eq]
    omega

/-- What stands behind one and the same row does not change places. -/
theorem compare_append_left (row as bs : List Nat) :
    Ord.compare (row ++ as) (row ++ bs) = Ord.compare as bs := by
  induction row with
  | nil => rfl
  | cons n row ih =>
    rw [List.cons_append, List.cons_append, List.compare_cons_cons, compare_eq_iff_eq.2 rfl, ih]
    rfl

theorem compare_utf8Row_append (n m : Nat) (as bs : List Nat) :
    Ord.compare (utf8Row n ++ as) (utf8Row m ++ bs) =
      (Ord.compare n m).then (Ord.compare as bs) := by
  rcases Nat.lt_trichotomy n m with h | rfl | h
  · rw [compare_utf8Row_append_of_lt h, compare_lt_iff_lt.2 h]
    rfl
  · rw [compare_append_left, compare_eq_iff_eq.2 rfl]
    rfl
  · rw [Std.OrientedOrd.eq_swap, compare_utf8Row_append_of_lt h, compare_gt_iff_gt.2 h]
    rfl

/-! ### Texts -/

theorem bytes_toNat (s : String) : (bytes s).map UInt8.toNat = (codePoints s).flatMap utf8Row := by
  unfold bytes codePoints
  rw [List.map_flatMap, List.flatMap_map]
  simp only [utf8EncodeChar_toNat]

/-- Rows of characters are in the order of their bytes. -/
theorem compare_flatMap_utf8Row (ns ms : List Nat) :
    Ord.compare (ns.flatMap utf8Row) (ms.flatMap utf8Row) = Ord.compare ns ms := by
  induction ns generalizing ms with
  | nil =>
    cases ms with
    | nil => rfl
    | cons m ms =>
      obtain ⟨b, bs, hrow⟩ := List.exists_cons_of_ne_nil (utf8Row_ne_nil m)
      rw [List.flatMap_cons, hrow]
      rfl
  | cons n ns ih =>
    cases ms with
    | nil =>
      obtain ⟨b, bs, hrow⟩ := List.exists_cons_of_ne_nil (utf8Row_ne_nil n)
      rw [List.flatMap_cons, hrow]
      rfl
    | cons m ms =>
      rw [List.flatMap_cons, List.flatMap_cons, compare_utf8Row_append, ih,
        List.compare_cons_cons]

/-- Texts are in the order of their code points. -/
theorem compare_eq_codePoints (s t : String) :
    compare s t = Ord.compare (codePoints s) (codePoints t) := by
  rw [compare, compareBytes_eq, bytes_toNat, bytes_toNat, compare_flatMap_utf8Row]

/-- The order of rows is lexicographic: the first difference decides, and a row comes before its
    continuations. -/
theorem compare_eq_lt_iff (ns ms : List Nat) : Ord.compare ns ms = .lt ↔ ns < ms := by
  induction ns generalizing ms with
  | nil =>
    cases ms with
    | nil => exact iff_of_false nofun (List.not_lt_nil [])
    | cons m ms => exact iff_of_true rfl (List.nil_lt_cons m ms)
  | cons n ns ih =>
    cases ms with
    | nil => exact iff_of_false nofun (List.not_lt_nil _)
    | cons m ms =>
      rw [List.compare_cons_cons, Ordering.then_eq_lt, compare_lt_iff_lt, compare_eq_iff_eq, ih,
        List.cons_lt_cons_iff]

end Text

open Text (codePoints)

/-- **Order of texts**: two texts are in the lexicographic order of their code points, both as
    values and for the nodes of all comparisons under every policy. So the node `<` is true if the
    code points of the left text are less than those of the right one, and the other orders
    accordingly. The smaller code point decides at the first difference, a text comes before its
    continuations, and only identical texts are equal. -/
theorem run_by_code_points (s t : String) :
    Value.compare? (.str s) (.str t) = some (compare (codePoints s) (codePoints t)) ∧
    (∀ (c : Comparison) (policy : Coercion) (params : Params) (state : EvalState),
      ((Expr.binary (.comparison c) policy (.constant (.str s)) (.constant (.str t))).run params
        state).1 = .ok (.bool (c.holds (compare (codePoints s) (codePoints t))))) ∧
    (∃ answer : Comparison → Bool,
      (∀ (c : Comparison) (policy : Coercion) (params : Params) (state : EvalState),
        ((Expr.binary (.comparison c) policy (.constant (.str s)) (.constant (.str t))).run params
          state).1 = .ok (.bool (answer c))) ∧
      (answer .lt ↔ codePoints s < codePoints t) ∧ (answer .le ↔ codePoints s ≤ codePoints t) ∧
      (answer .gt ↔ codePoints t < codePoints s) ∧ (answer .ge ↔ codePoints t ≤ codePoints s) ∧
      (answer .eq ↔ s = t) ∧ (answer .ne ↔ s ≠ t)) ∧
    (compare (codePoints s) (codePoints t) = .lt ↔ codePoints s < codePoints t) ∧
    (compare (codePoints s) (codePoints t) = .gt ↔ codePoints t < codePoints s) ∧
    (∀ n ns, codePoints t = codePoints s ++ n :: ns →
      compare (codePoints s) (codePoints t) = .lt) ∧
    (compare (codePoints s) (codePoints t) = .eq ↔ s = t) := by
  have horder := Text.compare_eq_codePoints s t
  have hequal := Text.codePoints_injective.eq_iff (a := s) (b := t)
  have hnode : ∀ (c : Comparison) (policy : Coercion) (params : Params) (state : EvalState),
      ((Expr.binary (.comparison c) policy (.constant (.str s)) (.constant (.str t))).run params
        state).1 = .ok (.bool (c.holds (compare (codePoints s) (codePoints t)))) := by
    intro c policy params state
    have hkept : policy.operands (.str s) (.str t) = (.str s, .str t) :=
      policy.operands_of_kind_eq rfl
    rw [Comparison.run_node, Comparison.holdsUnder, hkept, ← horder]
    rfl
  have hasserts := Comparison.holds_iff_asserts (Text.compare_eq_lt_iff (codePoints s)
    (codePoints t)) Std.LawfulEqOrd.compare_eq_iff_eq
  refine ⟨congrArg some horder, hnode, ⟨_, hnode, ?_⟩, Text.compare_eq_lt_iff _ _, ?_, ?_, ?_⟩
  · exact ⟨hasserts .lt, hasserts .le, hasserts .gt, hasserts .ge, (hasserts .eq).trans hequal,
      (hasserts .ne).trans hequal.not⟩
  · rw [Std.OrientedCmp.gt_iff_lt, Text.compare_eq_lt_iff]
  · intro n ns hlonger
    have hbehind := Text.compare_append_left (codePoints s) [] (n :: ns)
    rw [List.append_nil] at hbehind
    rw [hlonger, hbehind]
    rfl
  · rw [Std.LawfulEqOrd.compare_eq_iff_eq, hequal]

end DynExpr
