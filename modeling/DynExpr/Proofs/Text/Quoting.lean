import DynExpr.Proofs.Text.Delimited
import DynExpr.Text.Quoted

/-! # Quoted text can be told from what follows it

    * **Escapes**: a character stands for itself, or has a mark behind a
      backslash, or is written by its number (`Escaped`). No two characters
      are written so that one text could start with either
      (`escape_delimited`).
    * **Quotes**: no escaped character starts with a quote, so the first one
      that is not escaped closes the text (`quoted_delimited`).
-/

namespace DynExpr.Text

/-! ### Hexadecimal digits -/

theorem digitChar_lt_sixteen : ∀ d < 16, d.digitChar ≠ '\x7d' ∧ ∀ e < 16,
    d.digitChar = e.digitChar → d = e := by
  decide

theorem brace_not_mem_toDigits (n : Nat) : '\x7d' ∉ Nat.toDigits 16 n := by
  induction n using Nat.strongRecOn with
  | ind n ih =>
    intro h
    rw [Nat.toDigits_eq_if (by decide)] at h
    by_cases hn : n < 16
    · rw [if_pos hn, List.mem_singleton] at h
      exact (digitChar_lt_sixteen n hn).1 h.symm
    · rw [if_neg hn, List.mem_append, List.mem_singleton] at h
      rcases h with hmem | hlast
      · exact ih (n / 16) (by omega) hmem
      · exact (digitChar_lt_sixteen (n % 16) (Nat.mod_lt n (by decide))).1 hlast.symm

theorem toDigits_sixteen_injective {n m : Nat} (h : Nat.toDigits 16 n = Nat.toDigits 16 m) :
    n = m := by
  -- One digit is not the last one behind others.
  have hshort (d k : Nat) (c : Char) : [d.digitChar] ≠ Nat.toDigits 16 k ++ [c] := by
    intro heq
    have hlength := congrArg List.length heq
    have hpos : 0 < (Nat.toDigits 16 k).length := Nat.length_toDigits_pos
    rw [List.length_append, List.length_singleton, List.length_singleton] at hlength
    omega
  induction n using Nat.strongRecOn generalizing m with
  | ind n ih =>
    rw [Nat.toDigits_eq_if (n := n) (by decide), Nat.toDigits_eq_if (n := m) (by decide)] at h
    by_cases hn : n < 16
    · by_cases hm : m < 16
      · rw [if_pos hn, if_pos hm, List.cons.injEq] at h
        exact (digitChar_lt_sixteen n hn).2 m hm h.1
      · rw [if_pos hn, if_neg hm] at h
        exact absurd h (hshort _ _ _)
    · by_cases hm : m < 16
      · rw [if_neg hn, if_pos hm] at h
        exact absurd h.symm (hshort _ _ _)
      · rw [if_neg hn, if_neg hm] at h
        obtain ⟨hfront, hlast⟩ := List.append_inj' h rfl
        have hquotient : n / 16 = m / 16 := ih (n / 16) (by omega) hfront
        have hrest : n % 16 = m % 16 :=
          (digitChar_lt_sixteen (n % 16) (Nat.mod_lt n (by decide))).2 (m % 16)
            (Nat.mod_lt m (by decide)) (List.cons.inj hlast).1
        omega

/-! ### Escapes -/

/-- The characters with a mark of their own behind the backslash. -/
def marks : List (Char × Char) :=
  [('"', '"'), ('\\', '\\'), ('n', '\n'), ('r', '\r'), ('t', '\t'), ('0', '\x00')]

/-- The ways in which a character is written between quotes. -/
inductive Escaped (c : Char) : List Char → Prop where
  | plain : c ≠ '\\' → c ≠ '"' → Escaped c [c]
  | mark (m : Char) : (m, c) ∈ marks → Escaped c ['\\', m]
  | number : Escaped c ('\\' :: 'u' :: '\x7b' :: (Nat.toDigits 16 c.toNat ++ ['\x7d']))

theorem escaped_escape (c : Char) : Escaped c (escape c) := by
  unfold escape
  split
  · exact .mark '"' (by decide)
  · exact .mark '\\' (by decide)
  · exact .mark 'n' (by decide)
  · exact .mark 'r' (by decide)
  · exact .mark 't' (by decide)
  · exact .mark '0' (by decide)
  · next hquote hbackslash _ _ _ _ =>
    split
    · exact .number
    · exact .plain hbackslash hquote

/-- A mark stands for one character, and the mark of a number is none of them. -/
theorem marks_functional : ∀ p ∈ marks, p.1 ≠ 'u' ∧ ∀ q ∈ marks, p.1 = q.1 → p.2 = q.2 := by
  decide

/-- Escaped characters can be split off whatever follows them. -/
theorem escape_delimited : Delimited escape := by
  intro c d rest rest' h
  have hc := escaped_escape c
  have hd := escaped_escape d
  revert h
  generalize escape c = cs at hc ⊢
  generalize escape d = ds at hd ⊢
  intro h
  cases hc with
  | plain hbackslash hquote =>
    cases hd with
    | plain => exact ⟨(List.cons.inj h).1, (List.cons.inj h).2⟩
    | mark | number => exact absurd (List.cons.inj h).1 hbackslash
  | mark m hm =>
    cases hd with
    | plain hbackslash => exact absurd (List.cons.inj h).1.symm hbackslash
    | mark m' hm' =>
      simp only [List.cons_append, List.nil_append, List.cons.injEq, true_and] at h
      exact ⟨(marks_functional _ hm).2 _ hm' h.1, h.2⟩
    | number =>
      simp only [List.cons_append, List.cons.injEq, true_and] at h
      exact absurd h.1 (marks_functional _ hm).1
  | number =>
    cases hd with
    | plain hbackslash => exact absurd (List.cons.inj h).1.symm hbackslash
    | mark m hm =>
      simp only [List.cons_append, List.cons.injEq, true_and] at h
      exact absurd h.1.symm (marks_functional _ hm).1
    | number =>
      simp only [List.cons_append, List.append_assoc, List.nil_append, List.cons.injEq,
        true_and] at h
      obtain ⟨hnumbers, hrest⟩ := append_cons_inj (brace_not_mem_toDigits c.toNat)
        (brace_not_mem_toDigits d.toNat) h
      exact ⟨Char.toNat_inj.1 (toDigits_sixteen_injective hnumbers), hrest⟩

/-! ### Quotes -/

/-- An escaped character does not start with a quote. -/
theorem escape_append_ne_quote (c : Char) (rest rest' : List Char) :
    escape c ++ rest ≠ '"' :: rest' := by
  have hc := escaped_escape c
  generalize escape c = cs at hc ⊢
  cases hc with
  | plain _ hquote => exact fun h => hquote (List.cons.inj h).1
  | mark | number => exact fun h => nomatch (List.cons.inj h).1

/-- Quoted texts can be split off whatever follows them. -/
theorem quoted_delimited : Delimited fun s => (quoted s).toList := by
  intro s t rest rest' h
  simp only [quoted, String.toList_ofList, List.append_assoc, List.cons_append, List.nil_append,
    List.cons.injEq, true_and] at h
  obtain ⟨hchars, hrest⟩ := escape_delimited.flatMap escape_append_ne_quote _ _ rest rest' h
  exact ⟨String.toList_inj.1 hchars, hrest⟩

end DynExpr.Text
