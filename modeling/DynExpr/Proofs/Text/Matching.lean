import DynExpr.Pattern
import Mathlib.Data.List.Basic
import Mathlib.Logic.ExistsUnique

/-! # What patterns match

    The language of patterns, without the steps of reading and searching:

    * **Reading**: `Reads` says which needle a text is read as, and where other
      text may stand around it. Every text is read in one way
      (`reads_ofChars`, `Reads.unique`).
    * **Matching**: `Matches` says how a subject is cut around the needle. It is
      what `accepts` decides (`accepts_iff`).

    **`like_iff_matches`** puts both together.
-/

namespace DynExpr.Pattern

/-! ### Reading -/

/-- A wildcard, or nothing. -/
def mark (present : Bool) : List Char := if present then [wildcard] else []

/-- A text is read as a pattern: the needle with its wildcards. A wildcard at the front of the
    text is always taken for one, and so is a wildcard at the end of what is left. -/
structure Reads (text : List Char) (p : Pattern) : Prop where
  text_eq : text = mark p.openFront ++ (p.needle ++ mark p.openBack)
  openFront_of_head : text.head? = some wildcard → p.openFront
  openBack_of_last : p.needle.getLast? = some wildcard → p.openBack

theorem dropBack_eq (cs : List Char) : (dropBack cs).2 ++ mark (dropBack cs).1 = cs := by
  unfold dropBack
  split
  · next h => exact List.dropLast_append_getLast? wildcard h
  · exact List.append_nil cs

/-- The end of a text is open if its last character is a wildcard, or if it was not taken off. -/
theorem openBack_of_dropBack {cs : List Char} (h : (dropBack cs).2.getLast? = some wildcard) :
    (dropBack cs).1 := by
  unfold dropBack at h ⊢
  split at h
  · next hlast => rw [if_pos hlast]
  · next hlast => exact absurd h hlast

/-- A text is read as the pattern that is computed from it. -/
theorem reads_ofChars (text : List Char) : Reads text (ofChars text) := by
  cases text with
  | nil => exact ⟨rfl, nofun, nofun⟩
  | cons c rest =>
    by_cases hc : c = wildcard
    · have hread : ofChars (c :: rest) = ⟨true, (dropBack rest).2, (dropBack rest).1⟩ := by
        simp only [ofChars, if_pos hc]
      rw [hread]
      refine ⟨?_, fun _ => rfl, openBack_of_dropBack⟩
      show c :: rest = wildcard :: ((dropBack rest).2 ++ mark (dropBack rest).1)
      rw [dropBack_eq, hc]
    · have hread : ofChars (c :: rest) =
          ⟨false, (dropBack (c :: rest)).2, (dropBack (c :: rest)).1⟩ := by
        simp only [ofChars, if_neg hc]
      rw [hread]
      refine ⟨(dropBack_eq _).symm, fun hhead => ?_, openBack_of_dropBack⟩
      exact absurd (Option.some.inj hhead) hc

theorem Reads.openFront_iff {text : List Char} {p : Pattern} (h : Reads text p) :
    p.openFront ↔ text.head? = some wildcard := by
  refine ⟨fun hopen => ?_, h.openFront_of_head⟩
  rw [h.text_eq, hopen]
  rfl

/-- What is behind the wildcard at the front ends in a wildcard if the end is open. -/
theorem Reads.openBack_iff {text : List Char} {p : Pattern} (h : Reads text p) :
    p.openBack ↔ (p.needle ++ mark p.openBack).getLast? = some wildcard := by
  constructor
  · intro hopen
    rw [hopen]
    exact List.getLast?_concat
  · intro hlast
    by_contra hclosed
    rw [Bool.not_eq_true] at hclosed
    rw [hclosed] at hlast
    have hneedle : p.needle.getLast? = some wildcard := by
      rwa [mark, if_neg Bool.false_ne_true, List.append_nil] at hlast
    have hopen := h.openBack_of_last hneedle
    rw [hclosed] at hopen
    cases hopen

/-- A text is read in one way only. -/
theorem Reads.unique {text : List Char} {p q : Pattern} (hp : Reads text p) (hq : Reads text q) :
    p = q := by
  have hfront : p.openFront = q.openFront := by
    rw [Bool.eq_iff_iff, hp.openFront_iff, hq.openFront_iff]
  have hrest : p.needle ++ mark p.openBack = q.needle ++ mark q.openBack := by
    have htext := hp.text_eq.symm.trans hq.text_eq
    rw [hfront] at htext
    exact List.append_cancel_left htext
  have hback : p.openBack = q.openBack := by
    rw [Bool.eq_iff_iff, hp.openBack_iff, hq.openBack_iff, hrest]
  have hneedle : p.needle = q.needle := by
    rw [hback] at hrest
    exact List.append_cancel_right hrest
  rcases p with ⟨front, needle, back⟩
  rcases q with ⟨front', needle', back'⟩
  rw [Pattern.mk.injEq]
  exact ⟨hfront, hneedle, hback⟩

/-- Only the outermost wildcards are taken off. -/
example : ofChars ['%', '%', 'a', '%', '%'] = ⟨true, ['%', 'a', '%'], true⟩ := by decide

/-! ### Matching -/

/-- The needle is empty, or the subject is the needle with text before it and after it, and with
    none on a side that is not open. -/
def Matches (p : Pattern) (subject : List Char) : Prop :=
  p.needle = [] ∨ ∃ before after, subject = before ++ p.needle ++ after ∧
    (before = [] ∨ p.openFront) ∧ (after = [] ∨ p.openBack)

/-- A pattern accepts the texts that it matches. -/
theorem accepts_iff (p : Pattern) (subject : List Char) :
    p.accepts subject ↔ p.Matches subject := by
  obtain ⟨front, needle, back⟩ := p
  unfold accepts Matches
  rw [Bool.or_eq_true, List.isEmpty_iff]
  apply or_congr Iff.rfl
  cases front <;> cases back <;>
    simp only [Bool.false_eq_true, or_false, or_true, and_true, true_and]
  · rw [beq_iff_eq]
    constructor
    · rintro rfl
      exact ⟨[], [], (List.append_nil _).symm, rfl, rfl⟩
    · rintro ⟨before, after, rfl, rfl, rfl⟩
      exact (List.append_nil _).symm
  · rw [List.isPrefixOf_iff_prefix]
    constructor
    · rintro ⟨after, rfl⟩
      exact ⟨[], after, rfl, rfl⟩
    · rintro ⟨before, after, rfl, rfl⟩
      exact List.prefix_append needle after
  · rw [List.isSuffixOf_iff_suffix]
    constructor
    · rintro ⟨before, rfl⟩
      exact ⟨before, [], (List.append_nil _).symm, rfl⟩
    · rintro ⟨before, after, rfl, rfl⟩
      rw [List.append_nil]
      exact List.suffix_append before needle
  · rw [occursIn_iff]
    constructor
    · rintro ⟨before, after, rfl⟩
      exact ⟨before, after, rfl⟩
    · rintro ⟨before, after, rfl⟩
      exact ⟨before, after, rfl⟩

/-- **The language of patterns**: a pattern is read in one way, and a subject is like it if it
    matches what was read. Without a wildcard at either end, a pattern that is not empty matches
    itself alone. -/
theorem like_iff_matches (subject pattern : String) :
    (∃! p, Reads pattern.toList p) ∧
    (∀ p, Reads pattern.toList p → (like subject pattern ↔ p.Matches subject.toList)) ∧
    (pattern ≠ "" → pattern.toList.head? ≠ some wildcard →
      pattern.toList.getLast? ≠ some wildcard → (like subject pattern ↔ subject = pattern)) := by
  have hlike : ∀ p, Reads pattern.toList p → (like subject pattern ↔ p.Matches subject.toList) := by
    intro p hp
    rw [like, hp.unique (reads_ofChars _)]
    exact accepts_iff _ _
  refine ⟨⟨_, reads_ofChars _, fun p hp => hp.unique (reads_ofChars _)⟩, hlike, ?_⟩
  intro hne hhead hlast
  have hread : Reads pattern.toList ⟨false, pattern.toList, false⟩ :=
    ⟨(List.append_nil _).symm, fun h => absurd h hhead, fun h => absurd h hlast⟩
  have hneedle : pattern.toList ≠ [] := by
    rw [Ne, String.toList_eq_nil_iff]
    exact hne
  rw [hlike _ hread, ← String.toList_inj, Matches, or_iff_right hneedle]
  constructor
  · rintro ⟨before, after, hcut, hbefore, hafter⟩
    rw [or_iff_left Bool.false_ne_true] at hbefore hafter
    rw [hcut, hbefore, hafter, List.nil_append, List.append_nil]
  · intro hsame
    exact ⟨[], [], hsame.trans (List.append_nil _).symm, Or.inl rfl, Or.inl rfl⟩

end DynExpr.Pattern
