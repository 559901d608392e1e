/-! # Texts in front of other texts

    A text that is written in front of another one can be told from it again
    if its end shows:

    * **Runs**: a run of characters of one class ends where a character of
      another class follows (`StopsAt`), so it can be split off in one way
      only (`append_inj_of_stopsAt`).
    * **Delimited texts**: texts that show their own end can be split off
      whatever follows (`Delimited`), and so different things have different
      texts.
-/

namespace DynExpr.Text

/-! ### Runs -/

/-- What follows is not of the class `p`: it starts with another character, or there is nothing. -/
def StopsAt (p : Char → Bool) (rest : List Char) : Prop := ∀ c ∈ rest.head?, p c = false

theorem stopsAt_nil (p : Char → Bool) : StopsAt p [] := by
  intro c hc
  cases hc

theorem stopsAt_cons {p : Char → Bool} {c : Char} (h : p c = false) (rest : List Char) :
    StopsAt p (c :: rest) := by
  intro d hd
  cases hd
  exact h

/-- A run is all that can be taken from its class. -/
theorem takeWhile_append_of_stopsAt {p : Char → Bool} {run rest : List Char}
    (hrun : ∀ c ∈ run, p c) (hrest : StopsAt p rest) : (run ++ rest).takeWhile p = run := by
  rw [List.takeWhile_append_of_pos hrun]
  cases rest with
  | nil => simp
  | cons c rest =>
    have hc : p c = false := hrest c rfl
    simp [hc]

/-- Two runs of one class that stop are the same, and so is what follows them. -/
theorem append_inj_of_stopsAt {p : Char → Bool} {run run' rest rest' : List Char}
    (hrun : ∀ c ∈ run, p c) (hrun' : ∀ c ∈ run', p c) (hrest : StopsAt p rest)
    (hrest' : StopsAt p rest') (h : run ++ rest = run' ++ rest') : run = run' ∧ rest = rest' := by
  have hsame : run = run' := by
    rw [← takeWhile_append_of_stopsAt hrun hrest, h, takeWhile_append_of_stopsAt hrun' hrest']
  subst hsame
  exact ⟨rfl, List.append_cancel_left h⟩

/-- Two texts without the character that closes them are the same, and so is what follows it. -/
theorem append_cons_inj {close : Char} {run run' rest rest' : List Char} (hrun : close ∉ run)
    (hrun' : close ∉ run') (h : run ++ close :: rest = run' ++ close :: rest') :
    run = run' ∧ rest = rest' := by
  have hother : ∀ {cs : List Char}, close ∉ cs → ∀ c ∈ cs, (c != close) = true := by
    intro cs hcs c hc
    rw [bne_iff_ne]
    rintro rfl
    exact hcs hc
  have hclose : ∀ rest, StopsAt (fun c => c != close) (close :: rest) :=
    stopsAt_cons (bne_self_eq_false close)
  obtain ⟨hsame, hrest⟩ := append_inj_of_stopsAt (hother hrun) (hother hrun') (hclose rest)
    (hclose rest') h
  exact ⟨hsame, (List.cons.inj hrest).2⟩

/-- If no word starts another one, a word can be told from what follows it. -/
theorem append_inj_of_prefix_free {words : List (List Char)}
    (hfree : ∀ word ∈ words, ∀ word' ∈ words, word <+: word' → word = word')
    {word word' rest rest' : List Char} (hword : word ∈ words) (hword' : word' ∈ words)
    (h : word ++ rest = word' ++ rest') : word = word' ∧ rest = rest' := by
  have hsame : word = word' := by
    rcases List.append_eq_append_iff.1 h with ⟨more, hmore, -⟩ | ⟨more, hmore, -⟩
    · exact hfree word hword word' hword' ⟨more, hmore.symm⟩
    · exact (hfree word' hword' word hword ⟨more, hmore.symm⟩).symm
  subst hsame
  exact ⟨rfl, List.append_cancel_left h⟩

/-! ### Delimited texts -/

/-- The texts that `write` gives can be split off from whatever follows them. -/
def Delimited {α : Type} (write : α → List Char) : Prop :=
  ∀ a b rest rest', write a ++ rest = write b ++ rest' → a = b ∧ rest = rest'

theorem Delimited.injective {α : Type} {write : α → List Char} (h : Delimited write) {a b : α}
    (hab : write a = write b) : a = b := by
  have hfollowed : write a ++ [] = write b ++ [] := by rw [hab]
  exact (h a b [] [] hfollowed).1

/-- A row of delimited texts can be split off in front of a character that none of them starts
    with. -/
theorem Delimited.flatMap {α : Type} {write : α → List Char} (h : Delimited write) {close : Char}
    (hclose : ∀ a rest rest', write a ++ rest ≠ close :: rest') (as bs : List α)
    (rest rest' : List Char)
    (heq : as.flatMap write ++ close :: rest = bs.flatMap write ++ close :: rest') :
    as = bs ∧ rest = rest' := by
  induction as generalizing bs with
  | nil =>
    cases bs with
    | nil => exact ⟨rfl, (List.cons.inj heq).2⟩
    | cons b bs =>
      rw [List.flatMap_cons, List.append_assoc] at heq
      exact absurd heq.symm (hclose b _ _)
  | cons a as ih =>
    cases bs with
    | nil =>
      rw [List.flatMap_cons, List.append_assoc] at heq
      exact absurd heq (hclose a _ _)
    | cons b bs =>
      rw [List.flatMap_cons, List.flatMap_cons, List.append_assoc, List.append_assoc] at heq
      obtain ⟨hab, hlater⟩ := h a b _ _ heq
      obtain ⟨hasbs, hrest⟩ := ih bs hlater
      exact ⟨by rw [hab, hasbs], hrest⟩

end DynExpr.Text
