import DynExpr.Proofs.Binary64.ReadBack

/-! # Numeric literals

    The texts that the readers of numbers accept, told by their form and not
    by how they are read:

    * **Signs**: all readers of numbers split off an optional sign first and
      go on with what follows it (`Sign.exists_eq`).
    * **Integers**: a sign and one or more digits (`readInt?_eq_some_iff`,
      `readNat?_eq_some_iff`).
    * **Floats**: a sign, and then a word or digits with an optional point and
      exponent (`read?_isSome_iff`).

    An integer literal is a float literal as well, and the float that it reads
    as is the nearest one to the integer (`read?_digits`).
-/

namespace DynExpr

/-! ### Signs -/

namespace Numeral

/-- The sign that is written in front of a number, if any. -/
inductive Sign where
  | none
  | plus
  | minus
deriving DecidableEq

namespace Sign

/-- The text of a sign. -/
def text : Sign → List Char
  | none  => []
  | plus  => ['+']
  | minus => ['-']

/-- Is it a minus sign? -/
def isMinus : Sign → Bool
  | minus => true
  | _     => false

/-- The integer of a magnitude behind a sign. -/
def apply : Sign → Nat → Int
  | minus => fun n => -n
  | _     => fun n => n

/-- Only a minus sign makes a difference. -/
theorem apply_of_ne_minus {sign : Sign} (h : sign ≠ minus) (n : Nat) : sign.apply n = n := by
  cases sign with
  | minus => exact absurd rfl h
  | none | plus => rfl

/-- A text goes on behind a sign: if none was written, it does not start with one. -/
def Precedes (sign : Sign) (rest : List Char) : Prop :=
  sign = none → ∀ cs, rest ≠ '-' :: cs ∧ rest ≠ '+' :: cs

/-- Every text starts with a sign, if only an empty one. -/
theorem exists_eq (cs : List Char) :
    ∃ sign : Sign, ∃ rest, cs = sign.text ++ rest ∧ sign.Precedes rest := by
  by_cases hminus : ∃ rest, cs = '-' :: rest
  · obtain ⟨rest, rfl⟩ := hminus
    exact ⟨minus, rest, rfl, nofun⟩
  · by_cases hplus : ∃ rest, cs = '+' :: rest
    · obtain ⟨rest, rfl⟩ := hplus
      exact ⟨plus, rest, rfl, nofun⟩
    · refine ⟨none, cs, rfl, ?_⟩
      intro _ rest
      exact ⟨fun h => hminus ⟨rest, h⟩, fun h => hplus ⟨rest, h⟩⟩

end Sign

/-! ### Integer literals -/

/-- One or more digits, and nothing else. -/
structure IsDigits (cs : List Char) : Prop where
  ne_nil : cs ≠ []
  isDigit : ∀ c ∈ cs, c.isDigit

theorem isDigits_digits (n : Nat) : IsDigits (digits n) :=
  ⟨digits_ne_nil n, fun _ => isDigit_of_mem_digits⟩

/-- The guard of the readers of digits. -/
theorem isDigits_iff {cs : List Char} : IsDigits cs ↔ cs ≠ [] ∧ cs.all Char.isDigit := by
  rw [List.all_eq_true]
  constructor
  · intro h
    exact ⟨h.ne_nil, h.isDigit⟩
  · rintro ⟨hne, hdigits⟩
    exact ⟨hne, hdigits⟩

instance (cs : List Char) : Decidable (IsDigits cs) := decidable_of_iff _ isDigits_iff.symm

/-- Digits go on behind any sign. -/
theorem IsDigits.precedes {cs : List Char} (h : IsDigits cs) (sign : Sign) : sign.Precedes cs := by
  have hsign : ∀ c, c.isDigit = false → ∀ rest, cs ≠ c :: rest := by
    intro c hc rest
    have hne := ne_sign_append hc h.isDigit h.ne_nil [] rest
    rwa [List.append_nil] at hne
  intro _ rest
  exact ⟨hsign '-' rfl rest, hsign '+' rfl rest⟩

/-- Every text starts with digits, if only with none. -/
theorem exists_span (cs : List Char) :
    ∃ run rest, cs = run ++ rest ∧ (∀ c ∈ run, c.isDigit) ∧ Text.StopsAt Char.isDigit rest := by
  refine ⟨cs.takeWhile Char.isDigit, cs.dropWhile Char.isDigit,
    List.takeWhile_append_dropWhile.symm, fun c => List.mem_takeWhile_imp, ?_⟩
  intro c hc
  have hstop := List.head?_dropWhile_not Char.isDigit cs
  rw [hc] at hstop
  simpa using hstop

theorem readDigits?_eq_some_iff {cs : List Char} {n : Nat} :
    readDigits? cs = some n ↔ IsDigits cs ∧ value cs = n := by
  rw [readDigits?, isDigits_iff, Option.ite_none_right_eq_some, Option.some.injEq]

section Signed

variable {sign : Sign} {rest : List Char}

theorem readNat?_sign (h : sign.Precedes rest) :
    readNat? (sign.text ++ rest) = if sign.isMinus then none else readDigits? rest := by
  cases sign with
  | plus => rfl
  | minus => rfl
  | none =>
    show readNat? rest = readDigits? rest
    rw [readNat?]
    exact fun cs => (h rfl cs).2

theorem readInt?_sign (h : sign.Precedes rest) :
    readInt? (sign.text ++ rest) = (readDigits? rest).map sign.apply := by
  have hnat := readNat?_sign h
  cases sign with
  | minus =>
    show readInt? ('-' :: rest) = _
    rw [readInt?]
    cases readDigits? rest <;> rfl
  | none =>
    rw [readInt?, hnat]
    · cases readDigits? rest <;> rfl
    · exact fun cs => (h rfl cs).1
  | plus =>
    rw [readInt?, hnat]
    · cases readDigits? rest <;> rfl
    · intro cs hcs
      cases hcs

end Signed

/-- **Unsigned integers** are read from digits, with a plus sign or none. -/
theorem readNat?_eq_some_iff {cs : List Char} {n : Nat} :
    readNat? cs = some n ↔
      ∃ sign : Sign, ∃ ds, cs = sign.text ++ ds ∧ IsDigits ds ∧ sign ≠ .minus ∧ value ds = n := by
  constructor
  · intro h
    obtain ⟨sign, rest, rfl, hrest⟩ := Sign.exists_eq cs
    rw [readNat?_sign hrest] at h
    cases sign with
    | minus => cases h
    | none | plus =>
      obtain ⟨hdigits, hvalue⟩ := readDigits?_eq_some_iff.1 h
      exact ⟨_, rest, rfl, hdigits, by decide, hvalue⟩
  · rintro ⟨sign, ds, rfl, hdigits, hsign, rfl⟩
    rw [readNat?_sign (hdigits.precedes sign)]
    cases sign with
    | minus => exact absurd rfl hsign
    | none | plus => exact readDigits?_eq_some_iff.2 ⟨hdigits, rfl⟩

/-- **Integers** are read from digits, with any sign. -/
theorem readInt?_eq_some_iff {cs : List Char} {z : Int} :
    readInt? cs = some z ↔
      ∃ sign : Sign, ∃ ds, cs = sign.text ++ ds ∧ IsDigits ds ∧ sign.apply (value ds) = z := by
  constructor
  · intro h
    obtain ⟨sign, rest, rfl, hrest⟩ := Sign.exists_eq cs
    rw [readInt?_sign hrest] at h
    obtain ⟨n, hread, hz⟩ := Option.map_eq_some_iff.1 h
    obtain ⟨hdigits, rfl⟩ := readDigits?_eq_some_iff.1 hread
    exact ⟨sign, rest, rfl, hdigits, hz⟩
  · rintro ⟨sign, ds, rfl, hdigits, rfl⟩
    rw [readInt?_sign (hdigits.precedes sign), readDigits?_eq_some_iff.2 ⟨hdigits, rfl⟩]
    rfl

end Numeral

/-! ### Float literals -/

namespace Binary64

open Numeral (Sign IsDigits)

/-- One of the words for infinity and NaN, in any letter case. -/
def IsWord (cs : List Char) : Prop :=
  cs.map Char.toLower ∈
    [['i', 'n', 'f'], ['i', 'n', 'f', 'i', 'n', 'i', 't', 'y'], ['n', 'a', 'n']]

/-- Digits with an optional point before, among or behind them. -/
inductive IsMantissa : List Char → Prop where
  | whole {ds : List Char} (h : IsDigits ds) : IsMantissa ds
  | pointed {whole fraction : List Char} (h : IsDigits (whole ++ fraction)) :
      IsMantissa (whole ++ '.' :: fraction)

/-- Nothing, or the mark of an exponent, a sign and digits. -/
inductive IsExponent : List Char → Prop where
  | absent : IsExponent []
  | marked {mark : Char} (hmark : mark = 'e' ∨ mark = 'E') (sign : Sign) {ds : List Char}
      (h : IsDigits ds) : IsExponent (mark :: (sign.text ++ ds))

/-- A float without its sign. -/
inductive IsMagnitude : List Char → Prop where
  | word {cs : List Char} (h : IsWord cs) : IsMagnitude cs
  | number {mantissa exponent : List Char} (hmantissa : IsMantissa mantissa)
      (hexponent : IsExponent exponent) : IsMagnitude (mantissa ++ exponent)

/-- A float: a sign and a magnitude. -/
def IsLiteral (cs : List Char) : Prop :=
  ∃ sign : Sign, ∃ magnitude, cs = sign.text ++ magnitude ∧ IsMagnitude magnitude

/-- An integer literal is a float literal. -/
theorem isLiteral_sign_append {ds : List Char} (h : IsDigits ds) (sign : Sign) :
    IsLiteral (sign.text ++ ds) := by
  have hmagnitude := IsMagnitude.number (IsMantissa.whole h) .absent
  rw [List.append_nil] at hmagnitude
  exact ⟨sign, ds, rfl, hmagnitude⟩

/-! ### Reading exponents -/

theorem readSignedExponent?_sign {sign : Sign} {rest : List Char} (h : sign.Precedes rest) :
    readSignedExponent? (sign.text ++ rest) = (readExponentDigits? rest).map sign.apply := by
  cases sign with
  | minus =>
    show readSignedExponent? ('-' :: rest) = _
    rw [readSignedExponent?]
    cases readExponentDigits? rest <;> rfl
  | plus =>
    show readSignedExponent? ('+' :: rest) = _
    rw [readSignedExponent?]
    cases readExponentDigits? rest <;> rfl
  | none =>
    show readSignedExponent? rest = _
    rw [readSignedExponent?]
    · cases readExponentDigits? rest <;> rfl
    · exact fun cs => (h rfl cs).1
    · exact fun cs => (h rfl cs).2

theorem readExponentDigits?_isSome_iff {cs : List Char} :
    (readExponentDigits? cs).isSome ↔ IsDigits cs := by
  rw [readExponentDigits?, Numeral.isDigits_iff, Option.isSome_ite]

theorem readSignedExponent?_isSome_iff {cs : List Char} :
    (readSignedExponent? cs).isSome ↔ ∃ sign : Sign, ∃ ds, cs = sign.text ++ ds ∧ IsDigits ds := by
  constructor
  · intro h
    obtain ⟨sign, rest, rfl, hrest⟩ := Sign.exists_eq cs
    rw [readSignedExponent?_sign hrest, Option.isSome_map, readExponentDigits?_isSome_iff] at h
    exact ⟨sign, rest, rfl, h⟩
  · rintro ⟨sign, ds, rfl, hdigits⟩
    rw [readSignedExponent?_sign (hdigits.precedes sign), Option.isSome_map,
      readExponentDigits?_isSome_iff]
    exact hdigits

theorem readExponent?_isSome_iff {cs : List Char} :
    (readExponent? cs).isSome ↔ IsExponent cs := by
  constructor
  · intro h
    unfold readExponent? at h
    split at h
    · exact .absent
    · obtain ⟨sign, ds, rfl, hdigits⟩ := readSignedExponent?_isSome_iff.1 h
      exact .marked (Or.inl rfl) sign hdigits
    · obtain ⟨sign, ds, rfl, hdigits⟩ := readSignedExponent?_isSome_iff.1 h
      exact .marked (Or.inr rfl) sign hdigits
    · cases h
  · intro h
    cases h with
    | absent => rfl
    | marked hmark sign hdigits =>
      have hread := readSignedExponent?_isSome_iff.2 ⟨sign, _, rfl, hdigits⟩
      rcases hmark with rfl | rfl
      · exact hread
      · exact hread

/-- An exponent does not go on with digits. -/
theorem IsExponent.stopsAt {cs : List Char} (h : IsExponent cs) : Text.StopsAt Char.isDigit cs := by
  cases h with
  | absent => exact Text.stopsAt_nil _
  | marked hmark =>
    apply Text.stopsAt_cons
    rcases hmark with rfl | rfl
    · rfl
    · rfl

/-- Nor does it start with a point. -/
theorem IsExponent.ne_point {cs : List Char} (h : IsExponent cs) (rest : List Char) :
    cs ≠ '.' :: rest := by
  cases h with
  | absent => exact nofun
  | marked hmark =>
    rcases hmark with rfl | rfl
    · exact nofun
    · exact nofun

/-! ### Reading decimals -/

section Decimal

variable {whole fraction rest : List Char} (hwhole : ∀ c ∈ whole, c.isDigit)
  (hrest : Text.StopsAt Char.isDigit rest)
include hwhole hrest

theorem readDecimal?_append_isSome_iff (hpoint : ∀ cs, rest ≠ '.' :: cs) :
    (readDecimal? (whole ++ rest)).isSome ↔ whole ≠ [] ∧ (readExponent? rest).isSome := by
  unfold readDecimal?
  rw [Numeral.spanDigits_append hwhole hrest]
  cases whole with
  | nil => simp
  | cons c cs => simp

theorem readDecimal?_append_point_isSome_iff (hfraction : ∀ c ∈ fraction, c.isDigit) :
    (readDecimal? (whole ++ '.' :: (fraction ++ rest))).isSome ↔
      whole ++ fraction ≠ [] ∧ (readExponent? rest).isSome := by
  have hpoint : Text.StopsAt Char.isDigit ('.' :: (fraction ++ rest)) := Text.stopsAt_cons rfl _
  unfold readDecimal?
  rw [Numeral.spanDigits_append hwhole hpoint]
  simp only [Numeral.spanDigits_append hfraction hrest]
  by_cases hempty : whole ++ fraction = []
  · obtain ⟨rfl, rfl⟩ := List.append_eq_nil_iff.1 hempty
    simp
  · have hguard : ¬ (whole.isEmpty && fraction.isEmpty) := by simpa using hempty
    simp [hguard, hempty]

end Decimal

theorem readDecimal?_isSome_iff {cs : List Char} :
    (readDecimal? cs).isSome ↔
      ∃ mantissa exponent, cs = mantissa ++ exponent ∧ IsMantissa mantissa ∧
        IsExponent exponent := by
  constructor
  · intro h
    obtain ⟨whole, rest, rfl, hwhole, hrest⟩ := Numeral.exists_span cs
    -- Behind a point there may be more digits; without one the exponent follows.
    by_cases hpoint : ∃ behind, rest = '.' :: behind
    · obtain ⟨behind, rfl⟩ := hpoint
      obtain ⟨fraction, exponent, rfl, hfraction, hexponent⟩ := Numeral.exists_span behind
      rw [readDecimal?_append_point_isSome_iff hwhole hexponent hfraction,
        readExponent?_isSome_iff] at h
      have hdigits : IsDigits (whole ++ fraction) := by
        refine ⟨h.1, ?_⟩
        intro c hc
        exact (List.mem_append.1 hc).elim (hwhole c) (hfraction c)
      refine ⟨whole ++ '.' :: fraction, exponent, ?_, .pointed hdigits, h.2⟩
      rw [List.append_assoc, List.cons_append]
    · rw [readDecimal?_append_isSome_iff hwhole hrest fun behind hb => hpoint ⟨behind, hb⟩,
        readExponent?_isSome_iff] at h
      exact ⟨whole, rest, rfl, .whole ⟨h.1, hwhole⟩, h.2⟩
  · rintro ⟨mantissa, exponent, rfl, hmantissa, hexponent⟩
    have hread := readExponent?_isSome_iff.2 hexponent
    cases hmantissa with
    | whole hdigits =>
      rw [readDecimal?_append_isSome_iff hdigits.isDigit hexponent.stopsAt hexponent.ne_point]
      exact ⟨hdigits.ne_nil, hread⟩
    | @pointed whole fraction hdigits =>
      have hwhole : ∀ c ∈ whole, c.isDigit :=
        fun c hc => hdigits.isDigit c (List.mem_append_left _ hc)
      have hfraction : ∀ c ∈ fraction, c.isDigit :=
        fun c hc => hdigits.isDigit c (List.mem_append_right _ hc)
      rw [List.append_assoc, List.cons_append,
        readDecimal?_append_point_isSome_iff hwhole hexponent.stopsAt hfraction]
      exact ⟨hdigits.ne_nil, hread⟩

/-! ### Reading floats -/

theorem readPlace?_isSome_iff {cs : List Char} :
    (readPlace? cs).isSome ↔ IsMagnitude cs := by
  have hread : (readPlace? cs).isSome ↔ IsWord cs ∨ (readDecimal? cs).isSome := by
    unfold readPlace? IsWord
    simp only [List.mem_cons, List.not_mem_nil, or_false, ← or_assoc]
    split_ifs with hinfinity hnan
    · exact iff_of_true rfl (Or.inl (Or.inl hinfinity))
    · exact iff_of_true rfl (Or.inl (Or.inr hnan))
    · rw [Option.isSome_map, or_iff_right (not_or_intro hinfinity hnan)]
  rw [hread, readDecimal?_isSome_iff]
  constructor
  · rintro (hword | ⟨mantissa, exponent, rfl, hmantissa, hexponent⟩)
    · exact .word hword
    · exact .number hmantissa hexponent
  · intro h
    cases h with
    | word hword => exact Or.inl hword
    | number hmantissa hexponent => exact Or.inr ⟨_, _, rfl, hmantissa, hexponent⟩

/-- A magnitude goes on behind any sign. -/
theorem IsMagnitude.precedes {cs : List Char} (h : IsMagnitude cs) (sign : Sign) :
    sign.Precedes cs := by
  have hread := readPlace?_isSome_iff.2 h
  intro _ rest
  constructor
  · rintro rfl
    cases hread
  · rintro rfl
    cases hread

theorem read?_sign {sign : Sign} {rest : List Char} (h : sign.Precedes rest) :
    read? (sign.text ++ rest) = (readPlace? rest).map (ofPlace sign.isMinus) := by
  cases sign with
  | minus | plus => rfl
  | none =>
    show read? rest = _
    rw [read?]
    · rfl
    · exact fun cs => (h rfl cs).1
    · exact fun cs => (h rfl cs).2

/-- **Float literals** are the texts that read as a float. -/
theorem read?_isSome_iff {cs : List Char} : (read? cs).isSome ↔ IsLiteral cs := by
  constructor
  · intro h
    obtain ⟨sign, rest, rfl, hrest⟩ := Sign.exists_eq cs
    rw [read?_sign hrest, Option.isSome_map, readPlace?_isSome_iff] at h
    exact ⟨sign, rest, rfl, h⟩
  · rintro ⟨sign, magnitude, rfl, hmagnitude⟩
    rw [read?_sign (hmagnitude.precedes sign), Option.isSome_map]
    exact readPlace?_isSome_iff.2 hmagnitude

/-- **Whole numbers**: digits read as the float nearest to what they denote. -/
theorem read?_digits {ds : List Char} (h : IsDigits ds) (sign : Sign) :
    read? (sign.text ++ ds) = some (ofRatio sign.isMinus (Numeral.value ds) 1) := by
  have hplace : Decimal.place ⟨Numeral.value ds, 0⟩ = nearest (Numeral.value ds) 1 := by
    rw [Decimal.place_eq_nearest, Decimal.num, Decimal.den]
    show nearest (Numeral.value ds * 10 ^ 0) (10 ^ 0) = _
    rw [pow_zero, Nat.mul_one]
  have hnone : ∀ c ∈ ([] : List Char), c.isDigit := by simp
  have hread : readPlace? (ds ++ []) = some (Decimal.place ⟨Numeral.value (ds ++ []), 0⟩) :=
    readPlace?_pointed_nil h.isDigit h.ne_nil hnone
  rw [List.append_nil, hplace] at hread
  rw [read?_sign (h.precedes sign), hread, ofRatio, Option.map_some]

end Binary64

end DynExpr
