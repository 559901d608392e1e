import DynExpr.Expr.Eval
import DynExpr.Proofs.Binary64.ReadBack
import DynExpr.Proofs.Text.Quoting
import DynExpr.Proofs.Time.InstantText

/-! # The structural text identifies the tree

    A structural text opens with a word that tells what it is of, and every
    part of it shows where it ends, whatever comes next:

    * **Values**: a number ends at the parenthesis that closes it, which no
      number contains; a string ends at its closing quote, and a timestamp at
      its `Z` (`Value.structural_delimited`).
    * **Trees**: operators and policies end at a comma, subtrees by themselves
      (`Expr.structural_delimited`), and the items of a concatenation at the
      bracket, with which no item starts.

    **`Expr.structural_identifies`** is the result for whole texts.
-/

namespace DynExpr

/-! ### Numbers -/

namespace Numeral

theorem close_not_mem_digits (n : Nat) : ')' ∉ digits n := by
  intro h
  cases isDigit_of_mem_digits h

theorem close_not_mem_ofInt (z : Int) : ')' ∉ ofInt z := by
  unfold ofInt
  split_ifs
  · rw [List.mem_cons]
    rintro (h | h)
    · cases h
    · exact close_not_mem_digits _ h
  · exact close_not_mem_digits _

end Numeral

namespace Binary64

theorem close_not_mem_wholeMark (l : Layout) : ')' ∉ l.wholeMark := by
  unfold Layout.wholeMark
  split_ifs
  all_goals decide

theorem close_not_mem_positionalText (l : Layout) (n : Nat) (e : Int) :
    ')' ∉ positionalText l (Numeral.digits n) e := by
  have hdigits := Numeral.close_not_mem_digits n
  have htake : ∀ k, ')' ∉ (Numeral.digits n).take k := fun _ h => hdigits (List.mem_of_mem_take h)
  have hdrop : ∀ k, ')' ∉ (Numeral.digits n).drop k := fun _ h => hdigits (List.mem_of_mem_drop h)
  unfold positionalText
  simp only
  split_ifs
  · simp [hdigits, close_not_mem_wholeMark]
  · simp [htake, hdrop]
  · simp [hdigits]

theorem close_not_mem_exponentText (n : Nat) (e : Int) :
    ')' ∉ exponentText (Numeral.digits n) e := by
  have hdigits := Numeral.close_not_mem_digits n
  have htake : ∀ k, ')' ∉ (Numeral.digits n).take k := fun _ h => hdigits (List.mem_of_mem_take h)
  have hdrop : ∀ k, ')' ∉ (Numeral.digits n).drop k := fun _ h => hdigits (List.mem_of_mem_drop h)
  unfold exponentText
  simp only
  split_ifs
  · simp [htake, Numeral.close_not_mem_ofInt]
  · simp [htake, hdrop, Numeral.close_not_mem_ofInt, -List.drop_one]

theorem close_not_mem_magnitudeText (l : Layout) (n : Nat) : ')' ∉ magnitudeText l n := by
  unfold magnitudeText Decimal.text
  simp only
  split_ifs
  · decide
  · rw [List.mem_cons]
    rintro (h | h)
    · cases h
    · exact close_not_mem_wholeMark l h
  · exact close_not_mem_positionalText l _ _
  · exact close_not_mem_exponentText _ _

theorem close_not_mem_text (l : Layout) (x : Float) : ')' ∉ text l x := by
  unfold text
  split_ifs
  · decide
  · rw [List.mem_cons]
    rintro (h | h)
    · cases h
    · exact close_not_mem_magnitudeText l _ h
  · exact close_not_mem_magnitudeText l _

end Binary64

/-! ### Values -/

namespace Value

/-- The word with which the structural text of a value opens. -/
def opening : Value → String
  | null        => "Null"
  | bool _      => "Bool("
  | uint _      => "UInt("
  | int _       => "Int("
  | float _     => "Float("
  | str _       => "Str("
  | timestamp _ => "Timestamp("

/-- What the structural text of a value shows behind that word. -/
def contents : Value → List Char
  | null        => []
  | bool b      => (boolText b).toList ++ [')']
  | uint n      => Numeral.digits n.toNat ++ [')']
  | int n       => Numeral.ofInt n.toInt ++ [')']
  | float x     => Binary64.text .structural x ++ [')']
  | str s       => (Text.quoted s).toList ++ [')']
  | timestamp t => t.text ++ [')']

theorem structural_toList (v : Value) : v.structural.toList = v.opening.toList ++ v.contents := by
  cases v <;> simp [structural, opening, contents]

/-- Every opening of a value. -/
def openings : List (List Char) :=
  ["Null", "Bool(", "UInt(", "Int(", "Float(", "Str(", "Timestamp("].map String.toList

theorem opening_mem (v : Value) : v.opening.toList ∈ openings := by
  cases v <;> simp [opening, openings]

theorem openings_prefix_free :
    ∀ word ∈ openings, ∀ word' ∈ openings, word <+: word' → word = word' := by
  decide

theorem boolText_append_inj {b c : Bool} {rest rest' : List Char}
    (h : (boolText b).toList ++ ')' :: rest = (boolText c).toList ++ ')' :: rest') :
    b = c ∧ rest = rest' := by
  cases b <;> cases c
  all_goals simp [boolText] at h
  all_goals exact ⟨rfl, h⟩

/-- The structural text of a value can be split off whatever follows it, and gives the value. -/
theorem structural_delimited : Text.Delimited fun v : Value => v.structural.toList := by
  intro v w rest rest' h
  simp only [structural_toList, List.append_assoc] at h
  obtain ⟨hopening, hlater⟩ := Text.append_inj_of_prefix_free openings_prefix_free (opening_mem v)
    (opening_mem w) h
  rw [String.toList_inj] at hopening
  -- The word tells the kind; then a number runs up to its parenthesis, the rest ends by itself.
  cases v with
  | null =>
    cases w with
    | null => exact ⟨rfl, hlater⟩
    | bool | uint | int | float | str | timestamp => simp [opening] at hopening
  | bool b =>
    cases w with
    | bool c =>
      simp only [contents, List.append_assoc, List.cons_append, List.nil_append] at hlater
      obtain ⟨rfl, hrest⟩ := boolText_append_inj hlater
      exact ⟨rfl, hrest⟩
    | null | uint | int | float | str | timestamp => simp [opening] at hopening
  | uint n =>
    cases w with
    | uint m =>
      simp only [contents, List.append_assoc, List.cons_append, List.nil_append] at hlater
      obtain ⟨hdigits, hrest⟩ := Text.append_cons_inj (Numeral.close_not_mem_digits _)
        (Numeral.close_not_mem_digits _) hlater
      exact ⟨by rw [UInt64.toNat_inj.1 (Numeral.digits_injective hdigits)], hrest⟩
    | null | bool | int | float | str | timestamp => simp [opening] at hopening
  | int n =>
    cases w with
    | int m =>
      simp only [contents, List.append_assoc, List.cons_append, List.nil_append] at hlater
      obtain ⟨hdigits, hrest⟩ := Text.append_cons_inj (Numeral.close_not_mem_ofInt _)
        (Numeral.close_not_mem_ofInt _) hlater
      exact ⟨by rw [Int64.toInt_inj.1 (Numeral.ofInt_injective hdigits)], hrest⟩
    | null | bool | uint | float | str | timestamp => simp [opening] at hopening
  | float x =>
    cases w with
    | float y =>
      simp only [contents, List.append_assoc, List.cons_append, List.nil_append] at hlater
      obtain ⟨htext, hrest⟩ := Text.append_cons_inj (Binary64.close_not_mem_text _ _)
        (Binary64.close_not_mem_text _ _) hlater
      exact ⟨by rw [Binary64.text_injective _ htext], hrest⟩
    | null | bool | uint | int | str | timestamp => simp [opening] at hopening
  | str s =>
    cases w with
    | str t =>
      simp only [contents, List.append_assoc] at hlater
      obtain ⟨rfl, hclose⟩ := Text.quoted_delimited s t _ _ hlater
      exact ⟨rfl, List.append_cancel_left hclose⟩
    | null | bool | uint | int | float | timestamp => simp [opening] at hopening
  | timestamp t =>
    cases w with
    | timestamp u =>
      simp only [contents, List.append_assoc] at hlater
      obtain ⟨rfl, hclose⟩ := Instant.text_delimited t u _ _ hlater
      exact ⟨rfl, List.append_cancel_left hclose⟩
    | null | bool | uint | int | float | str => simp [opening] at hopening

end Value

/-! ### Operators and policies -/

theorem BinaryOp.name_append_inj {op op' : BinaryOp} {rest rest' : List Char}
    (h : op.name.toList ++ ',' :: rest = op'.name.toList ++ ',' :: rest') :
    op = op' ∧ rest = rest' := by
  have hcomma : ∀ op ∈ BinaryOp.all, ',' ∉ op.name.toList := by decide
  have hinjective : ∀ op ∈ BinaryOp.all, ∀ op' ∈ BinaryOp.all, op.name = op'.name → op = op' := by
    decide
  obtain ⟨hname, hrest⟩ := Text.append_cons_inj (hcomma op op.mem_all) (hcomma op' op'.mem_all) h
  exact ⟨hinjective op op.mem_all op' op'.mem_all (String.toList_inj.1 hname), hrest⟩

theorem Coercion.name_append_inj {policy policy' : Coercion} {rest rest' : List Char}
    (h : policy.name.toList ++ ',' :: rest = policy'.name.toList ++ ',' :: rest') :
    policy = policy' ∧ rest = rest' := by
  have hcomma : ∀ policy : Coercion, ',' ∉ policy.name.toList := by
    intro policy
    cases policy <;> decide
  obtain ⟨hname, hrest⟩ := Text.append_cons_inj (hcomma policy) (hcomma policy') h
  refine ⟨?_, hrest⟩
  cases policy <;> cases policy' <;> first | rfl | exact absurd hname (by decide)

/-! ### Trees -/

namespace Expr

/-- The words with which the structural text of a node opens. -/
def opening : Expr → String
  | constant _ => "Constant("
  | param _    => "Param("
  | not _      => "Not("
  | binary ..  => "Binary(BinaryExpr \x7b op: "
  | concat ..  => "Concat(ConcatExpr \x7b delimiter: "
  | rand       => "Rand"

/-- The structural texts of the items of a concatenation, with commas between them.
    `structuralItems` gives those behind the first one, each with a comma in front. -/
def itemsText : List Expr → List Char
  | []            => []
  | item :: items => item.structural.toList ++ (structuralItems items).toList

/-- What the structural text of a node shows behind those words. -/
def contents : Expr → List Char
  | constant v                    => v.structural.toList ++ [')']
  | param name                    => (Text.quoted name).toList ++ [')']
  | not operand                   => operand.structural.toList ++ [')']
  | binary op coercion left right =>
    op.name.toList ++ ',' :: (" coercion: ".toList ++ (coercion.name.toList ++ ',' ::
      (" left: ".toList ++ (left.structural.toList ++ (", right: ".toList ++
        (right.structural.toList ++ " \x7d)".toList))))))
  | concat delimiter items        =>
    delimiter.structural.toList ++ (", items: [".toList ++ (itemsText items ++
      ']' :: " \x7d)".toList))
  | rand                          => []

theorem structural_toList (e : Expr) : e.structural.toList = e.opening.toList ++ e.contents := by
  cases e with
  | constant v => simp [structural_constant, opening, contents]
  | param name => simp [structural_param, opening, contents]
  | not operand => simp [structural_not, opening, contents]
  | binary op coercion left right => simp [structural_binary, opening, contents]
  | concat delimiter items =>
    cases items with
    | nil => simp [structural_concat_nil, opening, contents, itemsText]
    | cons item items => simp [structural_concat_cons, opening, contents, itemsText]
  | rand => simp [structural_rand, opening, contents]

/-- Every opening of a node. -/
def openings : List (List Char) :=
  ["Constant(", "Param(", "Not(", "Binary(BinaryExpr \x7b op: ",
    "Concat(ConcatExpr \x7b delimiter: ", "Rand"].map String.toList

theorem opening_mem (e : Expr) : e.opening.toList ∈ openings := by
  cases e <;> simp [opening, openings]

theorem openings_prefix_free :
    ∀ word ∈ openings, ∀ word' ∈ openings, word <+: word' → word = word' := by
  decide

/-- Of two texts that start with structural texts, the openings are the same. -/
theorem opening_append_inj {e e' : Expr} {rest rest' : List Char}
    (h : e.structural.toList ++ rest = e'.structural.toList ++ rest') :
    e.opening = e'.opening ∧ e.contents ++ rest = e'.contents ++ rest' := by
  rw [structural_toList, structural_toList, List.append_assoc, List.append_assoc] at h
  obtain ⟨hopening, hlater⟩ := Text.append_inj_of_prefix_free openings_prefix_free (opening_mem e)
    (opening_mem e') h
  exact ⟨String.toList_inj.1 hopening, hlater⟩

theorem structural_append_ne_bracket (e : Expr) (rest rest' : List Char) :
    e.structural.toList ++ rest ≠ ']' :: rest' := by
  rw [structural_toList, List.append_assoc]
  cases e <;> simp [opening]

mutual

/-- The structural text of a tree can be split off whatever follows it, and gives the tree. -/
theorem structural_append_inj : ∀ (e e' : Expr) (rest rest' : List Char),
    e.structural.toList ++ rest = e'.structural.toList ++ rest' → e = e' ∧ rest = rest'
  | constant v, e', rest, rest' => by
    intro h
    obtain ⟨hopening, hlater⟩ := opening_append_inj h
    cases e' with
    | constant w =>
      simp only [contents, List.append_assoc] at hlater
      obtain ⟨rfl, hclose⟩ := Value.structural_delimited v w _ _ hlater
      exact ⟨rfl, List.append_cancel_left hclose⟩
    | param | not | binary | concat | rand => simp [opening] at hopening
  | param name, e', rest, rest' => by
    intro h
    obtain ⟨hopening, hlater⟩ := opening_append_inj h
    cases e' with
    | param name' =>
      simp only [contents, List.append_assoc] at hlater
      obtain ⟨rfl, hclose⟩ := Text.quoted_delimited name name' _ _ hlater
      exact ⟨rfl, List.append_cancel_left hclose⟩
    | constant | not | binary | concat | rand => simp [opening] at hopening
  | not operand, e', rest, rest' => by
    intro h
    obtain ⟨hopening, hlater⟩ := opening_append_inj h
    cases e' with
    | not operand' =>
      simp only [contents, List.append_assoc] at hlater
      obtain ⟨hoperand, hclose⟩ := structural_append_inj operand operand' _ _ hlater
      exact ⟨by rw [hoperand], List.append_cancel_left hclose⟩
    | constant | param | binary | concat | rand => simp [opening] at hopening
  | binary op coercion left right, e', rest, rest' => by
    intro h
    obtain ⟨hopening, hlater⟩ := opening_append_inj h
    cases e' with
    | binary op' coercion' left' right' =>
      -- The five parts are split off from left to right, each at its own end.
      simp only [contents, List.append_assoc, List.cons_append] at hlater
      obtain ⟨hop, hlater⟩ := BinaryOp.name_append_inj hlater
      obtain ⟨hpolicy, hlater⟩ := Coercion.name_append_inj (List.append_cancel_left hlater)
      obtain ⟨hleft, hlater⟩ := structural_append_inj left left' _ _
        (List.append_cancel_left hlater)
      obtain ⟨hright, hclose⟩ := structural_append_inj right right' _ _
        (List.append_cancel_left hlater)
      exact ⟨by rw [hop, hpolicy, hleft, hright], List.append_cancel_left hclose⟩
    | constant | param | not | concat | rand => simp [opening] at hopening
  | concat delimiter items, e', rest, rest' => by
    intro h
    obtain ⟨hopening, hlater⟩ := opening_append_inj h
    cases e' with
    | concat delimiter' items' =>
      simp only [contents, List.append_assoc, List.cons_append] at hlater
      obtain ⟨hdelimiter, hlater⟩ := structural_append_inj delimiter delimiter' _ _ hlater
      obtain ⟨hitems, hclose⟩ := itemsText_append_inj items items' _ _
        (List.append_cancel_left hlater)
      exact ⟨by rw [hdelimiter, hitems], List.append_cancel_left hclose⟩
    | constant | param | not | binary | rand => simp [opening] at hopening
  | rand, e', rest, rest' => by
    intro h
    obtain ⟨hopening, hlater⟩ := opening_append_inj h
    cases e' with
    | rand => exact ⟨rfl, hlater⟩
    | constant | param | not | binary | concat => simp [opening] at hopening

/-- Rows of items can be split off at the bracket that ends them. -/
theorem itemsText_append_inj : ∀ (items items' : List Expr) (rest rest' : List Char),
    itemsText items ++ ']' :: rest = itemsText items' ++ ']' :: rest' →
      items = items' ∧ rest = rest'
  | [], [], rest, rest' => by
    intro h
    exact ⟨rfl, (List.cons.inj h).2⟩
  | [], item' :: items', rest, rest' => by
    intro h
    -- Only an empty row has the bracket in front.
    rw [itemsText, itemsText, List.append_assoc] at h
    exact absurd h.symm (structural_append_ne_bracket item' _ _)
  | item :: items, [], rest, rest' => by
    intro h
    rw [itemsText, itemsText, List.append_assoc] at h
    exact absurd h (structural_append_ne_bracket item _ _)
  | item :: items, item' :: items', rest, rest' => by
    intro h
    simp only [itemsText, List.append_assoc] at h
    obtain ⟨hitem, hlater⟩ := structural_append_inj item item' _ _ h
    obtain ⟨hitems, hrest⟩ := structuralItems_append_inj items items' _ _ hlater
    exact ⟨by rw [hitem, hitems], hrest⟩

theorem structuralItems_append_inj : ∀ (items items' : List Expr) (rest rest' : List Char),
    (structuralItems items).toList ++ ']' :: rest =
        (structuralItems items').toList ++ ']' :: rest' →
      items = items' ∧ rest = rest'
  | [], [], rest, rest' => by
    intro h
    exact ⟨rfl, (List.cons.inj h).2⟩
  | [], item' :: items', rest, rest' => by
    intro h
    simp [structuralItems_nil, structuralItems_cons] at h
  | item :: items, [], rest, rest' => by
    intro h
    simp [structuralItems_nil, structuralItems_cons] at h
  | item :: items, item' :: items', rest, rest' => by
    intro h
    simp only [structuralItems_cons, String.toList_append, List.append_assoc] at h
    obtain ⟨hitem, hlater⟩ := structural_append_inj item item' _ _ (List.append_cancel_left h)
    obtain ⟨hitems, hrest⟩ := structuralItems_append_inj items items' _ _ hlater
    exact ⟨by rw [hitem, hitems], hrest⟩

end

theorem structural_delimited : Text.Delimited fun e : Expr => e.structural.toList :=
  structural_append_inj

/-- **Identification**: two trees have the same structural text if and only if they are the same
    tree: the same nodes, operators, policies, names and numbers of items, and constants of the
    same kind with the same payload. Floats are the same if their bits are; so the two zeros
    differ, and there is one NaN. Then they also have the same rendering, and the same results
    from every state. -/
theorem structural_identifies (e e' : Expr) :
    (e.structural = e'.structural ↔ e = e') ∧
      (e.structural = e'.structural →
        e.render = e'.render ∧ ∀ params s, e.run params s = e'.run params s) := by
  have hidentifies (h : e.structural = e'.structural) : e = e' :=
    structural_delimited.injective (congrArg String.toList h)
  constructor
  · constructor
    · exact hidentifies
    · exact congrArg structural
  · intro h
    rw [hidentifies h]
    exact ⟨rfl, fun _ _ => rfl⟩

end Expr

end DynExpr
