import DynExpr.Expr.Text
import DynExpr.Proofs.Evaluation.Walk
import DynExpr.Proofs.Text.Delimited

/-! # Renderings are unambiguous

    A rendering shows the shape of a tree, if the texts of its leaves look
    like words and not like the rest of the notation:

    * **Words**: `Expr.Legible` says that every leaf text is a word, without
      blanks, parentheses and commas, other than `NOT` and `RAND`.
    * **Shapes**: `Expr.shape` is the tree with policies forgotten, and with
      constants and parameters taken for the texts that they show.
    * **Unambiguity**: every rendering starts with a word, which may be empty,
      and the character behind it tells what the word stands for
      (`Expr.render_toList`). So legible trees with one rendering have one
      shape, also when other text follows.
-/

namespace DynExpr

/-! ### Shapes -/

/-- What a rendering shows of a tree. -/
inductive Shape where
  /-- A constant or a parameter, by its text. -/
  | leaf (text : String)
  | not (operand : Shape)
  | binary (op : BinaryOp) (left right : Shape)
  | concat (delimiter : Shape) (items : List Shape)
  | rand

namespace Expr

mutual

/-- The shape of a tree. -/
def shape : Expr → Shape
  | constant v => .leaf v.display
  | param name => .leaf name
  | not operand => .not operand.shape
  | binary op _ left right => .binary op left.shape right.shape
  | concat delimiter items => .concat delimiter.shape (shapes items)
  | rand => .rand

/-- The shapes of some trees. -/
def shapes : List Expr → List Shape
  | [] => []
  | item :: items => item.shape :: shapes items

end

/-! ### Words -/

/-- Characters of which words consist: all but blanks, parentheses and commas. -/
def isWordChar (c : Char) : Bool := c ∉ [' ', '(', ')', ',']

/-- Is a text a word that the notation does not use for something else? -/
def IsLeafWord (text : String) : Prop :=
  text ≠ "" ∧ (∀ c ∈ text.toList, isWordChar c) ∧ text ≠ "NOT" ∧ text ≠ "RAND"

/-- The text that a constant or a parameter shows. -/
def leafText? : Expr → Option String
  | constant v => some v.display
  | param name => some name
  | _          => none

/-- The leaf texts among some nodes. -/
def leafTexts (nodes : List Expr) : List String := nodes.filterMap leafText?

/-- All leaf texts of the tree are words. -/
def Legible (e : Expr) : Prop := ∀ text ∈ leafTexts e.nodes, IsLeafWord text

/-- All leaf texts of some trees are words. -/
def LegibleItems (items : List Expr) : Prop := ∀ text ∈ leafTexts (itemNodes items), IsLeafWord text

theorem mem_leafTexts_append {text : String} (nodes others : List Expr) :
    text ∈ leafTexts (nodes ++ others) ↔ text ∈ leafTexts nodes ∨ text ∈ leafTexts others := by
  rw [leafTexts, List.filterMap_append, List.mem_append]
  rfl

theorem Legible.constant {v : Value} (h : (constant v).Legible) : IsLeafWord v.display :=
  h _ (List.mem_singleton.2 rfl)

theorem Legible.param {name : String} (h : (param name).Legible) : IsLeafWord name :=
  h _ (List.mem_singleton.2 rfl)

theorem Legible.not {operand : Expr} (h : (not operand).Legible) : operand.Legible := by
  intro text htext
  exact h text ((mem_leafTexts_append _ _).2 (Or.inl htext))

theorem Legible.binary {op : BinaryOp} {coercion : Coercion} {left right : Expr}
    (h : (binary op coercion left right).Legible) : left.Legible ∧ right.Legible := by
  have hparts : ∀ text ∈ leafTexts (left.nodes ++ right.nodes), IsLeafWord text := by
    intro text htext
    exact h text ((mem_leafTexts_append _ _).2 (Or.inl htext))
  constructor
  · intro text htext
    exact hparts text ((mem_leafTexts_append _ _).2 (Or.inl htext))
  · intro text htext
    exact hparts text ((mem_leafTexts_append _ _).2 (Or.inr htext))

theorem Legible.concat {delimiter : Expr} {items : List Expr}
    (h : (concat delimiter items).Legible) : delimiter.Legible ∧ LegibleItems items := by
  have hparts : ∀ text ∈ leafTexts (delimiter.nodes ++ itemNodes items), IsLeafWord text := by
    intro text htext
    exact h text ((mem_leafTexts_append _ _).2 (Or.inl htext))
  constructor
  · intro text htext
    exact hparts text ((mem_leafTexts_append _ _).2 (Or.inl htext))
  · intro text htext
    exact hparts text ((mem_leafTexts_append _ _).2 (Or.inr htext))

theorem LegibleItems.cons {item : Expr} {items : List Expr} (h : LegibleItems (item :: items)) :
    item.Legible ∧ LegibleItems items := by
  constructor
  · intro text htext
    exact h text ((mem_leafTexts_append _ _).2 (Or.inl htext))
  · intro text htext
    exact h text ((mem_leafTexts_append _ _).2 (Or.inr htext))

/-! ### The first word of a rendering -/

/-- The word with which a rendering starts. It is empty where a parenthesis comes first. -/
def firstWord : Expr → String
  | constant v   => v.display
  | param name   => name
  | not _        => "NOT"
  | binary ..    => ""
  | concat ..    => "CONCAT"
  | rand         => "RAND"

/-- What a rendering shows behind its first word. -/
def behindWord : Expr → List Char
  | constant _ | param _ | rand => []
  | not operand => ' ' :: operand.render.toList
  | binary op _ left right =>
    '(' :: (left.render.toList ++ ' ' :: (op.symbol.toList ++ ' ' ::
      (right.render.toList ++ [')'])))
  | concat delimiter items =>
    '(' :: (delimiter.render.toList ++ ((renderItems items).toList ++ [')']))

theorem render_toList (e : Expr) : e.render.toList = e.firstWord.toList ++ e.behindWord := by
  cases e with
  | constant v => simp [render_constant, firstWord, behindWord]
  | param name => simp [render_param, firstWord, behindWord]
  | not operand => simp [render_not, firstWord, behindWord, negationSymbol]
  | binary op coercion left right => simp [render_binary, firstWord, behindWord]
  | concat delimiter items => simp [render_concat, firstWord, behindWord]
  | rand => simp [render_rand, firstWord, behindWord]

theorem renderItems_cons_toList (item : Expr) (items : List Expr) :
    (renderItems (item :: items)).toList =
      ',' :: ' ' :: (item.render.toList ++ (renderItems items).toList) := by
  simp [renderItems_cons]

theorem firstWord_isWordChar {e : Expr} (h : e.Legible) :
    ∀ c ∈ e.firstWord.toList, isWordChar c := by
  have hfixed : ∀ word ∈ ["NOT", "", "CONCAT", "RAND"], word.toList.all isWordChar := by
    decide
  cases e with
  | constant v => exact h.constant.2.1
  | param name => exact h.param.2.1
  | not | binary | concat | rand => exact List.all_eq_true.1 (hfixed _ (by simp [firstWord]))

/-! ### What follows a rendering -/

/-- What may follow a rendering inside a larger one: nothing, or a character that closes it. An
    opening parenthesis is none of these, so that a leaf `CONCAT` cannot be taken for a node. -/
def Closes (rest : List Char) : Prop := ∀ c ∈ rest.head?, c ∈ [' ', ')', ',']

theorem closes_cons {c : Char} (h : c ∈ [' ', ')', ',']) (rest : List Char) :
    Closes (c :: rest) := by
  intro d hd
  cases hd
  exact h

/-- After an item or the delimiter, a concatenation goes on or ends. -/
theorem closes_renderItems (items : List Expr) (rest : List Char) :
    Closes ((renderItems items).toList ++ ')' :: rest) := by
  cases items with
  | nil => exact closes_cons (by decide) _
  | cons item items =>
    rw [renderItems_cons_toList]
    exact closes_cons (by decide) _

theorem Closes.ne_parenthesis {rest rest' : List Char} (h : Closes rest) : rest ≠ '(' :: rest' := by
  intro hrest
  subst hrest
  have hmem : '(' ∈ [' ', ')', ','] := h '(' rfl
  revert hmem
  decide

/-- A first word ends where the rest of the rendering, or what follows it, starts. -/
theorem stopsAt_behindWord (e : Expr) {rest : List Char} (h : Closes rest) :
    Text.StopsAt isWordChar (e.behindWord ++ rest) := by
  have hclosing : ∀ c ∈ [' ', ')', ','], isWordChar c = false := by
    intro c hc
    have hall : [' ', ')', ','].all fun c => !isWordChar c := by decide
    have hother : (!isWordChar c) = true := List.all_eq_true.1 hall c hc
    simpa using hother
  cases e with
  | constant | param | rand => exact fun c hc => hclosing c (h c hc)
  | not | binary | concat => exact Text.stopsAt_cons (by decide) _

/-- Legible renderings that agree up to what follows them start with the same word. -/
theorem firstWord_inj {e e' : Expr} {rest rest' : List Char} (h : e.Legible) (h' : e'.Legible)
    (hrest : Closes rest) (hrest' : Closes rest')
    (heq : e.render.toList ++ rest = e'.render.toList ++ rest') :
    e.firstWord = e'.firstWord ∧ e.behindWord ++ rest = e'.behindWord ++ rest' := by
  rw [render_toList, render_toList, List.append_assoc, List.append_assoc] at heq
  obtain ⟨hword, hbehind⟩ := Text.append_inj_of_stopsAt (firstWord_isWordChar h)
    (firstWord_isWordChar h') (stopsAt_behindWord e hrest) (stopsAt_behindWord e' hrest') heq
  exact ⟨String.toList_inj.1 hword, hbehind⟩

/-- Where the first tree is a leaf, the other one is a leaf with the same text. -/
theorem shape_eq_of_leaf_left {e e' : Expr} {text : String} {rest rest' : List Char}
    (hleaf : e.leafText? = some text) (h : e.Legible) (hrest : Closes rest)
    (hword : e.firstWord = e'.firstWord)
    (hbehind : e.behindWord ++ rest = e'.behindWord ++ rest') :
    e.shape = e'.shape ∧ rest = rest' := by
  have hself : e.firstWord = text ∧ e.behindWord = [] ∧ e.shape = .leaf text ∧ IsLeafWord text := by
    cases e with
    | constant v =>
      cases hleaf
      exact ⟨rfl, rfl, by rw [shape], h.constant⟩
    | param name =>
      cases hleaf
      exact ⟨rfl, rfl, by rw [shape], h.param⟩
    | not | binary | concat | rand => cases hleaf
  obtain ⟨hfirst, hnothing, hshape, hnonempty, -, hnot, hrand⟩ := hself
  rw [hfirst] at hword
  rw [hnothing, List.nil_append] at hbehind
  cases e' with
  | constant v =>
    rw [hshape, hword]
    exact ⟨by rw [shape, firstWord], hbehind⟩
  | param name =>
    rw [hshape, hword]
    exact ⟨by rw [shape, firstWord], hbehind⟩
  | not operand => exact absurd hword hnot
  | binary op coercion left right => exact absurd hword hnonempty
  | concat delimiter items => exact absurd hbehind hrest.ne_parenthesis
  | rand => exact absurd hword hrand

theorem shape_eq_of_leaf_right {e e' : Expr} {text : String} {rest rest' : List Char}
    (hleaf : e'.leafText? = some text) (h' : e'.Legible) (hrest' : Closes rest')
    (hword : e.firstWord = e'.firstWord)
    (hbehind : e.behindWord ++ rest = e'.behindWord ++ rest') :
    e.shape = e'.shape ∧ rest = rest' := by
  obtain ⟨hshape, hsame⟩ := shape_eq_of_leaf_left hleaf h' hrest' hword.symm hbehind.symm
  exact ⟨hshape.symm, hsame.symm⟩

/-! ### Unambiguity -/

theorem symbol_append_inj {op op' : BinaryOp} {rest rest' : List Char}
    (h : op.symbol.toList ++ ' ' :: rest = op'.symbol.toList ++ ' ' :: rest') :
    op = op' ∧ rest = rest' := by
  have hspace : ∀ op ∈ BinaryOp.all, ' ' ∉ op.symbol.toList := by decide
  obtain ⟨hsymbol, hrest⟩ := Text.append_cons_inj (hspace op op.mem_all)
    (hspace op' op'.mem_all) h
  have hread : BinaryOp.ofSymbol? op.symbol = BinaryOp.ofSymbol? op'.symbol := by
    rw [String.toList_inj.1 hsymbol]
  rw [BinaryOp.ofSymbol?_symbol, BinaryOp.ofSymbol?_symbol] at hread
  exact ⟨Option.some.inj hread, hrest⟩

mutual

/-- Legible renderings that agree up to what follows them are of trees of one shape, and what
    follows is the same. -/
theorem render_append_inj : ∀ (e e' : Expr) (rest rest' : List Char), e.Legible → e'.Legible →
    Closes rest → Closes rest' → e.render.toList ++ rest = e'.render.toList ++ rest' →
      e.shape = e'.shape ∧ rest = rest'
  | constant v, e', rest, rest' => by
    intro h h' hrest hrest' heq
    obtain ⟨hword, hbehind⟩ := firstWord_inj h h' hrest hrest' heq
    exact shape_eq_of_leaf_left rfl h hrest hword hbehind
  | param name, e', rest, rest' => by
    intro h h' hrest hrest' heq
    obtain ⟨hword, hbehind⟩ := firstWord_inj h h' hrest hrest' heq
    exact shape_eq_of_leaf_left rfl h hrest hword hbehind
  | not operand, e', rest, rest' => by
    intro h h' hrest hrest' heq
    obtain ⟨hword, hbehind⟩ := firstWord_inj h h' hrest hrest' heq
    cases e' with
    | constant | param => exact shape_eq_of_leaf_right rfl h' hrest' hword hbehind
    | binary | concat | rand => exact absurd hword (by simp [firstWord])
    | not operand' =>
      obtain ⟨hshape, hsame⟩ := render_append_inj operand operand' rest rest' h.not h'.not hrest
        hrest' (List.cons.inj hbehind).2
      exact ⟨by rw [shape, shape, hshape], hsame⟩
  | binary op coercion left right, e', rest, rest' => by
    intro h h' hrest hrest' heq
    obtain ⟨hword, hbehind⟩ := firstWord_inj h h' hrest hrest' heq
    cases e' with
    | constant | param => exact shape_eq_of_leaf_right rfl h' hrest' hword hbehind
    | not | concat | rand => exact absurd hword (by simp [firstWord])
    | binary op' coercion' left' right' =>
      -- Read from the left: an operand, the operator between blanks, an operand, the end.
      simp only [behindWord, List.cons_append, List.append_assoc, List.cons.injEq, true_and]
        at hbehind
      obtain ⟨hleft, hbehind⟩ := render_append_inj left left' _ _ h.binary.1 h'.binary.1
        (closes_cons (by decide) _) (closes_cons (by decide) _) hbehind
      obtain ⟨hop, hbehind⟩ := symbol_append_inj (List.cons.inj hbehind).2
      obtain ⟨hright, hbehind⟩ := render_append_inj right right' _ _ h.binary.2 h'.binary.2
        (closes_cons (by decide) _) (closes_cons (by decide) _) hbehind
      exact ⟨by rw [shape, shape, hop, hleft, hright], (List.cons.inj hbehind).2⟩
  | concat delimiter items, e', rest, rest' => by
    intro h h' hrest hrest' heq
    obtain ⟨hword, hbehind⟩ := firstWord_inj h h' hrest hrest' heq
    cases e' with
    -- A leaf may be called `CONCAT`, but no parenthesis follows it.
    | constant | param => exact shape_eq_of_leaf_right rfl h' hrest' hword hbehind
    | not | binary | rand => exact absurd hword (by simp [firstWord])
    | concat delimiter' items' =>
      simp only [behindWord, List.cons_append, List.append_assoc, List.cons.injEq, true_and]
        at hbehind
      obtain ⟨hdelimiter, hbehind⟩ := render_append_inj delimiter delimiter' _ _ h.concat.1
        h'.concat.1 (closes_renderItems items rest) (closes_renderItems items' rest') hbehind
      obtain ⟨hitems, hsame⟩ := renderItems_append_inj items items' rest rest' h.concat.2
        h'.concat.2 hbehind
      exact ⟨by rw [shape, shape, hdelimiter, hitems], hsame⟩
  | rand, e', rest, rest' => by
    intro h h' hrest hrest' heq
    obtain ⟨hword, hbehind⟩ := firstWord_inj h h' hrest hrest' heq
    cases e' with
    | constant | param => exact shape_eq_of_leaf_right rfl h' hrest' hword hbehind
    | not | binary | concat => exact absurd hword (by simp [firstWord])
    | rand => exact ⟨rfl, hbehind⟩

/-- Rows of items that agree up to the parenthesis that ends them have the same shapes. -/
theorem renderItems_append_inj : ∀ (items items' : List Expr) (rest rest' : List Char),
    LegibleItems items → LegibleItems items' →
      (renderItems items).toList ++ ')' :: rest = (renderItems items').toList ++ ')' :: rest' →
        shapes items = shapes items' ∧ rest = rest'
  | [], [], rest, rest' => by
    intro _ _ heq
    exact ⟨rfl, (List.cons.inj heq).2⟩
  | [], item' :: items', rest, rest' => by
    intro _ _ heq
    rw [renderItems_cons_toList] at heq
    cases heq
  | item :: items, [], rest, rest' => by
    intro _ _ heq
    rw [renderItems_cons_toList] at heq
    cases heq
  | item :: items, item' :: items', rest, rest' => by
    intro h h' heq
    simp only [renderItems_cons_toList, List.cons_append, List.append_assoc, List.cons.injEq,
      true_and] at heq
    obtain ⟨hitem, heq⟩ := render_append_inj item item' _ _ h.cons.1 h'.cons.1
      (closes_renderItems items rest) (closes_renderItems items' rest') heq
    obtain ⟨hitems, hsame⟩ := renderItems_append_inj items items' rest rest' h.cons.2 h'.cons.2 heq
    exact ⟨by rw [shapes, shapes, hitem, hitems], hsame⟩

end

/-! ### Shapes determine renderings -/

mutual

theorem render_eq_of_shape_eq : ∀ e e' : Expr, e.shape = e'.shape → e.render = e'.render
  | constant v, e', h => by
    cases e' with
    | constant w => simpa [shape, render_constant] using h
    | param name => simpa [shape, render_constant, render_param] using h
    | not | binary | concat | rand => simp [shape] at h
  | param name, e', h => by
    cases e' with
    | constant w => simpa [shape, render_constant, render_param] using h
    | param name' => simpa [shape, render_param] using h
    | not | binary | concat | rand => simp [shape] at h
  | not operand, e', h => by
    cases e' with
    | not operand' =>
      rw [render_not, render_not, render_eq_of_shape_eq operand operand' (by simpa [shape] using h)]
    | constant | param | binary | concat | rand => simp [shape] at h
  | binary op coercion left right, e', h => by
    cases e' with
    | binary op' coercion' left' right' =>
      simp only [shape, Shape.binary.injEq] at h
      rw [render_binary, render_binary, h.1, render_eq_of_shape_eq left left' h.2.1,
        render_eq_of_shape_eq right right' h.2.2]
    | constant | param | not | concat | rand => simp [shape] at h
  | concat delimiter items, e', h => by
    cases e' with
    | concat delimiter' items' =>
      simp only [shape, Shape.concat.injEq] at h
      rw [render_concat, render_concat, render_eq_of_shape_eq delimiter delimiter' h.1,
        renderItems_eq_of_shapes_eq items items' h.2]
    | constant | param | not | binary | rand => simp [shape] at h
  | rand, e', h => by
    cases e' with
    | rand => rfl
    | constant | param | not | binary | concat => simp [shape] at h

theorem renderItems_eq_of_shapes_eq : ∀ items items' : List Expr,
    shapes items = shapes items' → renderItems items = renderItems items'
  | [], [], _ => rfl
  | [], _ :: _, h => by simp [shapes] at h
  | _ :: _, [], h => by simp [shapes] at h
  | item :: items, item' :: items', h => by
    simp only [shapes, List.cons.injEq] at h
    rw [renderItems_cons, renderItems_cons, render_eq_of_shape_eq item item' h.1,
      renderItems_eq_of_shapes_eq items items' h.2]

end

/-- **Unambiguity**: two trees whose leaf texts are words have the same rendering if and only if
    they have the same shape: the same negations, the same operators over the same operands, the
    same concatenations of as many items in the same order, and the same random nodes, with the
    same texts at the leaves. Only policies, and which leaves are constants and which parameters,
    can be different. -/
theorem render_eq_iff_shape_eq (e e' : Expr) (h : e.Legible) (h' : e'.Legible) :
    e.render = e'.render ↔ e.shape = e'.shape := by
  constructor
  · intro heq
    have hnothing : Closes [] := fun c hc => by cases hc
    have hchars : e.render.toList ++ [] = e'.render.toList ++ [] := by rw [heq]
    exact (render_append_inj e e' [] [] h h' hnothing hnothing hchars).1
  · exact render_eq_of_shape_eq e e'

/-- Two trees with one rendering, which has `CONCAT` and `LIKE` as leaves and as parts of the
    notation. -/
theorem render_eq_iff_shape_eq_keyword_leaves :
    let e := not (concat (param "CONCAT") [binary .like .strict (constant (.str "LIKE")) rand])
    let e' := not (concat (constant (.str "CONCAT")) [binary .like .lenient (param "LIKE") rand])
    e.Legible ∧ e'.Legible ∧ e.render = "NOT CONCAT(CONCAT, (LIKE LIKE RAND))" ∧
      e.render = e'.render ∧ e.shape = e'.shape := by
  intro e e'
  have hwords : ∀ text ∈ ["CONCAT", "LIKE"], IsLeafWord text := by
    intro text htext
    have hfixed : ∀ text ∈ ["CONCAT", "LIKE"],
        text ≠ "" ∧ text.toList.all isWordChar ∧ text ≠ "NOT" ∧ text ≠ "RAND" := by
      decide
    obtain ⟨hne, hall, hnames⟩ := hfixed text htext
    exact ⟨hne, List.all_eq_true.1 hall, hnames⟩
  have h : e.Legible := hwords
  have h' : e'.Legible := hwords
  have hshape : e.shape = e'.shape := by
    simp [e, e', shape, shapes, Value.display]
  refine ⟨h, h', by decide, ?_, hshape⟩
  exact (render_eq_iff_shape_eq e e' h h').2 hshape

end Expr

end DynExpr
