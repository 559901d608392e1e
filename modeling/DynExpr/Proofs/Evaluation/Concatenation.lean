import DynExpr.Expr.Eval

/-! # Concatenations

    A concatenation evaluates a row of trees, the delimiter and then the
    items, and joins the texts of the items:

    * **Rows**: `Yields` and `Breaks` say what the trees of a row come to when
      they are evaluated one after the other, each from the state that the one
      before it left. `runItems_eq_ok_iff` and `runItems_eq_error_iff` read
      the evaluation of items off them.
    * **Texts**: the delimiter stands between consecutive texts and nowhere
      else (`intercalate_eq_join`).
    * **Nesting**: a concatenation among the items of another one, with the
      same constant delimiter, can be replaced by its own items, if it has any
      (`eval_concat_nested`).

    **`run_concat_joins`** puts them together.
-/

namespace DynExpr

/-! ### Texts -/

/-- The texts are written one after the other, with the delimiter between each two of them. -/
theorem intercalate_eq_join (delimiter : String) (texts : List String) :
    String.intercalate delimiter texts = String.join (texts.intersperse delimiter) := by
  induction texts with
  | nil => rfl
  | cons text texts ih =>
    cases texts with
    | nil => rw [String.intercalate_singleton, List.intersperse_singleton, String.join_cons,
        String.join_nil, String.append_empty]
    | cons next texts =>
      rw [String.intercalate_cons_cons, ih, List.intersperse_cons_cons, String.join_cons,
        String.join_cons, String.append_assoc]

/-- A joined text among other texts can be replaced by the texts that it is joined from. There
    must be some: without any it is empty, but still has delimiters next to it. -/
theorem intercalate_nested (delimiter text : String) (before texts after : List String) :
    String.intercalate delimiter
        (before ++ String.intercalate delimiter (text :: texts) :: after) =
      String.intercalate delimiter (before ++ (text :: texts ++ after)) := by
  -- With texts before it or not, what counts is how the joined text goes on.
  have hafter : String.intercalate delimiter (String.intercalate delimiter (text :: texts) :: after)
      = String.intercalate delimiter (text :: texts ++ after) := by
    cases after with
    | nil => rw [String.intercalate_singleton, List.append_nil]
    | cons next after =>
      rw [String.intercalate_cons_cons,
        String.intercalate_append_of_ne_nil (List.cons_ne_nil _ _) (List.cons_ne_nil _ _)]
  cases before with
  | nil => exact hafter
  | cons first before =>
    have hbefore : first :: before ≠ [] := List.cons_ne_nil first before
    have hsome : text :: texts ++ after ≠ [] := List.cons_ne_nil text (texts ++ after)
    rw [String.intercalate_append_of_ne_nil hbefore (List.cons_ne_nil _ _), hafter,
      String.intercalate_append_of_ne_nil hbefore hsome]

/-- Joined without texts of its own, the inner one would leave an empty text between delimiters. -/
example : String.intercalate "," ["a", String.intercalate "," [], "b"] = "a,,b" := by decide

namespace Expr

variable {params : Params}

/-! ### Rows of trees -/

/-- From one state to another, some trees evaluate to some values, one tree after the other. -/
inductive Yields (params : Params) : EvalState → List Expr → List Value → EvalState → Prop where
  | nil (s : EvalState) : Yields params s [] [] s
  | cons {s s' s'' : EvalState} {e : Expr} {v : Value} {es : List Expr} {vs : List Value}
      (head : e.run params s = (.ok v, s')) (tail : Yields params s' es vs s'') :
      Yields params s (e :: es) (v :: vs) s''

/-- Some trees are evaluated one after the other until one of them fails; those behind it are
    not evaluated. -/
inductive Breaks (params : Params) : EvalState → List Expr → EvalError → EvalState → Prop where
  | head {s s' : EvalState} {e : Expr} {err : EvalError} (es : List Expr)
      (fails : e.run params s = (.error err, s')) : Breaks params s (e :: es) err s'
  | tail {s s' s'' : EvalState} {e : Expr} {v : Value} {es : List Expr} {err : EvalError}
      (head : e.run params s = (.ok v, s')) (rest : Breaks params s' es err s'') :
      Breaks params s (e :: es) err s''

/-- Items evaluate to the texts of their values. -/
theorem runItems_eq_ok_iff {items : List Expr} {s s' : EvalState} {texts : List String} :
    runItems items params s = (.ok texts, s') ↔
      ∃ vs, Yields params s items vs s' ∧ texts = vs.map Value.display := by
  induction items generalizing s texts with
  | nil =>
    rw [runItems_nil]
    constructor
    · intro h
      cases h
      exact ⟨[], .nil _, rfl⟩
    · intro h
      obtain ⟨vs, hvs, rfl⟩ := h
      cases hvs
      rfl
  | cons item items ih =>
    -- The first item decides whether the others are evaluated, so it is looked at first.
    rw [runItems_cons]
    constructor
    · intro h
      split at h
      · next v s₁ hitem =>
        split at h
        · next texts' s₂ hitems =>
          cases h
          obtain ⟨vs, hvs, rfl⟩ := ih.1 hitems
          exact ⟨v :: vs, .cons hitem hvs, rfl⟩
        · cases h
      · cases h
    · intro h
      obtain ⟨vs, hvs, rfl⟩ := h
      cases hvs with
      | cons head tail =>
        have hitems := ih.2 ⟨_, tail, rfl⟩
        simp only [head, hitems, List.map_cons]

/-- Items fail as the first of them does that fails. -/
theorem runItems_eq_error_iff {items : List Expr} {s s' : EvalState} {err : EvalError} :
    runItems items params s = (.error err, s') ↔ Breaks params s items err s' := by
  induction items generalizing s with
  | nil =>
    rw [runItems_nil]
    exact iff_of_false nofun nofun
  | cons item items ih =>
    rw [runItems_cons]
    constructor
    · intro h
      split at h
      · next v s₁ hitem =>
        split at h
        · cases h
        · next err' s₂ hitems =>
          cases h
          exact .tail hitem (ih.1 hitems)
      · next err' s₁ hitem =>
        -- Its failure is that of the row: the others are not reached.
        cases h
        exact .head items hitem
    · intro h
      cases h with
      | head _ fails => simp only [fails]
      | tail head rest => simp only [head, ih.2 rest]

/-! ### Concatenation nodes -/

/-- A concatenation evaluates the row that its delimiter starts. -/
theorem run_concat_row (params : Params) (s : EvalState) (delimiter : Expr) (items : List Expr) :
    (concat delimiter items).run params s =
      ((runItems (delimiter :: items) params s).1.map fun texts =>
          .str (String.intercalate (texts.headD "") texts.tail),
        (runItems (delimiter :: items) params s).2) := by
  rw [run_concat, runItems_cons]
  rcases delimiter.run params s with ⟨_ | d, s₁⟩
  · rfl
  · rcases h : runItems items params s₁ with ⟨_ | texts, s₂⟩ <;> simp only [h] <;> rfl

/-- It succeeds if the whole row does, and its value is the text of the items' texts with that of
    the delimiter between them. -/
theorem run_concat_eq_ok_iff {s s' : EvalState} {delimiter : Expr} {items : List Expr}
    {v : Value} :
    (concat delimiter items).run params s = (.ok v, s') ↔
      ∃ d vs, Yields params s (delimiter :: items) (d :: vs) s' ∧
        v = .str (String.join ((vs.map Value.display).intersperse d.display)) := by
  rw [run_concat_row]
  constructor
  · intro h
    rcases hrow : runItems (delimiter :: items) params s with ⟨_ | texts, s₁⟩
    · rw [hrow] at h
      cases h
    · rw [hrow] at h
      cases h
      obtain ⟨vs, hvs, rfl⟩ := runItems_eq_ok_iff.1 hrow
      cases hvs with
      | @cons _ _ _ _ d _ vs head tail =>
        refine ⟨d, vs, .cons head tail, ?_⟩
        rw [← intercalate_eq_join]
        rfl
  · intro h
    obtain ⟨d, vs, hvs, rfl⟩ := h
    rw [runItems_eq_ok_iff.2 ⟨d :: vs, hvs, rfl⟩, ← intercalate_eq_join]
    rfl

/-- It fails as the first tree of the row does that fails. -/
theorem run_concat_eq_error_iff {s s' : EvalState} {delimiter : Expr} {items : List Expr}
    {err : EvalError} :
    (concat delimiter items).run params s = (.error err, s') ↔
      Breaks params s (delimiter :: items) err s' := by
  rw [run_concat_row, ← runItems_eq_error_iff]
  rcases runItems (delimiter :: items) params s with ⟨_ | texts, s₁⟩
  · simp only [Except.map, Prod.mk.injEq, Except.error.injEq]
  · exact iff_of_false nofun nofun

/-! ### Nested concatenations -/

/-- Some items and then others are evaluated as one row. -/
theorem evalItems_append (items others : List Expr) :
    evalItems params (items ++ others) = (do
      let texts ← evalItems params items
      let more ← evalItems params others
      pure (texts ++ more)) := by
  induction items with
  | nil => simp [evalItems]
  | cons item items ih => simp [evalItems, ih]

/-- **Nesting**: items of a concatenation can be put together in one of their own, with the same
    constant delimiter. As a computation it is the same, so not only the text but also errors,
    draws and events are those of the items. -/
theorem eval_concat_nested (d : Value) (before items after : List Expr) (h : items ≠ []) :
    (concat (constant d) (before ++ [concat (constant d) items] ++ after)).eval params =
      (concat (constant d) (before ++ items ++ after)).eval params := by
  obtain ⟨item, items, rfl⟩ := List.exists_cons_of_ne_nil h
  simp [eval, evalItems, evalItems_append, Value.display, intercalate_nested]

/-- **Concatenations**: a concatenation evaluates its delimiter, whether it has items or not, and
    then its items in order. If all of them succeed its value is their texts with that of the
    delimiter between them, and else it fails as the first of them does. A nested one with the same
    constant delimiter and items of its own makes no difference. -/
theorem run_concat_joins (params : Params) (s : EvalState) (delimiter : Expr)
    (items : List Expr) :
    (∀ v s', (concat delimiter items).run params s = (.ok v, s') ↔
      ∃ d vs, Yields params s (delimiter :: items) (d :: vs) s' ∧
        v = .str (String.join ((vs.map Value.display).intersperse d.display))) ∧
    (∀ err s', (concat delimiter items).run params s = (.error err, s') ↔
      Breaks params s (delimiter :: items) err s') ∧
    ∀ d before inner after, inner ≠ [] →
      (concat (constant d) (before ++ [concat (constant d) inner] ++ after)).run params s =
        (concat (constant d) (before ++ inner ++ after)).run params s := by
  refine ⟨fun v s' => run_concat_eq_ok_iff, fun err s' => run_concat_eq_error_iff, ?_⟩
  intro d before inner after h
  rw [run, run, eval_concat_nested d before inner after h]

end Expr

end DynExpr
