import DynExpr.Expr
import DynExpr.Value.Text

/-! # The texts of a tree

    * `Expr.render` is the text shown to a reader. Binary nodes stand in
      parentheses; kinds and policies are not shown.
    * `Expr.structural` shows everything that a tree is made of.

    Both grow a text that is handed from node to node, so that a text takes
    time in proportion to its length, however deep the tree is. The equations
    `render_not`, `structural_not` and so on say what is written for each
    kind of node.
-/

namespace DynExpr.Expr

/-! ### Rendering -/

mutual

/-- The text `out`, followed by the rendering of a tree. -/
def renderOnto (out : String) : Expr → String
  | constant v              => out ++ v.display
  | param name              => out ++ name
  | not operand             => operand.renderOnto (out ++ negationSymbol ++ " ")
  | binary op _ left right  =>
    right.renderOnto (left.renderOnto (out ++ "(") ++ " " ++ op.symbol ++ " ") ++ ")"
  | concat delimiter items  =>
    renderItemsOnto (delimiter.renderOnto (out ++ "CONCAT(")) items ++ ")"
  | rand                    => out ++ "RAND"

/-- The text `out`, followed by the renderings of some items, each behind a comma. -/
def renderItemsOnto (out : String) : List Expr → String
  | []            => out
  | item :: items => renderItemsOnto (item.renderOnto (out ++ ", ")) items

end

/-- The rendering of a tree. -/
def render (e : Expr) : String := e.renderOnto ""

/-- The rendering of some items, each behind a comma. -/
def renderItems (items : List Expr) : String := renderItemsOnto "" items

mutual

/-- Rendering onto a text puts the rendering behind it. -/
theorem renderOnto_eq (out : String) : ∀ e : Expr, e.renderOnto out = out ++ e.render
  | constant v => by simp [render, renderOnto]
  | param name => by simp [render, renderOnto]
  | not operand => by
    rw [render]
    simp only [renderOnto, renderOnto_eq _ operand, String.append_assoc, String.empty_append]
  | binary op coercion left right => by
    rw [render]
    simp only [renderOnto, renderOnto_eq _ left, renderOnto_eq _ right, String.append_assoc,
      String.empty_append]
  | concat delimiter items => by
    rw [render]
    simp only [renderOnto, renderOnto_eq _ delimiter, renderItemsOnto_eq _ items,
      String.append_assoc, String.empty_append]
  | rand => by simp [render, renderOnto]

theorem renderItemsOnto_eq (out : String) :
    ∀ items : List Expr, renderItemsOnto out items = out ++ renderItems items
  | [] => by simp [renderItems, renderItemsOnto]
  | item :: items => by
    rw [renderItems]
    simp only [renderItemsOnto, renderOnto_eq _ item, renderItemsOnto_eq _ items,
      String.append_assoc, String.empty_append]

end

/-! One equation per node. -/

theorem render_constant (v : Value) : (constant v).render = v.display := by
  simp [render, renderOnto]

theorem render_param (name : String) : (param name).render = name := by
  simp [render, renderOnto]

theorem render_not (operand : Expr) :
    (not operand).render = negationSymbol ++ " " ++ operand.render := by
  rw [render, renderOnto, renderOnto_eq, String.empty_append]

theorem render_binary (op : BinaryOp) (coercion : Coercion) (left right : Expr) :
    (binary op coercion left right).render =
      "(" ++ left.render ++ " " ++ op.symbol ++ " " ++ right.render ++ ")" := by
  rw [render, renderOnto, renderOnto_eq _ right, renderOnto_eq _ left, String.empty_append]

theorem render_concat (delimiter : Expr) (items : List Expr) :
    (concat delimiter items).render =
      "CONCAT(" ++ delimiter.render ++ renderItems items ++ ")" := by
  rw [render, renderOnto, renderItemsOnto_eq, renderOnto_eq, String.empty_append]

theorem render_rand : rand.render = "RAND" := rfl

theorem renderItems_cons (item : Expr) (items : List Expr) :
    renderItems (item :: items) = ", " ++ item.render ++ renderItems items := by
  rw [renderItems, renderItemsOnto, renderItemsOnto_eq, renderOnto_eq, String.empty_append]

/-! ### Structure -/

mutual

/-- The text `out`, followed by the structural text of a tree. -/
def structuralOnto (out : String) : Expr → String
  | constant v                     => out ++ "Constant(" ++ v.structural ++ ")"
  | param name                     => out ++ "Param(" ++ Text.quoted name ++ ")"
  | not operand                    => operand.structuralOnto (out ++ "Not(") ++ ")"
  | binary op coercion left right  =>
    let out := left.structuralOnto (out ++ "Binary(BinaryExpr \x7b op: " ++ op.name ++
      ", coercion: " ++ coercion.name ++ ", left: ")
    right.structuralOnto (out ++ ", right: ") ++ " \x7d)"
  | concat delimiter []            =>
    delimiter.structuralOnto (out ++ "Concat(ConcatExpr \x7b delimiter: ") ++
      ", items: [] \x7d)"
  | concat delimiter (item :: items) =>
    let out := delimiter.structuralOnto (out ++ "Concat(ConcatExpr \x7b delimiter: ")
    structuralItemsOnto (item.structuralOnto (out ++ ", items: [")) items ++ "] \x7d)"
  | rand                           => out ++ "Rand"

/-- The text `out`, followed by the structural texts of some items, each behind a comma. -/
def structuralItemsOnto (out : String) : List Expr → String
  | []            => out
  | item :: items => structuralItemsOnto (item.structuralOnto (out ++ ", ")) items

end

/-- The structural text of a tree. -/
def structural (e : Expr) : String := e.structuralOnto ""

/-- The structural texts of some items, each behind a comma. -/
def structuralItems (items : List Expr) : String := structuralItemsOnto "" items

mutual

/-- Writing the structural text onto a text puts it behind it. -/
theorem structuralOnto_eq (out : String) : ∀ e : Expr, e.structuralOnto out = out ++ e.structural
  | constant v => by simp [structural, structuralOnto, String.append_assoc]
  | param name => by simp [structural, structuralOnto, String.append_assoc]
  | not operand => by
    rw [structural]
    simp only [structuralOnto, structuralOnto_eq _ operand, String.append_assoc,
      String.empty_append]
  | binary op coercion left right => by
    rw [structural]
    simp only [structuralOnto, structuralOnto_eq _ left, structuralOnto_eq _ right,
      String.append_assoc, String.empty_append]
  | concat delimiter [] => by
    rw [structural]
    simp only [structuralOnto, structuralOnto_eq _ delimiter, String.append_assoc,
      String.empty_append]
  | concat delimiter (item :: items) => by
    rw [structural]
    simp only [structuralOnto, structuralOnto_eq _ delimiter, structuralOnto_eq _ item,
      structuralItemsOnto_eq _ items, String.append_assoc, String.empty_append]
  | rand => by simp [structural, structuralOnto]

theorem structuralItemsOnto_eq (out : String) :
    ∀ items : List Expr, structuralItemsOnto out items = out ++ structuralItems items
  | [] => by simp [structuralItems, structuralItemsOnto]
  | item :: items => by
    rw [structuralItems]
    simp only [structuralItemsOnto, structuralOnto_eq _ item, structuralItemsOnto_eq _ items,
      String.append_assoc, String.empty_append]

end

/-! One equation per node. -/

theorem structural_constant (v : Value) :
    (constant v).structural = "Constant(" ++ v.structural ++ ")" := by
  simp [structural, structuralOnto]

theorem structural_param (name : String) :
    (param name).structural = "Param(" ++ Text.quoted name ++ ")" := by
  simp [structural, structuralOnto]

theorem structural_not (operand : Expr) :
    (not operand).structural = "Not(" ++ operand.structural ++ ")" := by
  rw [structural, structuralOnto, structuralOnto_eq, String.empty_append]

theorem structural_binary (op : BinaryOp) (coercion : Coercion) (left right : Expr) :
    (binary op coercion left right).structural =
      "Binary(BinaryExpr \x7b op: " ++ op.name ++ ", coercion: " ++ coercion.name ++
        ", left: " ++ left.structural ++ ", right: " ++ right.structural ++ " \x7d)" := by
  rw [structural]
  simp only [structuralOnto, structuralOnto_eq _ left, structuralOnto_eq _ right,
    String.empty_append]

theorem structural_concat_nil (delimiter : Expr) :
    (concat delimiter []).structural =
      "Concat(ConcatExpr \x7b delimiter: " ++ delimiter.structural ++ ", items: [] \x7d)" := by
  rw [structural, structuralOnto, structuralOnto_eq, String.empty_append]

theorem structural_concat_cons (delimiter item : Expr) (items : List Expr) :
    (concat delimiter (item :: items)).structural =
      "Concat(ConcatExpr \x7b delimiter: " ++ delimiter.structural ++ ", items: [" ++
        item.structural ++ structuralItems items ++ "] \x7d)" := by
  rw [structural]
  simp only [structuralOnto, structuralOnto_eq _ delimiter, structuralOnto_eq _ item,
    structuralItemsOnto_eq _ items, String.empty_append]

theorem structural_rand : rand.structural = "Rand" := rfl

theorem structuralItems_nil : structuralItems [] = "" := rfl

theorem structuralItems_cons (item : Expr) (items : List Expr) :
    structuralItems (item :: items) = ", " ++ item.structural ++ structuralItems items := by
  rw [structuralItems, structuralItemsOnto, structuralItemsOnto_eq, structuralOnto_eq,
    String.empty_append]

end DynExpr.Expr
