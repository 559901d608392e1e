import DynExpr.Expr

/-! # The walk through a tree

    The order in which evaluation takes the nodes of a tree, said without
    evaluating anything:

    * **Order**: parts come before their node, left before right, the
      delimiter before the items and the items in order. `Expr.nodes` lists
      the nodes, and `Expr.walk` lists them as visits.
    * **Draws**: a visit knows how many draws lie before its node. Only
      random nodes draw, so `Expr.drawCount` is their number, and
      `Expr.walk_tallied` says that the walk counts right.
-/

namespace DynExpr

namespace Expr

/-! ### Nodes -/

mutual

/-- All nodes of a tree, each with everything below it, in the order of evaluation. -/
def nodes : Expr → List Expr
  | constant v => [constant v]
  | param name => [param name]
  | not operand => operand.nodes ++ [not operand]
  | binary op coercion left right =>
    left.nodes ++ right.nodes ++ [binary op coercion left right]
  | concat delimiter items =>
    delimiter.nodes ++ itemNodes items ++ [concat delimiter items]
  | rand => [rand]

/-- The nodes of some items, in order. -/
def itemNodes : List Expr → List Expr
  | [] => []
  | item :: items => item.nodes ++ itemNodes items

end

/-- Is it a random node? -/
def isRand : Expr → Bool
  | rand => true
  | _    => false

mutual

/-- The number of random nodes in a tree. -/
def drawCount : Expr → Nat
  | constant _ => 0
  | param _ => 0
  | not operand => operand.drawCount
  | binary _ _ left right => left.drawCount + right.drawCount
  | concat delimiter items => delimiter.drawCount + drawCounts items
  | rand => 1

/-- The number of random nodes in some trees. -/
def drawCounts : List Expr → Nat
  | [] => 0
  | item :: items => item.drawCount + drawCounts items

end

end Expr

/-! ### Visits -/

/-- A node met on the walk through a tree. -/
structure Visit where
  /-- How many draws lie between the start of the walk and the first part of the node. -/
  offset : Nat
  /-- The node, with everything below it. -/
  node : Expr

namespace Visit

/-- How many draws the node takes itself, its parts not counted. -/
def drawn (visit : Visit) : Nat := if visit.node.isRand then 1 else 0

/-- How many draws some visits take together. -/
def drawnBy : List Visit → Nat
  | [] => 0
  | visit :: visits => visit.drawn + drawnBy visits

@[simp] theorem drawnBy_nil : drawnBy [] = 0 := rfl

@[simp] theorem drawnBy_cons (visit : Visit) (visits : List Visit) :
    drawnBy (visit :: visits) = visit.drawn + drawnBy visits := rfl

@[simp] theorem drawnBy_append (visits others : List Visit) :
    drawnBy (visits ++ others) = drawnBy visits + drawnBy others := by
  induction visits with
  | nil => simp
  | cons visit visits ih => simp [ih, Nat.add_assoc]

/-- With `k` draws before the first of the visits, every visit has taken just the draws of its
    tree when it is over. -/
def Tallied : Nat → List Visit → Prop
  | _, [] => True
  | k, visit :: visits =>
    k + visit.drawn = visit.offset + visit.node.drawCount ∧ Tallied (k + visit.drawn) visits

theorem tallied_append {k : Nat} (visits others : List Visit) :
    Tallied k (visits ++ others) ↔ Tallied k visits ∧ Tallied (k + drawnBy visits) others := by
  induction visits generalizing k with
  | nil => simp [Tallied]
  | cons visit visits ih =>
    rw [List.cons_append, Tallied, ih, Tallied, drawnBy_cons, Nat.add_assoc k, and_assoc]

/-- The random nodes among tallied visits are numbered without a gap. -/
theorem Tallied.rand_offsets {k : Nat} {visits : List Visit} (h : Tallied k visits) :
    (visits.filter (·.node.isRand)).map offset = List.range' k (drawnBy visits) := by
  induction visits generalizing k with
  | nil => rfl
  | cons visit visits ih =>
    obtain ⟨hvisit, hrest⟩ := h
    rcases visit with ⟨offset, node⟩
    cases node with
    | rand =>
      -- One draw before and after: the offset of a random node is the draws so far.
      have hk : k = offset := Nat.add_right_cancel hvisit
      subst hk
      have hdrawn : drawn ⟨k, .rand⟩ = 1 := rfl
      rw [hdrawn] at hrest
      rw [List.filter_cons_of_pos rfl, List.map_cons, ih hrest, drawnBy_cons, hdrawn,
        Nat.add_comm 1, List.range'_succ]
    | constant | param | not | binary | concat =>
      -- Other nodes draw nothing, so the numbering goes on where it was.
      rw [List.filter_cons_of_neg (by simp [Expr.isRand])]
      simpa [drawn, Expr.isRand] using ih hrest

end Visit

namespace Expr

mutual

/-- The walk through a tree, with `k` draws before it. -/
def walkFrom (k : Nat) : Expr → List Visit
  | constant v => [⟨k, constant v⟩]
  | param name => [⟨k, param name⟩]
  | not operand => operand.walkFrom k ++ [⟨k, not operand⟩]
  | binary op coercion left right =>
    left.walkFrom k ++ right.walkFrom (k + left.drawCount) ++
      [⟨k, binary op coercion left right⟩]
  | concat delimiter items =>
    delimiter.walkFrom k ++ walkItemsFrom (k + delimiter.drawCount) items ++
      [⟨k, concat delimiter items⟩]
  | rand => [⟨k, rand⟩]

/-- The walks through some items in order, with `k` draws before them. -/
def walkItemsFrom (k : Nat) : List Expr → List Visit
  | [] => []
  | item :: items => item.walkFrom k ++ walkItemsFrom (k + item.drawCount) items

end

/-- The walk through a tree. -/
def walk (e : Expr) : List Visit := e.walkFrom 0

mutual

/-- The walk meets the nodes of the tree, in their order. -/
theorem walkFrom_nodes (k : Nat) : ∀ e : Expr, (e.walkFrom k).map Visit.node = e.nodes
  | constant _ | param _ | rand => rfl
  | not operand => by
    have hoperand := walkFrom_nodes k operand
    simp [walkFrom, nodes, hoperand]
  | binary _ _ left right => by
    have hleft := walkFrom_nodes k left
    have hright := walkFrom_nodes (k + left.drawCount) right
    simp [walkFrom, nodes, hleft, hright]
  | concat delimiter items => by
    have hdelimiter := walkFrom_nodes k delimiter
    have hitems := walkItemsFrom_nodes (k + delimiter.drawCount) items
    simp [walkFrom, nodes, hdelimiter, hitems]

theorem walkItemsFrom_nodes (k : Nat) :
    ∀ items : List Expr, (walkItemsFrom k items).map Visit.node = itemNodes items
  | [] => rfl
  | item :: items => by
    have hitem := walkFrom_nodes k item
    have hitems := walkItemsFrom_nodes (k + item.drawCount) items
    simp [walkItemsFrom, itemNodes, hitem, hitems]

end

mutual

/-- The walk takes as many draws as the tree has random nodes. -/
theorem drawnBy_walkFrom (k : Nat) : ∀ e : Expr, Visit.drawnBy (e.walkFrom k) = e.drawCount
  | constant _ | param _ | rand => rfl
  | not operand => by
    have hoperand := drawnBy_walkFrom k operand
    simp [walkFrom, drawCount, Visit.drawn, isRand, hoperand]
  | binary _ _ left right => by
    have hleft := drawnBy_walkFrom k left
    have hright := drawnBy_walkFrom (k + left.drawCount) right
    simp [walkFrom, drawCount, Visit.drawn, isRand, hleft, hright]
  | concat delimiter items => by
    have hdelimiter := drawnBy_walkFrom k delimiter
    have hitems := drawnBy_walkItemsFrom (k + delimiter.drawCount) items
    simp [walkFrom, drawCount, Visit.drawn, isRand, hdelimiter, hitems]

theorem drawnBy_walkItemsFrom (k : Nat) :
    ∀ items : List Expr, Visit.drawnBy (walkItemsFrom k items) = drawCounts items
  | [] => rfl
  | item :: items => by
    have hitem := drawnBy_walkFrom k item
    have hitems := drawnBy_walkItemsFrom (k + item.drawCount) items
    simp [walkItemsFrom, drawCounts, hitem, hitems]

end

mutual

/-- The walk counts right: each visit has an offset that its random nodes bear out. -/
theorem walkFrom_tallied (k : Nat) : ∀ e : Expr, Visit.Tallied k (e.walkFrom k)
  | constant _ | param _ | rand => ⟨rfl, trivial⟩
  | not operand => by
    -- When the walk is through with the operand, it has met all the draws of the negation.
    rw [walkFrom, Visit.tallied_append, drawnBy_walkFrom]
    exact ⟨walkFrom_tallied k operand, rfl, trivial⟩
  | binary _ _ left right => by
    rw [walkFrom, List.append_assoc, Visit.tallied_append, Visit.tallied_append,
      drawnBy_walkFrom, drawnBy_walkFrom]
    have hleft := walkFrom_tallied k left
    have hright := walkFrom_tallied (k + left.drawCount) right
    refine ⟨hleft, hright, ?_, trivial⟩
    show k + left.drawCount + right.drawCount = k + (left.drawCount + right.drawCount)
    omega
  | concat delimiter items => by
    rw [walkFrom, List.append_assoc, Visit.tallied_append, Visit.tallied_append,
      drawnBy_walkFrom, drawnBy_walkItemsFrom]
    have hdelimiter := walkFrom_tallied k delimiter
    have hitems := walkItemsFrom_tallied (k + delimiter.drawCount) items
    refine ⟨hdelimiter, hitems, ?_, trivial⟩
    show k + delimiter.drawCount + drawCounts items = k + (delimiter.drawCount + drawCounts items)
    omega

theorem walkItemsFrom_tallied (k : Nat) :
    ∀ items : List Expr, Visit.Tallied k (walkItemsFrom k items)
  | [] => trivial
  | item :: items => by
    rw [walkItemsFrom, Visit.tallied_append, drawnBy_walkFrom]
    exact ⟨walkFrom_tallied k item, walkItemsFrom_tallied _ items⟩

end

/-- The random nodes of a tree are numbered from 0 by their offsets. -/
theorem walk_rand_offsets (e : Expr) :
    (e.walk.filter (·.node.isRand)).map Visit.offset = List.range e.drawCount := by
  rw [walk, (walkFrom_tallied 0 e).rand_offsets, drawnBy_walkFrom, List.range_eq_range']

/-- The draws before the end of a visit are those before its node and those in it. -/
theorem drawnBy_of_walk {e : Expr} {before after : List Visit} {visit : Visit}
    (h : e.walk = before ++ visit :: after) :
    Visit.drawnBy before + visit.drawn = visit.offset + visit.node.drawCount := by
  have htally : Visit.Tallied 0 (before ++ visit :: after) := h ▸ walkFrom_tallied 0 e
  have hvisit := ((Visit.tallied_append before _).1 htally).2.1
  -- `hvisit` counts from 0.
  omega

end Expr

end DynExpr
