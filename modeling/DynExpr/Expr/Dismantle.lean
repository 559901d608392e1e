import DynExpr.Expr

/-! # Dismantling trees

    A deep tree is taken apart with a worklist instead of by recursion. From
    a node all children that have parts of their own are detached, with a
    leaf left in their place, and put on the worklist; then the same is done
    with the node on top of the worklist, until it is empty. After its turn
    a node has leaves only below it.
-/

namespace DynExpr.Expr

/-! ### Detaching children -/

/-- What stands in the place of a child when its turn to be detached is over. -/
def stub (child : Expr) : Expr := if child.isLeaf then child else rand

/-- The child, if it is detached. -/
def loose (child : Expr) : List Expr := if child.isLeaf then [] else [child]

/-- Detaches the children of a node that have parts of their own: the node with leaves in their
    place, and these children in order. -/
def detach : Expr → Expr × List Expr
  | not operand                   => (not operand.stub, operand.loose)
  | binary op coercion left right =>
    (binary op coercion left.stub right.stub, left.loose ++ right.loose)
  | concat delimiter items        =>
    (concat delimiter.stub (items.map stub), delimiter.loose ++ items.flatMap loose)
  | e                             => (e, [])

/-- The node with all its detachable children replaced by leaves. -/
def hollow (e : Expr) : Expr := e.detach.1

/-- The children that are detached from a node, in order. -/
def detached (e : Expr) : List Expr := e.detach.2

/-! ### The worklist -/

mutual

/-- The number of nodes in a tree. -/
def nodeCount : Expr → Nat
  | constant _             => 1
  | param _                => 1
  | not operand            => operand.nodeCount + 1
  | binary _ _ left right  => left.nodeCount + right.nodeCount + 1
  | concat delimiter items => delimiter.nodeCount + nodeCounts items + 1
  | rand                   => 1

/-- The number of nodes in some trees. -/
def nodeCounts : List Expr → Nat
  | []      => 0
  | e :: es => e.nodeCount + nodeCounts es

end

theorem nodeCounts_append (as bs : List Expr) :
    nodeCounts (as ++ bs) = nodeCounts as + nodeCounts bs := by
  induction as with
  | nil => simp [nodeCounts]
  | cons a as ih => simp [nodeCounts, ih, Nat.add_assoc]

theorem nodeCounts_reverse (es : List Expr) : nodeCounts es.reverse = nodeCounts es := by
  induction es with
  | nil => rfl
  | cons e es ih => simp [nodeCounts, nodeCounts_append, ih, Nat.add_comm]

theorem nodeCounts_loose_le (child : Expr) : nodeCounts child.loose ≤ child.nodeCount := by
  unfold loose
  split <;> simp [nodeCounts]

theorem nodeCounts_flatMap_loose_le (items : List Expr) :
    nodeCounts (items.flatMap loose) ≤ nodeCounts items := by
  induction items with
  | nil => simp [nodeCounts]
  | cons item items ih =>
    rw [List.flatMap_cons, nodeCounts_append, nodeCounts]
    exact Nat.add_le_add (nodeCounts_loose_le item) ih

/-- What is detached from a node has fewer nodes than all that there is. -/
theorem nodeCounts_detached_lt (e : Expr) : nodeCounts e.detached < e.nodeCount := by
  cases e with
  | constant | param | rand => exact Nat.one_pos
  | not operand => exact Nat.lt_succ_of_le (nodeCounts_loose_le operand)
  | binary op coercion left right =>
    show nodeCounts (left.loose ++ right.loose) < left.nodeCount + right.nodeCount + 1
    rw [nodeCounts_append]
    exact Nat.lt_succ_of_le (Nat.add_le_add (nodeCounts_loose_le left) (nodeCounts_loose_le right))
  | concat delimiter items =>
    show nodeCounts (delimiter.loose ++ items.flatMap loose) <
      delimiter.nodeCount + nodeCounts items + 1
    rw [nodeCounts_append]
    exact Nat.lt_succ_of_le
      (Nat.add_le_add (nodeCounts_loose_le delimiter) (nodeCounts_flatMap_loose_le items))

/-- Works off a worklist, of which the last child detached is on top, and answers with the
    nodes in the order of their turns: each as it was on the worklist. -/
def drain : List Expr → List Expr
  | []           => []
  | e :: pending => e :: drain (e.detached.reverse ++ pending)
termination_by pending => nodeCounts pending
decreasing_by
  rw [nodeCounts_append, nodeCounts_reverse, nodeCounts]
  exact Nat.add_lt_add_right (nodeCounts_detached_lt e) _

/-- Takes a tree apart: every node that is detached from it, in the order of their turns. -/
def dismantle (e : Expr) : List Expr := drain e.detached.reverse

end DynExpr.Expr
