import DynExpr.Expr.Dismantle
import DynExpr.Proofs.Evaluation.Walk
import Mathlib.Data.List.Pairwise
import Mathlib.Logic.Function.Iterate

/-! # Dismantling visits every inner node once

    A tree is taken apart by a loop over a worklist. Its turns are compared
    with the nodes that the walk through the tree meets, and with the places
    that the tree has:

    * **Children**: `children` says which nodes stand right below a node, apart
      from what the loop detaches. The walk meets the nodes of the children and
      then the node (`nodes_eq`), so no child is left out.
    * **Conservation**: `turn` is one turn of the loop. The nodes that have had
      their turn and the inner nodes that the worklist still holds are together
      the same before and after every turn (`take_drain_perm`). The loop ends
      after as many turns as `drain` lists nodes.
    * **Paths**: `drainAt` is the loop with the path of each node carried along.
      A worklist stands for all inner nodes of its trees (`mem_drainAt_iff`),
      and if no tree on it lies within another one, each of them has one turn
      (`drainAt_nodup`).
    * **Releases**: what has had its turn has leaves only below it, so the calls
      that release it are two levels deep (`nestsWithin_hollow`).

    **`dismantle_complete`** says this of every tree.
-/

namespace DynExpr.Expr

/-! ### Children -/

/-- The nodes right below a node, in order. The delimiter of a concatenation comes before its
    items. -/
def children : Expr → List Expr
  | not operand                => [operand]
  | binary _ _ left right      => [left, right]
  | concat delimiter items     => delimiter :: items
  | constant _ | param _ | rand => []

theorem itemNodes_eq_flatMap (items : List Expr) : itemNodes items = items.flatMap nodes := by
  induction items with
  | nil => rfl
  | cons item items ih => rw [itemNodes, ih, List.flatMap_cons]

/-- The walk through a tree meets the nodes of its children, and then its root. -/
theorem nodes_eq (e : Expr) : e.nodes = e.children.flatMap nodes ++ [e] := by
  cases e with
  | constant | param | rand => rfl
  | not operand => simp [nodes, children]
  | binary op coercion left right => simp [nodes, children]
  | concat delimiter items => simp [nodes, children, itemNodes_eq_flatMap]

/-- Below the root there are the nodes of the children. -/
theorem dropLast_nodes (e : Expr) : e.nodes.dropLast = e.children.flatMap nodes := by
  rw [nodes_eq, List.dropLast_concat]

theorem isLeaf_iff_children (e : Expr) : e.isLeaf ↔ e.children = [] := by
  cases e <;> simp [isLeaf, children]

theorem children_of_isLeaf {e : Expr} (h : e.isLeaf) : e.children = [] :=
  (isLeaf_iff_children e).1 h

theorem flatMap_loose (es : List Expr) : es.flatMap loose = es.filter (!·.isLeaf) := by
  induction es with
  | nil => rfl
  | cons e es ih =>
    rw [List.flatMap_cons, ih, List.filter_cons, loose]
    cases e.isLeaf <;> rfl

/-- What is detached from a node are its children with parts of their own. -/
theorem detached_eq (e : Expr) : e.detached = e.children.filter (!·.isLeaf) := by
  rw [← flatMap_loose]
  cases e with
  | constant | param | rand | concat => rfl
  | not operand => simp [detached, detach, children]
  | binary op coercion left right => simp [detached, detach, children]

theorem mem_detached_iff {e child : Expr} :
    child ∈ e.detached ↔ child ∈ e.children ∧ ¬ child.isLeaf := by
  simp [detached_eq]

/-! ### Hollow nodes -/

theorem isLeaf_stub (child : Expr) : child.stub.isLeaf := by
  unfold stub
  split
  · assumption
  · rfl

theorem children_hollow (e : Expr) : e.hollow.children = e.children.map stub := by
  cases e <;> rfl

/-- After its turn a node has leaves only below it. -/
theorem isLeaf_of_mem_children_hollow {e c : Expr} (h : c ∈ e.hollow.children) : c.isLeaf := by
  rw [children_hollow, List.mem_map] at h
  obtain ⟨child, -, rfl⟩ := h
  exact isLeaf_stub child

theorem detached_hollow (e : Expr) : e.hollow.detached = [] := by
  rw [detached_eq, List.filter_eq_nil_iff]
  intro c hc
  simp [isLeaf_of_mem_children_hollow hc]

/-! ### Turns -/

/-- One turn: the node on top is taken off, and the children detached from it go on top. -/
def turn : List Expr → List Expr
  | []           => []
  | e :: pending => e.detached.reverse ++ pending

theorem drain_turn (pending : List Expr) : drain (turn pending) = (drain pending).tail := by
  cases pending with
  | nil => rw [turn, drain]; rfl
  | cons e pending => rw [turn, drain]; rfl

/-- What is left to do after some turns is what had its turn behind them before. -/
theorem drain_turns (turns : Nat) (pending : List Expr) :
    drain (turn^[turns] pending) = (drain pending).drop turns := by
  induction turns generalizing pending with
  | zero => rfl
  | succ turns ih => rw [Function.iterate_succ_apply, ih, drain_turn, List.drop_tail]

theorem head?_drain (pending : List Expr) : (drain pending).head? = pending.head? := by
  cases pending with
  | nil => rw [drain]
  | cons e pending => rw [drain]; rfl

/-- The node on top of the worklist is the next one to have its turn. -/
theorem head?_turns (turns : Nat) (pending : List Expr) :
    (turn^[turns] pending).head? = (drain pending)[turns]? := by
  rw [← head?_drain, drain_turns, List.head?_drop]

/-- The loop ends when all nodes have had their turns, and not before. -/
theorem turns_eq_nil_iff (turns : Nat) (pending : List Expr) :
    turn^[turns] pending = [] ↔ (drain pending).length ≤ turns := by
  rw [← List.head?_eq_none_iff, head?_turns, List.getElem?_eq_none_iff]

/-! ### Conservation -/

/-- The nodes of a tree that have parts of their own. -/
def inner (e : Expr) : List Expr := e.nodes.filter (!·.isLeaf)

/-- The inner nodes that the trees on a worklist hold. -/
def held (pending : List Expr) : List Expr := pending.flatMap inner

theorem inner_of_isLeaf {e : Expr} (h : e.isLeaf) : e.inner = [] := by
  rw [inner, nodes_eq, children_of_isLeaf h]
  simp [h]

/-- Leaves hold nothing, so they need not be put on the worklist. -/
theorem held_filter (es : List Expr) : held (es.filter (!·.isLeaf)) = held es := by
  unfold held
  induction es with
  | nil => rfl
  | cons e es ih =>
    by_cases h : e.isLeaf
    · rw [List.filter_cons_of_neg (by simp [h]), ih, List.flatMap_cons, inner_of_isLeaf h]
      rfl
    · rw [List.filter_cons_of_pos (by simp [h]), List.flatMap_cons, ih, List.flatMap_cons]

/-- The inner nodes below the root are held by what is detached from it. -/
theorem held_detached (e : Expr) : held e.detached = e.nodes.dropLast.filter (!·.isLeaf) := by
  rw [detached_eq, held_filter, dropLast_nodes, List.filter_flatMap]
  rfl

theorem inner_eq {e : Expr} (h : ¬ e.isLeaf) : e.inner = held e.detached ++ [e] := by
  rw [held_detached, dropLast_nodes, inner, nodes_eq e]
  simp [h]

theorem held_reverse_perm (es : List Expr) : (held es.reverse).Perm (held es) :=
  (List.reverse_perm es).flatMap_right inner

/-- After a turn the worklist holds what it held before, without the node that had the turn. -/
theorem held_turn_perm {e : Expr} (pending : List Expr) (h : ¬ e.isLeaf) :
    (e :: held (turn (e :: pending))).Perm (held (e :: pending)) := by
  have hafter : held (turn (e :: pending)) = held e.detached.reverse ++ held pending := by
    rw [turn, held, List.flatMap_append]
    rfl
  have hbefore : held (e :: pending) = held e.detached ++ [e] ++ held pending := by
    rw [← inner_eq h]
    rfl
  rw [hafter, hbefore, List.append_assoc]
  exact List.perm_middle.symm.trans ((held_reverse_perm e.detached).append_right _)

theorem forall_mem_turn {e : Expr} {pending : List Expr}
    (hinner : ∀ d ∈ e :: pending, ¬ d.isLeaf) : ∀ d ∈ turn (e :: pending), ¬ d.isLeaf := by
  intro d hd
  rcases List.mem_append.1 hd with hd | hd
  · exact (mem_detached_iff.1 (List.mem_reverse.1 hd)).2
  · exact hinner d (List.mem_cons_of_mem e hd)

/-- **Conservation**: what has had its turn, and what the worklist holds after these turns, is
    what the worklist held at first. -/
theorem take_drain_perm (turns : Nat) {pending : List Expr} (hinner : ∀ d ∈ pending, ¬ d.isLeaf) :
    ((drain pending).take turns ++ held (turn^[turns] pending)).Perm (held pending) := by
  induction turns generalizing pending with
  | zero => exact List.Perm.refl _
  | succ turns ih =>
    rw [Function.iterate_succ_apply]
    cases pending with
    | nil =>
      rw [drain, List.take_nil]
      have hnil := ih hinner
      rw [drain, List.take_nil] at hnil
      exact hnil
    | cons e pending =>
      have hnext := ih (forall_mem_turn hinner)
      rw [drain, List.take_succ_cons, List.cons_append]
      exact (hnext.cons e).trans (held_turn_perm pending (hinner e List.mem_cons_self))

/-- The loop conserves the inner nodes below the root of the tree it takes apart. -/
theorem take_dismantle_perm (turns : Nat) (e : Expr) :
    (e.dismantle.take turns ++ held (turn^[turns] e.detached.reverse)).Perm
      (e.nodes.dropLast.filter (!·.isLeaf)) := by
  rw [← held_detached]
  refine (take_drain_perm turns ?_).trans (held_reverse_perm e.detached)
  intro d hd
  exact (mem_detached_iff.1 (List.mem_reverse.1 hd)).2

/-- The nodes that have a turn are the inner nodes below the root, each as often as it is met. -/
theorem dismantle_perm (e : Expr) :
    e.dismantle.Perm (e.nodes.dropLast.filter (!·.isLeaf)) := by
  have hall := take_dismantle_perm e.dismantle.length e
  have hdone : turn^[e.dismantle.length] e.detached.reverse = [] :=
    (turns_eq_nil_iff _ _).2 (Nat.le_refl _)
  rw [List.take_length, hdone] at hall
  simpa [held] using hall

/-! ### Paths -/

/-- The node that a path leads to. Each step of the path takes a child by its number. -/
def nodeAt? : Expr → List Nat → Option Expr
  | e, []        => some e
  | e, i :: path => e.children[i]?.bind fun child => child.nodeAt? path

/-- Below a leaf there is nothing. -/
theorem nodeAt?_of_isLeaf {e d : Expr} {path : List Nat} (h : e.isLeaf)
    (hd : e.nodeAt? path = some d) : d = e := by
  cases path with
  | nil => exact (Option.some.inj hd).symm
  | cons i path => simp [nodeAt?, children_of_isLeaf h] at hd

/-- A node with the path that leads to it. -/
@[ext]
structure Placed where
  path : List Nat
  node : Expr

/-- The children that are detached from a node, with their paths. -/
def detachedAt (p : Placed) : List Placed :=
  (p.node.children.zipIdx.filter (!·.1.isLeaf)).map fun c => ⟨p.path ++ [c.2], c.1⟩

theorem mem_detachedAt_iff {p q : Placed} :
    q ∈ detachedAt p ↔
      ∃ i, q.path = p.path ++ [i] ∧ p.node.children[i]? = some q.node ∧ ¬ q.node.isLeaf := by
  unfold detachedAt
  simp only [List.mem_map, List.mem_filter, Bool.not_eq_true', ← Bool.not_eq_true]
  constructor
  · intro h
    obtain ⟨⟨c, i⟩, ⟨hmem, hleaf⟩, rfl⟩ := h
    exact ⟨i, rfl, List.mk_mem_zipIdx_iff_getElem?.1 hmem, hleaf⟩
  · intro h
    obtain ⟨i, hpath, hchild, hleaf⟩ := h
    refine ⟨(q.node, i), ⟨List.mk_mem_zipIdx_iff_getElem?.2 hchild, hleaf⟩, ?_⟩
    rw [← hpath]

/-- Without the paths, these are the children that are detached. -/
theorem map_detachedAt (p : Placed) : (detachedAt p).map Placed.node = p.node.detached := by
  have hfilter := List.filter_map (f := Prod.fst) (p := fun c : Expr => !c.isLeaf)
    (l := p.node.children.zipIdx)
  rw [List.zipIdx_map_fst] at hfilter
  rw [detachedAt, List.map_map, detached_eq, hfilter]
  rfl

/-- Without the paths, the next worklist is the one after a turn. -/
theorem map_turn (p : Placed) (pending : List Placed) :
    ((detachedAt p).reverse ++ pending).map Placed.node =
      turn (p.node :: pending.map Placed.node) := by
  rw [List.map_append, List.map_reverse, map_detachedAt, turn]

/-- The loop with the paths of the nodes. -/
def drainAt : List Placed → List Placed
  | []           => []
  | p :: pending => p :: drainAt ((detachedAt p).reverse ++ pending)
termination_by pending => nodeCounts (pending.map Placed.node)
decreasing_by
  rw [map_turn, turn, nodeCounts_append, nodeCounts_reverse, List.map_cons, nodeCounts]
  exact Nat.add_lt_add_right (nodeCounts_detached_lt p.node) _

/-- Without the paths, it is the loop. -/
theorem map_drainAt (pending : List Placed) :
    (drainAt pending).map Placed.node = drain (pending.map Placed.node) := by
  induction pending using drainAt.induct with
  | case1 => rw [drainAt, List.map_nil, drain]
  | case2 p pending ih =>
    rw [drainAt, List.map_cons, List.map_cons, ih, drain, map_turn, turn]

/-! ### Every inner node -/

/-- The node is no leaf, and lies within the tree at that path or is all of it. -/
def Placed.Within (q p : Placed) : Prop :=
  ∃ rest, q.path = p.path ++ rest ∧ p.node.nodeAt? rest = some q.node ∧ ¬ q.node.isLeaf

/-- What lies below a node lies within a child that is detached from it. -/
theorem exists_within_detachedAt_iff {p q : Placed} :
    (∃ c ∈ detachedAt p, q.Within c) ↔ ∃ i rest, q.path = p.path ++ i :: rest ∧
      p.node.nodeAt? (i :: rest) = some q.node ∧ ¬ q.node.isLeaf := by
  constructor
  · intro h
    obtain ⟨c, hc, rest, hpath, hnode, hleaf⟩ := h
    obtain ⟨i, hcpath, hchild, -⟩ := mem_detachedAt_iff.1 hc
    refine ⟨i, rest, by simp [hpath, hcpath], ?_, hleaf⟩
    rw [nodeAt?, hchild]
    exact hnode
  · intro h
    obtain ⟨i, rest, hpath, hnode, hleaf⟩ := h
    obtain ⟨child, hchild, hrest⟩ := Option.bind_eq_some_iff.1 hnode
    -- There is nothing below a leaf, so the child has been detached.
    have hchildLeaf : ¬ child.isLeaf := by
      intro h
      rw [nodeAt?_of_isLeaf h hrest] at hleaf
      exact hleaf h
    refine ⟨⟨p.path ++ [i], child⟩, mem_detachedAt_iff.2 ⟨i, rfl, hchild, hchildLeaf⟩, ?_⟩
    exact ⟨rest, by simp [hpath], hrest, hleaf⟩

/-- What lies within a tree is all of it, or lies within a child that is detached from it. -/
theorem within_iff {p q : Placed} (hinner : ¬ p.node.isLeaf) :
    q.Within p ↔ q = p ∨ ∃ c ∈ detachedAt p, q.Within c := by
  rw [exists_within_detachedAt_iff]
  constructor
  · intro h
    obtain ⟨rest, hpath, hnode, hleaf⟩ := h
    cases rest with
    | nil =>
      rw [List.append_nil] at hpath
      exact Or.inl (Placed.ext hpath (Option.some.inj hnode).symm)
    | cons i rest => exact Or.inr ⟨i, rest, hpath, hnode, hleaf⟩
  · intro h
    rcases h with rfl | ⟨i, rest, hbelow⟩
    · exact ⟨[], (List.append_nil _).symm, rfl, hinner⟩
    · exact ⟨i :: rest, hbelow⟩

theorem not_isLeaf_of_mem_detachedAt {p c : Placed} (h : c ∈ detachedAt p) : ¬ c.node.isLeaf := by
  obtain ⟨i, -, -, hleaf⟩ := mem_detachedAt_iff.1 h
  exact hleaf

/-- After a turn there are no leaves on the worklist either. -/
theorem forall_turn {p : Placed} {pending : List Placed}
    (hinner : ∀ q ∈ p :: pending, ¬ q.node.isLeaf) :
    ∀ q ∈ (detachedAt p).reverse ++ pending, ¬ q.node.isLeaf := by
  intro q hq
  rcases List.mem_append.1 hq with hq | hq
  · exact not_isLeaf_of_mem_detachedAt (List.mem_reverse.1 hq)
  · exact hinner q (List.mem_cons_of_mem p hq)

/-- **Every inner node**: the nodes that have a turn are the inner nodes of the trees on the
    worklist, and nothing else. -/
theorem mem_drainAt_iff {pending : List Placed} (hinner : ∀ p ∈ pending, ¬ p.node.isLeaf)
    (q : Placed) : q ∈ drainAt pending ↔ ∃ p ∈ pending, q.Within p := by
  induction pending using drainAt.induct with
  | case1 => simp [drainAt]
  | case2 p pending ih =>
    have hp : ¬ p.node.isLeaf := hinner p List.mem_cons_self
    rw [drainAt, List.mem_cons, ih (forall_turn hinner)]
    simp only [List.mem_append, List.mem_reverse, or_and_right, exists_or, List.mem_cons,
      exists_eq_left, within_iff hp, or_assoc]

/-! ### Once -/

/-- Neither of two trees lies within the other one. -/
def Placed.Apart (p q : Placed) : Prop := ¬ p.path <+: q.path ∧ ¬ q.path <+: p.path

theorem Placed.Apart.symm {p q : Placed} (h : p.Apart q) : q.Apart p := And.symm h

/-- Different children of a node are apart. -/
theorem detachedAt_pairwise (p : Placed) : (detachedAt p).Pairwise Placed.Apart := by
  have hnumbers : (p.node.children.zipIdx.map Prod.snd).Pairwise (· < ·) := by
    rw [List.zipIdx_map_snd]
    exact List.pairwise_lt_range'
  unfold detachedAt
  rw [List.pairwise_map] at hnumbers ⊢
  refine (hnumbers.filter _).imp ?_
  intro c d hlt
  have hne : c.2 ≠ d.2 := Nat.ne_of_lt hlt
  simp [Placed.Apart, List.prefix_append_right_inj, hne, hne.symm]

/-- What is apart from a node is apart from its children, and from all that lies within it. -/
theorem Placed.Apart.append {p q : Placed} (h : p.Apart q) {c : Placed} {rest : List Nat}
    (hc : c.path = p.path ++ rest) : c.Apart q := by
  constructor
  · intro hbelow
    rw [hc] at hbelow
    exact h.1 ((List.prefix_append _ _).trans hbelow)
  · intro habove
    rw [hc] at habove
    rcases List.prefix_or_prefix_of_prefix habove (List.prefix_append _ _) with hq | hp
    · exact h.2 hq
    · exact h.1 hp

/-- A turn puts nothing on the worklist that lies within a tree on it. -/
theorem pairwise_turn {p : Placed} {pending : List Placed}
    (hapart : (p :: pending).Pairwise Placed.Apart) :
    ((detachedAt p).reverse ++ pending).Pairwise Placed.Apart := by
  rw [List.pairwise_cons] at hapart
  rw [List.pairwise_append, List.pairwise_reverse]
  refine ⟨(detachedAt_pairwise p).imp Placed.Apart.symm, hapart.2, ?_⟩
  intro c hc q hq
  obtain ⟨i, hpath, -⟩ := mem_detachedAt_iff.1 (List.mem_reverse.1 hc)
  exact (hapart.1 q hq).append hpath

/-- **Once**: if no tree on the worklist lies within another one, no node has two turns. -/
theorem drainAt_nodup {pending : List Placed} (hinner : ∀ p ∈ pending, ¬ p.node.isLeaf)
    (hapart : pending.Pairwise Placed.Apart) : ((drainAt pending).map Placed.path).Nodup := by
  induction pending using drainAt.induct with
  | case1 => simp [drainAt]
  | case2 p pending ih =>
    have hnext := forall_turn hinner
    rw [drainAt, List.map_cons, List.nodup_cons]
    refine ⟨?_, ih hnext (pairwise_turn hapart)⟩
    intro hagain
    obtain ⟨q, hq, hpath⟩ := List.mem_map.1 hagain
    obtain ⟨c, hc, rest, hrest, -⟩ := (mem_drainAt_iff hnext q).1 hq
    -- The tree that the second turn comes from would lie around the node.
    have hwithin : c.path <+: p.path := by
      rw [← hpath, hrest]
      exact List.prefix_append _ _
    rcases List.mem_append.1 hc with hc | hc
    · obtain ⟨i, hcpath, -⟩ := mem_detachedAt_iff.1 (List.mem_reverse.1 hc)
      have hlength := hwithin.length_le
      rw [hcpath, List.length_append, List.length_singleton] at hlength
      omega
    · exact ((List.pairwise_cons.1 hapart).1 c hc).2 hwithin

/-- The nodes that are detached from a tree, with their paths in the order of their turns. -/
def dismantleAt (e : Expr) : List Placed := drainAt (detachedAt ⟨[], e⟩).reverse

theorem map_dismantleAt (e : Expr) : e.dismantleAt.map Placed.node = e.dismantle := by
  rw [dismantleAt, map_drainAt, List.map_reverse, map_detachedAt, dismantle]

theorem forall_start (e : Expr) : ∀ c ∈ (detachedAt ⟨[], e⟩).reverse, ¬ c.node.isLeaf := by
  intro c hc
  exact not_isLeaf_of_mem_detachedAt (List.mem_reverse.1 hc)

theorem dismantleAt_nodup (e : Expr) : (e.dismantleAt.map Placed.path).Nodup := by
  apply drainAt_nodup (forall_start e)
  rw [List.pairwise_reverse]
  exact (detachedAt_pairwise _).imp Placed.Apart.symm

/-- The nodes that have a turn are the inner nodes of the tree other than its root. -/
theorem mem_dismantleAt_iff (e : Expr) (q : Placed) :
    q ∈ e.dismantleAt ↔ q.path ≠ [] ∧ e.nodeAt? q.path = some q.node ∧ ¬ q.node.isLeaf := by
  rw [dismantleAt, mem_drainAt_iff (forall_start e)]
  simp only [List.mem_reverse]
  rw [exists_within_detachedAt_iff]
  constructor
  · intro h
    obtain ⟨i, rest, hpath, hbelow⟩ := h
    rw [List.nil_append] at hpath
    rw [hpath]
    exact ⟨List.cons_ne_nil i rest, hbelow⟩
  · intro h
    obtain ⟨hne, hbelow⟩ := h
    obtain ⟨i, rest, hpath⟩ := List.exists_cons_of_ne_nil hne
    rw [hpath] at hbelow
    exact ⟨i, rest, hpath, hbelow⟩

/-! ### Releases -/

/-- What is released while a tree is: every detached node when its turn is over, and in the end
    the children that are left below the root. -/
def released (e : Expr) : List Expr := e.dismantle.map hollow ++ e.hollow.children

/-- Releasing the tree takes at most so many calls one inside the other. -/
def NestsWithin : Nat → Expr → Prop
  | 0, _     => False
  | n + 1, e => ∀ x ∈ e.released, NestsWithin n x

theorem dismantle_of_detached {e : Expr} (h : e.detached = []) : e.dismantle = [] := by
  rw [dismantle, h, List.reverse_nil, drain]

/-- A leaf is released at once. -/
theorem nestsWithin_of_isLeaf (n : Nat) {e : Expr} (h : e.isLeaf) : NestsWithin (n + 1) e := by
  have hreleased : e.released = [] := by
    rw [released, dismantle_of_detached (by simp [detached_eq, children_of_isLeaf h]),
      children_hollow, children_of_isLeaf h]
    rfl
  intro x hx
  rw [hreleased] at hx
  cases hx

/-- After its turn a node is released with the leaves below it. -/
theorem nestsWithin_hollow (e : Expr) : NestsWithin 2 e.hollow := by
  intro x hx
  rw [released, dismantle_of_detached (detached_hollow e), List.map_nil, List.nil_append] at hx
  exact nestsWithin_of_isLeaf 0 (isLeaf_of_mem_children_hollow hx)

theorem nestsWithin (e : Expr) : NestsWithin 3 e := by
  intro x hx
  rcases List.mem_append.1 hx with hx | hx
  · obtain ⟨d, -, rfl⟩ := List.mem_map.1 hx
    exact nestsWithin_hollow d
  · exact nestsWithin_of_isLeaf 1 (isLeaf_of_mem_children_hollow hx)

/-- The nodes below a hollow node are leaves. -/
theorem isLeaf_of_mem_nodes_hollow {e c : Expr} (h : c ∈ e.hollow.nodes.dropLast) : c.isLeaf := by
  rw [dropLast_nodes, List.mem_flatMap] at h
  obtain ⟨child, hchild, hc⟩ := h
  have hleaf := isLeaf_of_mem_children_hollow hchild
  rw [nodes_eq, children_of_isLeaf hleaf] at hc
  rw [List.mem_singleton.1 hc]
  exact hleaf

/-- **Dismantling**: the children of a node are all that the walk meets below it with what is
    below them, and leaves have none. The loop ends after as many turns as `dismantle` lists
    nodes, and these are the nodes on top of the worklist, turn by turn. After any number of
    turns, the nodes that have had theirs and those that the worklist still holds are the inner
    nodes below the root, so in the end these have had their turns. With their paths they are the
    inner nodes of the tree other than its root, each of them once. After its turn a node, and
    the root, has leaves in place of the children that were detached and leaves only below it, so
    that nothing is detached when it is released. Releases are three calls deep at most. -/
theorem dismantle_complete (e : Expr) :
    (∀ d : Expr, d.nodes = d.children.flatMap nodes ++ [d] ∧ (d.isLeaf ↔ d.children = [])) ∧
    (∀ turns, turn^[turns] e.detached.reverse = [] ↔ e.dismantle.length ≤ turns) ∧
    (∀ turns, (turn^[turns] e.detached.reverse).head? = e.dismantle[turns]?) ∧
    (∀ turns, (e.dismantle.take turns ++ held (turn^[turns] e.detached.reverse)).Perm
      (e.nodes.dropLast.filter (!·.isLeaf))) ∧
    e.dismantle.Perm (e.nodes.dropLast.filter (!·.isLeaf)) ∧
    e.dismantleAt.map Placed.node = e.dismantle ∧
    (e.dismantleAt.map Placed.path).Nodup ∧
    (∀ path d, ⟨path, d⟩ ∈ e.dismantleAt ↔
      path ≠ [] ∧ e.nodeAt? path = some d ∧ ¬ d.isLeaf) ∧
    (∀ d, d = e ∨ d ∈ e.dismantle →
      d.hollow.children = d.children.map stub ∧ (∀ c ∈ d.hollow.nodes.dropLast, c.isLeaf) ∧
      (∀ c ∈ d.hollow.children, c.isLeaf) ∧ d.hollow.dismantle = [] ∧ NestsWithin 2 d.hollow) ∧
    NestsWithin 3 e := by
  refine ⟨?_, ?_, ?_, ?_, dismantle_perm e, map_dismantleAt e, dismantleAt_nodup e, ?_, ?_,
    nestsWithin e⟩
  · intro d
    exact ⟨nodes_eq d, isLeaf_iff_children d⟩
  · intro turns
    exact turns_eq_nil_iff turns e.detached.reverse
  · intro turns
    exact head?_turns turns e.detached.reverse
  · intro turns
    exact take_dismantle_perm turns e
  · intro path d
    exact mem_dismantleAt_iff e ⟨path, d⟩
  · intro d _
    refine ⟨children_hollow d, ?_, ?_, dismantle_of_detached (detached_hollow d),
      nestsWithin_hollow d⟩
    · intro c hc
      exact isLeaf_of_mem_nodes_hollow hc
    · intro c hc
      exact isLeaf_of_mem_children_hollow hc

end DynExpr.Expr
