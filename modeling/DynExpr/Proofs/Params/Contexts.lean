import DynExpr.Expr.Eval
import Mathlib.Data.List.Basic
import Mathlib.Data.List.Induction

/-! # Contexts with the same bindings are interchangeable

    A table and a hash map, shared or borrowed any number of times, hold what
    has been written to them:

    * **Writes**: `Bindings.lastWrite?` is the last of the values that a row of
      bindings gives to a name. It depends only on the bindings of that name
      and their order (`lastWrite?_eq_getLast?`).
    * **Contexts**: `Context.FilledWith` says how a context has come to hold a
      row of bindings. However it has, a name has the value last written to it,
      and null if there is none (`Context.FilledWith.params_eq`).
    * **Order**: `Reordered` exchanges neighbours that bind distinct names. This
      reaches just the rows in which every name has the same bindings in the
      same order (`reordered_iff`).

    An evaluation sees nothing of a context but the values of names, which gives
    **`Context.FilledWith.run_interchangeable`**.
-/

namespace DynExpr

/-! ### The last write to a name -/

namespace Bindings

/-- The value that the last write to a name has left. -/
def lastWrite? (writes : List (String × Value)) (name : String) : Option Value :=
  writes.reverse.lookup name

/-- The bindings of one name in a row of bindings. -/
def bindingsOf (name : String) (pairs : List (String × Value)) : List (String × Value) :=
  pairs.filter fun p => p.1 = name

variable {pairs pairs' : List (String × Value)} {name : String}

theorem lastWrite?_concat (writes : List (String × Value)) (name : String) (v : Value)
    (k : String) :
    lastWrite? (writes ++ [(name, v)]) k = if k = name then some v else lastWrite? writes k := by
  rw [lastWrite?, List.reverse_concat, lookup_cons]
  rfl

theorem lastWrite?_concat_getD (writes : List (String × Value)) (name : String) (v : Value)
    (k : String) :
    (lastWrite? (writes ++ [(name, v)]) k).getD .null =
      if k = name then v else (lastWrite? writes k).getD .null := by
  rw [lastWrite?_concat]
  split <;> rfl

theorem ofList_concat (writes : List (String × Value)) (name : String) (v : Value) :
    ofList (writes ++ [(name, v)]) = (ofList writes).insert name v := by
  rw [ofList, List.foldl_concat]
  rfl

/-- In a table written from left to right, the last write to a name counts. -/
theorem get?_ofList (writes : List (String × Value)) (name : String) :
    (ofList writes).get? name = lastWrite? writes name := by
  induction writes using List.reverseRecOn with
  | nil => rfl
  | append_singleton writes w ih => rw [ofList_concat, get?_insert, lastWrite?_concat, ih]

@[simp] theorem bindingsOf_nil (name : String) : bindingsOf name [] = [] := rfl

theorem bindingsOf_cons_self (p : String × Value) (pairs : List (String × Value)) :
    bindingsOf p.1 (p :: pairs) = p :: bindingsOf p.1 pairs := by
  simp [bindingsOf]

theorem bindingsOf_cons_of_ne {p : String × Value} (h : p.1 ≠ name) :
    bindingsOf name (p :: pairs) = bindingsOf name pairs := by
  simp [bindingsOf, h]

theorem bindingsOf_append (name : String) (pairs pairs' : List (String × Value)) :
    bindingsOf name (pairs ++ pairs') = bindingsOf name pairs ++ bindingsOf name pairs' :=
  List.filter_append ..

theorem bindingsOf_eq_nil (h : ∀ p ∈ pairs, p.1 ≠ name) : bindingsOf name pairs = [] := by
  rw [bindingsOf, List.filter_eq_nil_iff]
  intro p hp
  rw [decide_eq_true_iff]
  exact h p hp

/-- Other names do not matter to the last write to a name. -/
theorem lastWrite?_eq_getLast? (pairs : List (String × Value)) (name : String) :
    lastWrite? pairs name = (bindingsOf name pairs).getLast?.map Prod.snd := by
  induction pairs using List.reverseRecOn with
  | nil => rfl
  | append_singleton pairs p ih =>
    rw [lastWrite?_concat, bindingsOf_append]
    by_cases h : name = p.1
    · subst h
      rw [if_pos rfl, bindingsOf_cons_self, bindingsOf_nil, List.getLast?_concat]
      rfl
    · rw [if_neg h, bindingsOf_cons_of_ne (Ne.symm h), bindingsOf_nil, List.append_nil, ih]

theorem lastWrite?_eq_some {before after : List (String × Value)} (v : Value)
    (h : ∀ p ∈ after, p.1 ≠ name) :
    lastWrite? (before ++ (name, v) :: after) name = some v := by
  rw [lastWrite?_eq_getLast?, bindingsOf_append, bindingsOf_cons_self (name, v),
    bindingsOf_eq_nil h, List.getLast?_concat]
  rfl

theorem lastWrite?_eq_none (h : ∀ p ∈ pairs, p.1 ≠ name) : lastWrite? pairs name = none := by
  rw [lastWrite?_eq_getLast?, bindingsOf_eq_nil h]
  rfl

end Bindings

/-! ### Exchanging bindings of distinct names -/

open Bindings

/-- Two rows of bindings differ by exchanges of neighbours that bind distinct names. -/
inductive Reordered : List (String × Value) → List (String × Value) → Prop
  | refl (pairs : List (String × Value)) : Reordered pairs pairs
  | exchange (p q : String × Value) (pairs : List (String × Value)) (h : p.1 ≠ q.1) :
      Reordered (p :: q :: pairs) (q :: p :: pairs)
  | cons (p : String × Value) {pairs pairs' : List (String × Value)} (h : Reordered pairs pairs') :
      Reordered (p :: pairs) (p :: pairs')
  | trans {pairs middle pairs' : List (String × Value)} (h : Reordered pairs middle)
      (h' : Reordered middle pairs') : Reordered pairs pairs'

namespace Reordered

variable {pairs pairs' : List (String × Value)}

theorem bindingsOf_eq (h : Reordered pairs pairs') (name : String) :
    bindingsOf name pairs = bindingsOf name pairs' := by
  induction h with
  | refl => rfl
  | exchange p q pairs hne =>
    -- The name is not that of both.
    by_cases hp : p.1 = name
    · have hq : q.1 ≠ name := fun hq => hne (hp.trans hq.symm)
      subst hp
      rw [bindingsOf_cons_self, bindingsOf_cons_of_ne hq, bindingsOf_cons_of_ne hq,
        bindingsOf_cons_self]
    · rw [bindingsOf_cons_of_ne hp]
      simp only [bindingsOf, List.filter_cons, hp, decide_false, Bool.false_eq_true, if_false]
  | cons p _ ih =>
    rw [← List.singleton_append, bindingsOf_append, ih, ← bindingsOf_append]
    rfl
  | trans _ _ ih ih' => rw [ih, ih']

/-- A binding can be moved to the front past bindings of other names. -/
theorem move_to_front (p : String × Value) {before : List (String × Value)}
    (after : List (String × Value)) (h : ∀ q ∈ before, q.1 ≠ p.1) :
    Reordered (p :: (before ++ after)) (before ++ p :: after) := by
  induction before with
  | nil => exact refl _
  | cons q before ih =>
    have hq : p.1 ≠ q.1 := (h q List.mem_cons_self).symm
    have hrest : ∀ r ∈ before, r.1 ≠ p.1 := fun r hr => h r (List.mem_cons_of_mem q hr)
    exact (exchange p q _ hq).trans ((ih hrest).cons q)

theorem of_bindingsOf_eq (h : ∀ name, bindingsOf name pairs = bindingsOf name pairs') :
    Reordered pairs pairs' := by
  induction pairs generalizing pairs' with
  | nil =>
    have hnil : pairs' = [] := by
      cases pairs' with
      | nil => rfl
      | cons q pairs' => cases (h q.1).trans (bindingsOf_cons_self q pairs')
    rw [hnil]
    exact refl []
  | cons p pairs ih =>
    -- The first binding has to be the first one of its name in the other row, too.
    have hfirst := (h p.1).symm.trans (bindingsOf_cons_self p pairs)
    obtain ⟨before, after, hsplit, hbefore, -⟩ := List.filter_eq_cons_iff.mp hfirst
    subst hsplit
    have hfront : Reordered (p :: (before ++ after)) (before ++ p :: after) :=
      move_to_front p after fun q hq heq => hbefore q hq (decide_eq_true heq)
    -- Taking the same first binding off both rows leaves the same bindings of every name.
    have hrest : ∀ name, bindingsOf name pairs = bindingsOf name (before ++ after) := by
      intro name
      have heq := (h name).trans (hfront.bindingsOf_eq name).symm
      by_cases hp : p.1 = name
      · subst hp
        rw [bindingsOf_cons_self, bindingsOf_cons_self] at heq
        exact List.tail_eq_of_cons_eq heq
      · rwa [bindingsOf_cons_of_ne hp, bindingsOf_cons_of_ne hp] at heq
    exact ((ih hrest).cons p).trans hfront

end Reordered

theorem reordered_iff {pairs pairs' : List (String × Value)} :
    Reordered pairs pairs' ↔ ∀ name, bindingsOf name pairs = bindingsOf name pairs' :=
  ⟨Reordered.bindingsOf_eq, Reordered.of_bindingsOf_eq⟩

/-- Bindings of names that are all distinct can be put in any order. -/
theorem Reordered.of_perm {pairs pairs' : List (String × Value)} (h : pairs.Perm pairs')
    (hnodup : (pairs.map Prod.fst).Nodup) : Reordered pairs pairs' := by
  induction h with
  | nil => exact refl []
  | cons p _ ih => exact (ih (List.nodup_cons.mp hnodup).2).cons p
  | swap p q pairs =>
    have hne : q.1 ≠ p.1 := by
      intro heq
      exact (List.nodup_cons.mp hnodup).1 (heq ▸ List.mem_cons_self)
    exact exchange q p pairs hne
  | trans h _ ih ih' => exact (ih hnodup).trans (ih' ((h.map Prod.fst).nodup_iff.mp hnodup))

/-! ### Filled contexts -/

namespace Context

/-- The context has been filled with a row of bindings, from left to right. -/
inductive FilledWith : Context → List (String × Value) → Prop
  | newTable : FilledWith (table .empty) []
  | bind {b : Bindings} {pairs : List (String × Value)} (h : FilledWith (table b) pairs)
      (name : String) (v : Value) : FilledWith (table (b.insert name v)) (pairs ++ [(name, v)])
  | collect (pairs : List (String × Value)) : FilledWith (table (.ofList pairs)) pairs
  | newHashMap : FilledWith (hashMap ∅) []
  | insert {m : Std.HashMap String Value} {pairs : List (String × Value)}
      (h : FilledWith (hashMap m) pairs) (name : String) (v : Value) :
      FilledWith (hashMap (m.insert name v)) (pairs ++ [(name, v)])
  | collectHashMap (pairs : List (String × Value)) : FilledWith (hashMap (.ofList pairs)) pairs
  | share {c : Context} {pairs : List (String × Value)} (h : FilledWith c pairs) :
      FilledWith (shared c) pairs
  | borrow {c : Context} {pairs : List (String × Value)} (h : FilledWith c pairs) :
      FilledWith (borrowed c) pairs

theorem params_hashMap_empty (k : String) : (hashMap ∅).params k = .null := by
  simp [params, Params.ofHashMap]

/-- A name that has just been written to has the value written; the others keep theirs. -/
theorem params_hashMap_insert (m : Std.HashMap String Value) (name : String) (v : Value)
    (k : String) :
    (hashMap (m.insert name v)).params k = if k = name then v else (hashMap m).params k := by
  simp only [params, Params.ofHashMap, Std.HashMap.getElem?_insert, beq_iff_eq, eq_comm (a := k)]
  split <;> rfl

theorem hashMap_ofList_concat (pairs : List (String × Value)) (name : String) (v : Value) :
    Std.HashMap.ofList (pairs ++ [(name, v)]) = (Std.HashMap.ofList pairs).insert name v := by
  rw [Std.HashMap.ofList_eq_insertMany_empty, Std.HashMap.insertMany_append,
    Std.HashMap.insertMany_list_singleton, ← Std.HashMap.ofList_eq_insertMany_empty]

theorem params_hashMap_ofList (pairs : List (String × Value)) (k : String) :
    (hashMap (.ofList pairs)).params k = (lastWrite? pairs k).getD .null := by
  induction pairs using List.reverseRecOn with
  | nil => exact params_hashMap_empty k
  | append_singleton pairs p ih =>
    rw [hashMap_ofList_concat, params_hashMap_insert, lastWrite?_concat_getD, ih]

namespace FilledWith

variable {c : Context} {pairs : List (String × Value)}

/-- However a context has been filled, a name has the value last written to it. -/
theorem params_eq (h : c.FilledWith pairs) (name : String) :
    c.params name = (lastWrite? pairs name).getD .null := by
  induction h with
  | newTable => rfl
  | bind _ k v ih =>
    rw [lastWrite?_concat_getD, ← ih]
    exact toParams_insert _ k v name
  | collect pairs => exact congrArg (Option.getD · Value.null) (get?_ofList pairs name)
  | newHashMap => exact params_hashMap_empty name
  | insert _ k v ih => rw [params_hashMap_insert, lastWrite?_concat_getD, ih]
  | collectHashMap pairs => exact params_hashMap_ofList pairs name
  | share _ ih | borrow _ ih => exact ih

/-- Contexts give the same values if their bindings of each name are in the same order. -/
theorem params_reordered {c' : Context} {pairs' : List (String × Value)}
    (h : c.FilledWith pairs) (h' : c'.FilledWith pairs') (hr : Reordered pairs pairs') :
    c'.params = c.params := by
  funext name
  rw [h'.params_eq, h.params_eq, lastWrite?_eq_getLast?, lastWrite?_eq_getLast?,
    hr.bindingsOf_eq name]

/-- All contexts filled with the same bindings are interchangeable: a name stands for its last
    binding, and for null without one, and every evaluation gives the same outcome, draws and
    events. The order in which distinct names have been bound does not matter. -/
theorem run_interchangeable (h : c.FilledWith pairs) :
    (∀ before name v after, pairs = before ++ (name, v) :: after →
      (∀ p ∈ after, p.1 ≠ name) → c.params name = v) ∧
    (∀ name, (∀ p ∈ pairs, p.1 ≠ name) → c.params name = .null) ∧
    (∀ c' : Context, c'.FilledWith pairs → ∀ (e : Expr) (s : EvalState),
      e.run c'.params s = e.run c.params s) ∧
    (∀ (c' : Context) (pairs' : List (String × Value)), c'.FilledWith pairs' →
      Reordered pairs pairs' → ∀ (e : Expr) (s : EvalState),
      e.run c'.params s = e.run c.params s) ∧
    (∀ (c' : Context) (pairs' : List (String × Value)), c'.FilledWith pairs' →
      (pairs.map Prod.fst).Nodup → pairs.Perm pairs' → ∀ (e : Expr) (s : EvalState),
      e.run c'.params s = e.run c.params s) := by
  have hrun : ∀ (c' : Context) (pairs' : List (String × Value)), c'.FilledWith pairs' →
      Reordered pairs pairs' → ∀ (e : Expr) (s : EvalState),
      e.run c'.params s = e.run c.params s := by
    intro c' pairs' h' hr e s
    rw [h.params_reordered h' hr]
  refine ⟨?last, ?unbound, ?same, hrun, ?distinct⟩
  case last =>
    intro before name v after heq hafter
    subst heq
    rw [h.params_eq, lastWrite?_eq_some v hafter]
    rfl
  case unbound =>
    intro name hname
    rw [h.params_eq, lastWrite?_eq_none hname]
    rfl
  case same =>
    intro c' h'
    exact hrun c' pairs h' (.refl pairs)
  case distinct =>
    intro c' pairs' h' hnodup hperm
    exact hrun c' pairs' h' (.of_perm hperm hnodup)

/-- A name that is bound twice, in a shared hash map and in a borrowed table. -/
theorem run_interchangeable_bound_twice :
    FilledWith (shared (hashMap (.ofList [("x", .int 1), ("y", .null), ("x", .int 2)])))
        [("x", .int 1), ("y", .null), ("x", .int 2)] ∧
      (shared (hashMap (.ofList [("x", .int 1), ("y", .null), ("x", .int 2)]))).params "x" =
        .int 2 ∧
      ∀ (e : Expr) (s : EvalState),
        e.run (borrowed (table (.ofList [("x", .int 1), ("x", .int 2), ("y", .null)]))).params s =
          e.run (shared (hashMap
            (.ofList [("x", .int 1), ("y", .null), ("x", .int 2)]))).params s := by
  have hmap := (collectHashMap [("x", .int 1), ("y", .null), ("x", .int 2)]).share
  obtain ⟨hlast, -, -, hreordered, -⟩ := run_interchangeable hmap
  refine ⟨hmap, hlast [("x", .int 1), ("y", .null)] "x" (.int 2) [] rfl nofun, ?_⟩
  exact hreordered _ _ (collect _).borrow (.cons _ (.exchange _ _ [] (by decide)))

end FilledWith

end Context

end DynExpr
