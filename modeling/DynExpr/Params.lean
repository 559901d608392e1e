import DynExpr.Value
import Std.Data.HashMap

/-! # Parameters

    Parameters supply the values of names. Looking up is total: a name
    without a value resolves to null.

    * `Params` is what evaluation sees: a function on names.
    * `Bindings` is a finite table that can be written to, in order of first
      writing, where a later value for a name replaces the earlier one.
    * A hash map serves as parameters, too.
    * `Context` is what stands for parameters: nothing, a table, a hash map or
      a function, or one of these that is shared or borrowed.
-/

namespace DynExpr

/-- The value of every name. -/
abbrev Params := String → Value

/-- No name has a value. -/
def Params.none : Params := fun _ => .null

/-- A hash map as parameters. -/
def Params.ofHashMap (m : Std.HashMap String Value) : Params := fun name => m[name]?.getD .null

/-- A finite table of values by name. -/
structure Bindings where
  /-- Names with their values, in order of first writing. -/
  entries : List (String × Value)
  /-- No name has two values. -/
  nodup : (entries.map Prod.fst).Nodup

namespace Bindings

/-- Replaces the value of a name in place, or adds the name at the end. -/
def put (name : String) (v : Value) : List (String × Value) → List (String × Value)
  | []      => [(name, v)]
  | e :: es => if e.1 = name then (name, v) :: es else e :: put name v es

theorem mem_keys_put {name : String} {v : Value} {k : String} (es : List (String × Value)) :
    k ∈ (put name v es).map Prod.fst ↔ k = name ∨ k ∈ es.map Prod.fst := by
  induction es with
  | nil => simp [put]
  | cons e es ih =>
    by_cases h : e.1 = name
    · simp [put, h]
    · rw [put, if_neg h, List.map_cons, List.mem_cons, ih, List.map_cons, List.mem_cons]
      exact or_left_comm

theorem nodup_put {name : String} {v : Value} {es : List (String × Value)}
    (h : (es.map Prod.fst).Nodup) : ((put name v es).map Prod.fst).Nodup := by
  induction es with
  | nil => simp [put]
  | cons e es ih =>
    rw [List.map_cons, List.nodup_cons] at h
    by_cases he : e.1 = name
    · rw [put, if_pos he, List.map_cons, List.nodup_cons]
      exact ⟨he ▸ h.1, h.2⟩
    · rw [put, if_neg he, List.map_cons, List.nodup_cons, mem_keys_put]
      exact ⟨fun hk => hk.elim he h.1, ih h.2⟩

theorem lookup_cons (k : String) (e : String × Value) (es : List (String × Value)) :
    (e :: es).lookup k = if k = e.1 then some e.2 else es.lookup k := by
  rw [List.lookup_cons]
  by_cases h : k = e.1
  · rw [beq_iff_eq.mpr h, if_pos h]
  · rw [beq_eq_false_iff_ne.mpr h, if_neg h]

/-- A name that has just been written to has the value written; the others keep theirs. -/
theorem lookup_put (name : String) (v : Value) (k : String) (es : List (String × Value)) :
    (put name v es).lookup k = if k = name then some v else es.lookup k := by
  induction es with
  | nil => rw [put, lookup_cons]
  | cons e es ih =>
    by_cases he : e.1 = name
    · rw [put, if_pos he, lookup_cons, lookup_cons, he]
      split <;> rfl
    · rw [put, if_neg he, lookup_cons, lookup_cons, ih]
      by_cases hk : k = name
      · -- The first entry has another name, so the search goes on behind it.
        rw [if_neg fun h => he (h.symm.trans hk), if_pos hk, if_pos hk]
      · rw [if_neg hk, if_neg hk]

/-- The empty table. -/
def empty : Bindings := ⟨[], List.nodup_nil⟩

/-- The value bound to a name, if there is one. -/
def get? (b : Bindings) (name : String) : Option Value := b.entries.lookup name

/-- Binds a name, replacing its value if it has one. -/
def insert (b : Bindings) (name : String) (v : Value) : Bindings :=
  ⟨put name v b.entries, nodup_put b.nodup⟩

/-- The number of names bound. -/
def size (b : Bindings) : Nat := b.entries.length

/-- Is nothing bound? -/
def isEmpty (b : Bindings) : Bool := b.entries.isEmpty

/-- The table written by a row of bindings, from left to right. -/
def ofList (pairs : List (String × Value)) : Bindings :=
  pairs.foldl (fun b p => b.insert p.1 p.2) empty

/-- The table as parameters. -/
def toParams (b : Bindings) : Params := fun name => (b.get? name).getD .null

theorem get?_insert (b : Bindings) (name : String) (v : Value) (k : String) :
    (b.insert name v).get? k = if k = name then some v else b.get? k :=
  lookup_put name v k b.entries

theorem toParams_insert (b : Bindings) (name : String) (v : Value) (k : String) :
    (b.insert name v).toParams k = if k = name then v else b.toParams k := by
  rw [toParams, toParams, get?_insert]
  split <;> rfl

end Bindings

/-- What an evaluation takes its parameters from. -/
inductive Context where
  | nothing
  | table (b : Bindings)
  | hashMap (m : Std.HashMap String Value)
  | function (f : String → Value)
  | shared (c : Context)
  | borrowed (c : Context)

/-- The values that a context gives to names. -/
def Context.params : Context → Params
  | nothing    => Params.none
  | table b    => b.toParams
  | hashMap m  => Params.ofHashMap m
  | function f => f
  | shared c   => c.params
  | borrowed c => c.params

end DynExpr
