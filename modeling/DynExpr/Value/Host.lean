import DynExpr.Value

/-! # Values from ordinary data

    Machine integers, floats, truth values, texts and instants become values
    of the matching kind. Narrow integers and floats widen without loss, the
    unit value is null, and an option is null or the value inside.
-/

namespace DynExpr

/-- Types whose members can be taken as values. -/
class ToValue (α : Type) where
  /-- The value that a member stands for. -/
  toValue : α → Value

export ToValue (toValue)

namespace ToValue

instance : ToValue Value := ⟨id⟩

instance : ToValue UInt8 := ⟨fun n => .uint n.toUInt64⟩

instance : ToValue UInt16 := ⟨fun n => .uint n.toUInt64⟩

instance : ToValue UInt32 := ⟨fun n => .uint n.toUInt64⟩

instance : ToValue UInt64 := ⟨.uint⟩

instance : ToValue USize := ⟨fun n => .uint n.toUInt64⟩

instance : ToValue Int8 := ⟨fun n => .int n.toInt64⟩

instance : ToValue Int16 := ⟨fun n => .int n.toInt64⟩

instance : ToValue Int32 := ⟨fun n => .int n.toInt64⟩

instance : ToValue Int64 := ⟨.int⟩

instance : ToValue ISize := ⟨fun n => .int n.toInt64⟩

instance : ToValue Float32 := ⟨fun x => .float x.toFloat⟩

instance : ToValue Float := ⟨.float⟩

instance : ToValue Bool := ⟨.bool⟩

instance : ToValue String := ⟨.str⟩

instance : ToValue Instant := ⟨.timestamp⟩

instance : ToValue Unit := ⟨fun _ => .null⟩

instance {α : Type} [ToValue α] : ToValue (Option α) := ⟨fun x => (x.map toValue).getD .null⟩

end ToValue

end DynExpr
