/-! # Kinds of value

    The seven kinds that a value can have, without its payload:

    * **Names**: each kind has one name, used in error and event texts.
    * **Order**: kinds are ranked along the promotion ladder, from `null`
      up to `timestamp`.
-/

namespace DynExpr

/-- The kind of a value. -/
inductive Kind where
  | null
  | bool
  | uint
  | int
  | float
  | string
  | timestamp
deriving DecidableEq

namespace Kind

/-- Every kind, from the bottom of the promotion ladder to its top. -/
def all : List Kind := [null, bool, uint, int, float, string, timestamp]

/-- The name of a kind. -/
def name : Kind → String
  | null      => "Null"
  | bool      => "Bool"
  | uint      => "UInt"
  | int       => "Int"
  | float     => "Float"
  | string    => "String"
  | timestamp => "Timestamp"

/-- The kind of that name, if there is one. -/
def ofName? (text : String) : Option Kind := all.find? (·.name == text)

/-- Unsigned integers, signed integers and floats are the numeric kinds. -/
def isNumeric : Kind → Bool
  | uint | int | float => true
  | _                  => false

/-- The step of the promotion ladder on which a kind stands. -/
def rank : Kind → Nat
  | null      => 0
  | bool      => 1
  | uint      => 2
  | int       => 3
  | float     => 4
  | string    => 5
  | timestamp => 6

instance : Ord Kind := ⟨fun a b => compare a.rank b.rank⟩

end Kind

end DynExpr
