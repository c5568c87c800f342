/-!
# Arithmetic on bytes

The arithmetic unit adds and multiplies bytes, keeping the low eight bits of
the result.  Its operations can be chosen by name.
-/

namespace LS8

inductive ArithmeticOp where
  | add
  | multiply
  deriving DecidableEq, Repr

namespace ArithmeticOp

def apply : ArithmeticOp → UInt8 → UInt8 → UInt8
  | add, left, right => left + right
  | multiply, left, right => left * right

def name : ArithmeticOp → String
  | add => "ADD"
  | multiply => "MUL"

/-- The operation of a name, which has to be spelled exactly. -/
def ofName? (text : String) : Option ArithmeticOp :=
  [add, multiply].find? (·.name == text)

/-! ## Basic facts -/

@[simp] theorem ofName?_name (op : ArithmeticOp) : ofName? op.name = some op := by
  cases op <;> decide

theorem toNat_apply_add (left right : UInt8) :
    (apply add left right).toNat = (left.toNat + right.toNat) % 256 :=
  UInt8.toNat_add left right

theorem toNat_apply_multiply (left right : UInt8) :
    (apply multiply left right).toNat = (left.toNat * right.toNat) % 256 :=
  UInt8.toNat_mul left right

end ArithmeticOp

end LS8
