import LS8.Fault

/-!
# Registers

The machine has eight registers of one byte each.  The last of them is the
stack pointer.  An operand byte names a register if it is below eight.
-/

namespace LS8

abbrev Register := Fin 8

/-- The register that points at the top of the stack. -/
def stackPointer : Register := 7

/-- The register that an operand byte names. -/
def Register.ofByte (index : UInt8) : Except Fault Register :=
  if inRange : index.toNat < 8 then .ok ⟨index.toNat, inRange⟩
  else .error (.noSuchRegister index)

structure Registers where
  values : Vector UInt8 8
  deriving DecidableEq, Repr

namespace Registers

def get (registers : Registers) (r : Register) : UInt8 :=
  registers.values[r]

/-- The registers after storing a byte in one of them. -/
def set (registers : Registers) (r : Register) (value : UInt8) : Registers :=
  ⟨registers.values.set r value⟩

/-- The registers at power-on: zero, but for the stack pointer. -/
def powerOn (stackTop : UInt8) : Registers :=
  set ⟨Vector.replicate 8 0⟩ stackPointer stackTop

def toList (registers : Registers) : List UInt8 :=
  registers.values.toList

/-! ## Basic facts -/

theorem get_set (registers : Registers) (r other : Register) (value : UInt8) :
    (registers.set r value).get other = if r = other then value else registers.get other := by
  simp [get, set, Vector.getElem_set, Fin.ext_iff]

@[simp] theorem get_set_self (registers : Registers) (r : Register) (value : UInt8) :
    (registers.set r value).get r = value := by
  simp [get_set]

theorem get_set_of_ne {registers : Registers} {r other : Register} {value : UInt8}
    (different : r ≠ other) : (registers.set r value).get other = registers.get other := by
  simp [get_set, different]

@[ext] theorem ext_get {registers other : Registers}
    (same : ∀ r, registers.get r = other.get r) : registers = other := by
  obtain ⟨values⟩ := registers
  obtain ⟨others⟩ := other
  have equal : values = others := Vector.ext fun i inRange => same ⟨i, inRange⟩
  rw [equal]

theorem get_powerOn (stackTop : UInt8) (r : Register) :
    (powerOn stackTop).get r = if r = stackPointer then stackTop else 0 := by
  rw [powerOn, get_set]
  by_cases same : stackPointer = r
  · simp [same]
  · simp [same, Ne.symm same, get]

end Registers

/-- A byte names a register exactly when it is below eight. -/
theorem Register.ofByte_eq_ok_iff {index : UInt8} {r : Register} :
    Register.ofByte index = .ok r ↔ index.toNat = r.val := by
  unfold Register.ofByte
  split
  · simp [Fin.ext_iff]
  · have := r.isLt
    simp only [reduceCtorEq, false_iff]
    omega

theorem Register.ofByte_eq_error_iff {index : UInt8} {fault : Fault} :
    Register.ofByte index = .error fault ↔
      8 ≤ index.toNat ∧ fault = .noSuchRegister index := by
  unfold Register.ofByte
  split
  · simp only [reduceCtorEq, false_iff]
    omega
  · simp only [Except.error.injEq, eq_comm, Nat.not_lt.mp ‹_›, true_and]

end LS8
