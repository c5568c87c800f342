import LS8.Machine.Basic

/-!
# The stack

The stack lies in memory, below the stack top that the configuration names,
and grows towards address zero.  The stack pointer holds the address of its
newest byte, and the stack top when the stack is empty.
-/

namespace LS8.Machine

def sp (m : Machine) : UInt8 :=
  m.registers.get stackPointer

/-- `sp ← sp - 1; m[sp] ← value`.  The stack pointer moves last. -/
def push (value : UInt8) : Access Unit := do
  let m ← get
  if m.sp = 0 then throw .stackOverflow
  else
    write (m.sp - 1).toNat value
    modify fun written => written.setRegister stackPointer (m.sp - 1)

/-- `value ← m[sp]; sp ← sp + 1` -/
def pop : Access UInt8 := do
  let m ← get
  if m.config.stackTop ≤ m.sp then throw (.stackUnderflow m.sp)
  else
    let value ← read m.sp.toNat
    modify fun m => m.setRegister stackPointer (m.sp + 1)
    return value

/-! ## The stack pointer -/

theorem sp_reset (m : Machine) : m.reset.sp = m.config.stackTop := by
  simp [sp, reset, Registers.get_powerOn]

theorem sp_powerOn (config : Config) : (powerOn config).sp = config.stackTop :=
  sp_reset (powerOn config)

theorem sp_setRegister_stackPointer (m : Machine) (value : UInt8) :
    (m.setRegister stackPointer value).sp = value :=
  Registers.get_set_self _ _ _

theorem sp_setRegister {m : Machine} {r : Register} {value : UInt8} (different : r ≠ stackPointer) :
    (m.setRegister r value).sp = m.sp :=
  Registers.get_set_of_ne different

/-- A stack pointer below the stack top is not the last byte, so it goes up
without wrapping. -/
theorem toNat_sp_add_one {m : Machine} (inside : m.sp < m.config.stackTop) :
    (m.sp + 1).toNat = m.sp.toNat + 1 := by
  have below : m.sp.toNat < m.config.stackTop.toNat := UInt8.lt_iff_toNat_lt.mp inside
  have byte := m.config.stackTop.toNat_lt
  rw [UInt8.toNat_add]
  exact Nat.mod_eq_of_lt (by simp only [UInt8.toNat_one]; omega)

theorem toNat_sp_sub_one {m : Machine} (nonzero : m.sp ≠ 0) :
    (m.sp - 1).toNat + 1 = m.sp.toNat := by
  have positive : m.sp.toNat ≠ 0 := fun zero => nonzero (UInt8.toNat_inj.mp zero)
  have one_le : (1 : UInt8) ≤ m.sp := by
    rw [UInt8.le_iff_toNat_le]
    exact Nat.one_le_iff_ne_zero.mpr positive
  rw [UInt8.toNat_sub_of_le _ _ one_le]
  exact Nat.sub_add_cancel (Nat.one_le_iff_ne_zero.mpr positive)

/-! ## When a push or a pop succeeds -/

section

variable {m pushed popped left : Machine} {value : UInt8} {fault : Fault} {done : Unit}

/-- A push stores the value one cell below the stack pointer and moves it there. -/
theorem push_eq_ok_iff :
    push value m = .ok done pushed ↔
      m.sp ≠ 0 ∧ ∃ memory, m.memory.write (m.sp - 1).toNat value = .ok memory ∧
        pushed = { m with memory, registers := m.registers.set stackPointer (m.sp - 1) } := by
  rw [push, Action.get_bind]
  split
  · case isTrue empty => simp [empty]
  · case isFalse nonzero =>
    simp only [Action.bind_eq_ok_iff, write_eq_ok_iff, Action.modify_apply,
      EStateM.Result.ok.injEq, true_and]
    -- The machine in between has the memory that was written and the old stack pointer.
    constructor
    · rintro ⟨_, _, ⟨memory, written, rfl⟩, rfl⟩
      exact ⟨nonzero, memory, written, rfl⟩
    · rintro ⟨_, memory, written, rfl⟩
      exact ⟨(), _, ⟨memory, written, rfl⟩, rfl⟩

/-- A push fails if the stack pointer cannot go down or has no cell below it,
and has changed nothing then. -/
theorem push_eq_error_iff :
    push value m = .error fault left ↔
      (m.sp = 0 ∧ fault = .stackOverflow ∨
        m.sp ≠ 0 ∧ m.memory.size ≤ (m.sp - 1).toNat ∧
          fault = .outsideMemory (m.sp - 1).toNat) ∧ left = m := by
  rw [push, Action.get_bind]
  split
  · case isTrue empty => simp [empty, eq_comm]
  · case isFalse nonzero =>
    simp only [Action.bind_eq_error_iff, write_eq_error_iff, Action.modify_apply, reduceCtorEq,
      and_false, exists_false, or_false, nonzero, false_and, not_false_eq_true, true_and, false_or,
      ne_eq, and_assoc]

/-- A pop gives the byte at the stack pointer, which has to be below the stack
top, and moves the stack pointer up. -/
theorem pop_eq_ok_iff :
    pop m = .ok value popped ↔
      m.sp < m.config.stackTop ∧ m.memory.cell? m.sp.toNat = some value ∧
        popped = m.setRegister stackPointer (m.sp + 1) := by
  rw [pop, Action.get_bind]
  split
  · case isTrue underflow => simp [UInt8.not_lt.mpr underflow]
  · case isFalse inside =>
    simp only [Action.bind_eq_ok_iff, read_eq_ok_iff, Action.modify_bind, Action.pure_apply,
      EStateM.Result.ok.injEq, and_assoc, exists_and_left, exists_eq_left, @eq_comm _ popped]
    constructor
    · rintro ⟨_, cell, rfl, same⟩
      exact ⟨UInt8.not_le.mp inside, cell, same⟩
    · rintro ⟨_, cell, same⟩
      exact ⟨value, cell, rfl, same⟩

/-- A pop fails if the stack is empty, or if its newest byte has no cell, and has
changed nothing then. -/
theorem pop_eq_error_iff :
    pop m = .error fault left ↔
      (m.config.stackTop ≤ m.sp ∧ fault = .stackUnderflow m.sp ∨
        m.sp < m.config.stackTop ∧ m.memory.size ≤ m.sp.toNat ∧
          fault = .outsideMemory m.sp.toNat) ∧ left = m := by
  rw [pop, Action.get_bind]
  split
  · case isTrue underflow => simp [underflow, UInt8.not_lt.mpr underflow, eq_comm]
  · case isFalse inside =>
    simp only [Action.bind_eq_error_iff, read_eq_error_iff, Action.modify_bind, Action.pure_apply,
      reduceCtorEq, and_false, exists_false, or_false, inside, UInt8.not_le.mp inside, false_and,
      true_and, false_or, and_assoc]

end

end LS8.Machine
