import LS8.Proofs.Bounds

/-!
# How instructions move the stack

Push and call store a byte below the stack pointer, pop and return take the
byte at it, and nothing else touches memory.  Other instructions move the stack
pointer only if they name it as their destination.  `Machine.StackMove` says so
once for all instructions, and what holds of the stack along a run is derived
from it.
-/

namespace LS8

/-- The instructions that push to the stack or pop from it. -/
def Opcode.usesStack : Opcode → Bool
  | push | pop | ret | call => true
  | _ => false

/-- The instructions that store their result in the register they name first. -/
def Opcode.hasDestination : Opcode → Bool
  | loadImmediate | multiply | add | pop => true
  | _ => false

/-- An instruction whose destination is the stack pointer. -/
def Instruction.AssignsStackPointer (i : Instruction) : Prop :=
  i.op.hasDestination = true ∧ i.first = 7

instance (i : Instruction) : Decidable i.AssignsStackPointer :=
  inferInstanceAs (Decidable (_ ∧ _))

theorem Register.ofByte_eq_stackPointer_iff {index : UInt8} :
    Register.ofByte index = .ok stackPointer ↔ index = 7 := by
  rw [Register.ofByte_eq_ok_iff, ← UInt8.toNat_inj]
  rfl

namespace Machine

/-- What an instruction does to the stack: nothing, push a byte to it, or pop a
byte from it. -/
inductive StackMove (m : Machine) (i : Instruction) (after : Machine) : Prop
  | keep (other : i.op.usesStack = false) (memory : after.memory = m.memory)
      (sp : after.sp = m.sp)
  | push (value : UInt8)
      (source : i.op = .push ∧ m.readRegister i.first = .ok value m ∨
        i.op = .call ∧ value.toNat = m.pc + 2)
      (nonzero : m.sp ≠ 0) (written : m.memory.write (m.sp - 1).toNat value = .ok after.memory)
      (sp : after.sp = m.sp - 1)
  | pop (value : UInt8)
      (target : i.op = .pop ∧ after.readRegister i.first = .ok value after ∨
        i.op = .ret ∧ after.pc = value.toNat)
      (inside : m.sp < m.config.stackTop) (cell : m.memory.cell? m.sp.toNat = some value)
      (memory : after.memory = m.memory) (sp : after.sp = m.sp + 1)

variable {m : Machine} {i : Instruction} {effect : Effect} {sink : Sink}

/-- An instruction that does not assign the stack pointer moves the stack in one
of three ways. -/
theorem stackMove_of_executes (quiet : ¬i.AssignsStackPointer)
    (executes : Executes (m.fetching i) i effect) : StackMove m i effect.machine := by
  -- A named destination is not the stack pointer, so storing there keeps it.
  have spare {r : Register} (destination : i.op.hasDestination = true)
      (named : Register.ofByte i.first = .ok r) : r ≠ stackPointer := by
    rintro rfl
    exact quiet ⟨destination, Register.ofByte_eq_stackPointer_iff.mp named⟩
  cases executes with
  | halt => exact .keep rfl rfl rfl
  | loadImmediate target => exact .keep rfl rfl (sp_setRegister (spare rfl target))
  | print | compare => exact .keep rfl rfl rfl
  | @arithmetic op operation a b r other kind target operand =>
    cases op <;> simp only [Opcode.operation?, reduceCtorEq] at kind
    case add | multiply => exact .keep rfl rfl (sp_setRegister (spare rfl target))
  | @push a b r pushed source stored =>
    obtain ⟨nonzero, memory, written, rfl⟩ := push_eq_ok_iff.mp stored
    have read : m.readRegister a = .ok (m.registers.get r) m :=
      readRegister_eq_ok_iff.mpr ⟨r, source, rfl, rfl⟩
    exact .push _ (.inl ⟨rfl, read⟩) nonzero written (sp_setRegister_stackPointer m _)
  | call after target stored =>
    obtain ⟨nonzero, memory, written, rfl⟩ := push_eq_ok_iff.mp stored
    exact .push _ (.inr ⟨rfl, after⟩) nonzero written (sp_setRegister_stackPointer m _)
  | @pop a b value r popped target taken =>
    obtain ⟨inside, cell, rfl⟩ := pop_eq_ok_iff.mp taken
    refine .pop value (.inl ⟨rfl, ?_⟩) inside cell rfl ?_
    · exact readRegister_eq_ok_iff.mpr ⟨r, target, Registers.get_set_self _ _ _, rfl⟩
    · exact (sp_setRegister (spare rfl target)).trans (sp_setRegister_stackPointer m _)
  | ret taken =>
    obtain ⟨inside, cell, rfl⟩ := pop_eq_ok_iff.mp taken
    exact .pop _ (.inr ⟨rfl, rfl⟩) inside cell rfl (sp_setRegister_stackPointer m _)
  | @jump op a b r taken target =>
    cases op <;> simp only [Opcode.taken?, reduceCtorEq] at taken
    case jump | jumpIfEqual | jumpIfNotEqual => exact .keep rfl rfl rfl
  | @fallThrough op a b r untaken target =>
    cases op <;> simp only [Opcode.taken?, reduceCtorEq] at untaken
    case jump | jumpIfEqual | jumpIfNotEqual => exact .keep rfl rfl rfl

/-- A push or a call stores a byte in the first cell below the stack. -/
theorem StackMove.pushed {moved : Machine} (move : StackMove m i moved)
    (pushes : i.op = .push ∨ i.op = .call) :
    ∃ value, (i.op = .push → m.readRegister i.first = .ok value m) ∧
      (i.op = .call → value.toNat = m.pc + 2) ∧ m.sp ≠ 0 ∧
      m.memory.write (m.sp - 1).toNat value = .ok moved.memory ∧ moved.sp = m.sp - 1 := by
  cases move with
  | keep other => obtain op | op := pushes <;> simp [op, Opcode.usesStack] at other
  | pop _ target => obtain op | op := pushes <;> simp [op] at target
  | push value source nonzero written sp =>
    refine ⟨value, ?_, ?_, nonzero, written, sp⟩
    · intro op
      simpa [op] using source
    · intro op
      simpa [op] using source

theorem StackMove.popped {moved : Machine} (move : StackMove m i moved)
    (pops : i.op = .pop ∨ i.op = .ret) :
    ∃ value, (i.op = .pop → moved.readRegister i.first = .ok value moved) ∧
      (i.op = .ret → moved.pc = value.toNat) ∧ m.sp < m.config.stackTop ∧
      m.memory.cell? m.sp.toNat = some value ∧ moved.memory = m.memory ∧ moved.sp = m.sp + 1 := by
  cases move with
  | keep other => obtain op | op := pops <;> simp [op, Opcode.usesStack] at other
  | push _ source => obtain op | op := pops <;> simp [op] at source
  | pop value target inside cell memory sp =>
    refine ⟨value, ?_, ?_, inside, cell, memory, sp⟩
    · intro op
      simpa [op] using target
    · intro op
      simpa [op] using target

/-- The next step carries out an instruction whose destination is the stack
pointer. -/
def AssignsStackPointer (m : Machine) (sink : Sink) : Prop :=
  ∃ i status, m.instruction? = some i ∧ i.AssignsStackPointer ∧
    (m.step sink).result = .ok status

theorem assignsStackPointer_iff :
    m.AssignsStackPointer sink ↔
      (m.instruction?.any fun i => i.AssignsStackPointer) = true ∧
        (m.step sink).result.isOk = true := by
  unfold AssignsStackPointer
  cases m.instruction? with
  | none => simp
  | some i => cases (m.step sink).result <;> simp [Except.isOk, Except.toBool]

instance (m : Machine) (sink : Sink) : Decidable (m.AssignsStackPointer sink) :=
  decidable_of_iff' _ assignsStackPointer_iff

theorem stackMove_step (quiet : ¬m.AssignsStackPointer sink) :
    Undisturbed m (m.step sink).machine ∨
      ∃ i status, m.instruction? = some i ∧ (m.step sink).result = .ok status ∧
        StackMove m i (m.step sink).machine := by
  obtain same | ⟨i, effect, found, executes, machine_eq, succeeded⟩ := step_cases m sink
  · exact .inl same
  · have spare : ¬i.AssignsStackPointer := fun assigns => quiet ⟨i, _, found, assigns, succeeded⟩
    rw [machine_eq]
    exact .inr ⟨i, _, found, succeeded, stackMove_of_executes spare executes⟩

end Machine

end LS8
