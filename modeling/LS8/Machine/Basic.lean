import LS8.Action
import LS8.ArithmeticOp
import LS8.Config
import LS8.Flags
import LS8.Memory
import LS8.Registers

/-!
# The machine

A machine has memory, eight registers, a program counter, the bytes of the
instruction it fetched last, flags, and a status that says whether it still
runs.  This module holds the state, how it starts, and the calls that look at
it or change it from outside:

* `Machine.ofConfig` — a machine at power-on;
* `Machine.load`, `Machine.reset` — bring in a program, start over;
* `Machine.read`, `Machine.write`, `Machine.readRegister`,
  `Machine.writeRegister` — direct access;
* `Machine.arithmetic`, `Machine.arithmeticNamed` — the arithmetic unit.

Each call is an action on the machine, with the steps in which it is carried
out.  The lemmas at the end say for each when it succeeds and when it fails,
and what it leaves behind.
-/

namespace LS8

inductive Status where
  | active
  -- Stopped by the halt instruction.
  | halted
  -- Stopped by a byte that is no instruction.
  | trapped (address : Nat) (opcode : UInt8)
  -- Stopped by an instruction that could not be carried out.
  | faulted (address : Nat)
  deriving DecidableEq, Repr

/-- The bytes fetched for an instruction: its own and the two after it. -/
structure Fetched where
  instruction : UInt8 := 0
  first : UInt8 := 0
  second : UInt8 := 0
  deriving DecidableEq, Repr

structure Machine where
  config : Config
  memory : Memory
  registers : Registers
  -- The address of the next instruction.
  pc : Nat
  fetched : Fetched
  flags : Flags
  status : Status
  deriving DecidableEq, Repr

namespace Machine

/-! ## Starting -/

/-- Control unit and registers at power-on, with memory as it is. -/
def reset (m : Machine) : Machine :=
  { m with
    registers := .powerOn m.config.stackTop
    pc := 0
    fetched := {}
    flags := .clear
    status := .active }

/-- A machine at power-on: everything zero but the stack pointer. -/
def powerOn (config : Config) : Machine :=
  { config
    memory := .zeros config.memorySize
    registers := .powerOn config.stackTop
    pc := 0
    fetched := {}
    flags := .clear
    status := .active }

/-- A machine at power-on, if its configuration has no problem. -/
def ofConfig (config : Config) : Except Config.Problem Machine :=
  match config.problem? with
  | none => .ok (powerOn config)
  | some problem => .error problem

/-- Copy a program to the start of memory. -/
def load (program : List UInt8) : Action Error Machine Unit := do
  let m ← get
  match m.memory.load? program with
  | some memory => modify fun m => { m with memory }
  | none => throw (.programTooLarge program.length m.memory.size)

/-! ## Direct access -/

/-- An access to the state of a machine. -/
abbrev Access (α : Type) := Action Fault Machine α

def read (address : Nat) : Access UInt8 := do
  let m ← get
  liftExcept (m.memory.read address)

def write (address : Nat) (value : UInt8) : Access Unit := do
  let m ← get
  let memory ← liftExcept (m.memory.write address value)
  modify fun m => { m with memory }

/-- The byte in the register that an operand byte names. -/
def readRegister (index : UInt8) : Access UInt8 := do
  let r ← liftExcept (Register.ofByte index)
  let m ← get
  return m.registers.get r

def setRegister (m : Machine) (r : Register) (value : UInt8) : Machine :=
  { m with registers := m.registers.set r value }

/-- Store a byte in the register that an operand byte names. -/
def writeRegister (index value : UInt8) : Access Unit := do
  let r ← liftExcept (Register.ofByte index)
  modify fun m => m.setRegister r value

/-! ## Arithmetic -/

/-- `r[a] ← r[a] op r[b]` -/
def arithmetic (op : ArithmeticOp) (a b : UInt8) : Access Unit := do
  let left ← readRegister a
  let right ← readRegister b
  writeRegister a (op.apply left right)

/-- The same with the operation given by its name, which is looked at before
the operands. -/
def arithmeticNamed (name : String) (a b : UInt8) : Action Error Machine Unit :=
  match ArithmeticOp.ofName? name with
  | some op => (arithmetic op a b).adaptExcept .fault
  | none => throw (.unknownOperation name)

/-! ## Basic facts -/

@[simp] theorem reset_powerOn (config : Config) : (powerOn config).reset = powerOn config := rfl

theorem ofConfig_eq_ok_iff {config : Config} {m : Machine} :
    ofConfig config = .ok m ↔ config.Valid ∧ m = powerOn config := by
  rw [← Config.problem?_eq_none_iff]
  unfold ofConfig
  cases config.problem? <;> simp [eq_comm]

/-- The default configuration is one that a machine can be built from. -/
theorem ofConfig_default : ofConfig {} = .ok (powerOn {}) :=
  ofConfig_eq_ok_iff.mpr ⟨Config.valid_default, rfl⟩

/-! ## When a call succeeds, and what is left when it fails -/

section Calls

variable {m after left : Machine} {program : List UInt8} {address : Nat}
  {index a b value : UInt8} {op : ArithmeticOp} {error : Error} {fault : Fault} {done : Unit}

theorem load_eq_ok_iff :
    load program m = .ok done after ↔
      ∃ memory, m.memory.load? program = some memory ∧ after = { m with memory } := by
  rw [load, Action.get_bind]
  cases m.memory.load? program <;> simp [eq_comm]

theorem load_eq_error_iff :
    load program m = .error error left ↔
      m.memory.size < program.length ∧
        error = .programTooLarge program.length m.memory.size ∧ left = m := by
  rw [← Memory.load?_eq_none_iff]
  rw [load, Action.get_bind]
  cases m.memory.load? program <;> simp [eq_comm]

theorem read_eq_ok_iff :
    read address m = .ok value after ↔ m.memory.cell? address = some value ∧ after = m := by
  rw [← Memory.read_eq_ok_iff]
  exact Action.liftExcept_eq_ok_iff

theorem read_eq_error_iff :
    read address m = .error fault left ↔
      m.memory.size ≤ address ∧ fault = .outsideMemory address ∧ left = m := by
  rw [← and_assoc, ← Memory.read_eq_error_iff]
  exact Action.liftExcept_eq_error_iff

theorem write_eq_ok_iff :
    write address value m = .ok done after ↔
      ∃ memory, m.memory.write address value = .ok memory ∧ after = { m with memory } := by
  simp only [write, Action.get_bind, Action.bind_eq_ok_iff, Action.liftExcept_eq_ok_iff,
    Action.modify_apply, EStateM.Result.ok.injEq, true_and, and_assoc, exists_and_left,
    exists_eq_left, @eq_comm _ after]

theorem write_eq_error_iff :
    write address value m = .error fault left ↔
      m.memory.size ≤ address ∧ fault = .outsideMemory address ∧ left = m := by
  rw [← and_assoc, ← @Memory.write_eq_error_iff m.memory address value fault]
  simp only [write, Action.get_bind, Action.bind_eq_error_iff, Action.liftExcept_eq_error_iff,
    Action.modify_apply, reduceCtorEq, and_false, exists_false, or_false]

theorem readRegister_eq_ok_iff :
    readRegister index m = .ok value after ↔
      ∃ r, Register.ofByte index = .ok r ∧ m.registers.get r = value ∧ after = m := by
  simp only [readRegister, Action.bind_eq_ok_iff, Action.liftExcept_eq_ok_iff, Action.get_bind,
    Action.pure_apply, EStateM.Result.ok.injEq, and_assoc, exists_and_left, exists_eq_left,
    @eq_comm _ after]

theorem readRegister_eq_error_iff :
    readRegister index m = .error fault left ↔ Register.ofByte index = .error fault ∧ left = m := by
  simp only [readRegister, Action.bind_eq_error_iff, Action.liftExcept_eq_error_iff,
    Action.get_bind, Action.pure_apply, reduceCtorEq, and_false, exists_false, or_false]

theorem writeRegister_eq_ok_iff :
    writeRegister index value m = .ok done after ↔
      ∃ r, Register.ofByte index = .ok r ∧ after = m.setRegister r value := by
  simp only [writeRegister, Action.bind_eq_ok_iff, Action.liftExcept_eq_ok_iff, Action.modify_apply,
    EStateM.Result.ok.injEq, true_and, and_assoc, exists_and_left, exists_eq_left,
    @eq_comm _ after]

theorem writeRegister_eq_error_iff :
    writeRegister index value m = .error fault left ↔
      Register.ofByte index = .error fault ∧ left = m := by
  simp only [writeRegister, Action.bind_eq_error_iff, Action.liftExcept_eq_error_iff,
    Action.modify_apply, reduceCtorEq, and_false, exists_false, or_false]

theorem arithmetic_eq_ok_iff :
    arithmetic op a b m = .ok done after ↔
      ∃ r other, Register.ofByte a = .ok r ∧ Register.ofByte b = .ok other ∧
        after = m.setRegister r (op.apply (m.registers.get r) (m.registers.get other)) := by
  simp only [arithmetic, Action.bind_eq_ok_iff, readRegister_eq_ok_iff, writeRegister_eq_ok_iff]
  constructor
  · rintro ⟨_, _, ⟨r, named, rfl, rfl⟩, _, _, ⟨other, operand, rfl, rfl⟩, target, again, rfl⟩
    obtain rfl := Except.ok.inj (named.symm.trans again)
    exact ⟨r, other, named, operand, rfl⟩
  · rintro ⟨r, other, named, operand, rfl⟩
    exact ⟨_, _, ⟨r, named, rfl, rfl⟩, _, _, ⟨other, operand, rfl, rfl⟩, r, named, rfl⟩

/-- The register that takes the result has been read before, so storing there
does not fail. -/
theorem arithmetic_eq_error_iff :
    arithmetic op a b m = .error fault left ↔
      (Register.ofByte a = .error fault ∨
        ∃ r, Register.ofByte a = .ok r ∧ Register.ofByte b = .error fault) ∧ left = m := by
  simp only [arithmetic, Action.bind_eq_error_iff, readRegister_eq_ok_iff,
    readRegister_eq_error_iff, writeRegister_eq_error_iff]
  constructor
  · rintro (⟨missing, rfl⟩ | ⟨_, _, ⟨r, named, rfl, rfl⟩, ⟨missing, rfl⟩ | ⟨_, _, _, missing, _⟩⟩)
    · exact ⟨.inl missing, rfl⟩
    · exact ⟨.inr ⟨r, named, missing⟩, rfl⟩
    · cases named.symm.trans missing
  · rintro ⟨missing | ⟨r, named, missing⟩, rfl⟩
    · exact .inl ⟨missing, rfl⟩
    · exact .inr ⟨_, left, ⟨r, named, rfl, rfl⟩, .inl ⟨missing, rfl⟩⟩

theorem arithmeticNamed_eq_ok_iff {name : String} :
    arithmeticNamed name a b m = .ok done after ↔
      ∃ op, ArithmeticOp.ofName? name = some op ∧ arithmetic op a b m = .ok done after := by
  unfold arithmeticNamed
  cases ArithmeticOp.ofName? name <;> simp [Action.adaptExcept_eq_ok_iff]

theorem arithmeticNamed_eq_error_iff {name : String} :
    arithmeticNamed name a b m = .error error left ↔
      ArithmeticOp.ofName? name = none ∧ error = .unknownOperation name ∧ left = m ∨
        ∃ op, ArithmeticOp.ofName? name = some op ∧
          ∃ fault, arithmetic op a b m = .error fault left ∧ error = .fault fault := by
  unfold arithmeticNamed
  cases ArithmeticOp.ofName? name with
  | none => simp [@eq_comm _ error, @eq_comm _ left]
  | some op => simp [Action.adaptExcept_eq_error_iff]

end Calls

end Machine

end LS8
