import LS8.Machine.Execute
import LS8.Machine.Fetch

/-!
# Rules for instructions

What an instruction does, stated as rules next to the actions that carry it
out.  An `Instruction` is an instruction byte that has been decoded, with the
two bytes after it.

* `Machine.instruction?` — the instruction that a machine is about to execute,
  read off its memory;
* `Executes` and `Fails` — one rule for each way in which an instruction
  succeeds or fails;
* `Cycle.executes_of_execute`, `Cycle.fails_of_execute` — whatever
  `Cycle.execute` does is allowed by a rule, and an instruction that fails has
  not changed the machine.

Everything that is said about instructions later is a case analysis of the
rules, so that no other proof opens the actions themselves.
-/

namespace LS8

/-- An instruction with the two bytes that are fetched after it. -/
structure Instruction where
  op : Opcode
  first : UInt8
  second : UInt8
  deriving DecidableEq, Repr

def Instruction.fetched (i : Instruction) : Fetched :=
  { instruction := i.op.byte, first := i.first, second := i.second }

namespace Machine

/-- The instruction at the program counter of an active machine, if its three
bytes lie in memory and the first of them is known. -/
def instruction? (m : Machine) : Option Instruction :=
  if m.status = .active then do
    let op ← Opcode.ofByte? (← m.memory.cell? m.pc)
    let first ← m.memory.cell? (m.pc + 1)
    let second ← m.memory.cell? (m.pc + 2)
    return { op, first, second }
  else none

def fetching (m : Machine) (i : Instruction) : Machine :=
  { m with fetched := i.fetched }

@[simp] theorem config_fetching (m : Machine) (i : Instruction) :
    (m.fetching i).config = m.config := rfl

@[simp] theorem memory_fetching (m : Machine) (i : Instruction) :
    (m.fetching i).memory = m.memory := rfl

@[simp] theorem registers_fetching (m : Machine) (i : Instruction) :
    (m.fetching i).registers = m.registers := rfl

@[simp] theorem sp_fetching (m : Machine) (i : Instruction) : (m.fetching i).sp = m.sp := rfl

@[simp] theorem pc_fetching (m : Machine) (i : Instruction) : (m.fetching i).pc = m.pc := rfl

@[simp] theorem flags_fetching (m : Machine) (i : Instruction) :
    (m.fetching i).flags = m.flags := rfl

theorem instruction?_eq_some_iff {m : Machine} {i : Instruction} :
    m.instruction? = some i ↔
      m.status = .active ∧ m.memory.cell? m.pc = some i.op.byte ∧
        m.memory.cell? (m.pc + 1) = some i.first ∧ m.memory.cell? (m.pc + 2) = some i.second := by
  obtain ⟨op, first, second⟩ := i
  unfold instruction?
  split
  · case isTrue active =>
    simp only [active, true_and, Option.bind_eq_bind, Option.bind_eq_some_iff,
      Opcode.ofByte?_eq_some_iff, Option.pure_def, Option.some.injEq, Instruction.mk.injEq]
    constructor
    · rintro ⟨byte, atPc, op, rfl, first, atFirst, second, atSecond, rfl, rfl, rfl⟩
      exact ⟨atPc, atFirst, atSecond⟩
    · rintro ⟨atPc, atFirst, atSecond⟩
      exact ⟨_, atPc, op, rfl, first, atFirst, second, atSecond, rfl, rfl, rfl⟩
  · case isFalse inactive => simp [inactive]

theorem pc_of_instruction? {m : Machine} {i : Instruction} (found : m.instruction? = some i) :
    m.pc + 2 < m.memory.size := by
  obtain ⟨_, _, _, atSecond⟩ := instruction?_eq_some_iff.mp found
  apply Nat.lt_of_not_le
  rw [← Memory.cell?_eq_none_iff, atSecond]
  exact Option.some_ne_none _

theorem fetch_of_instruction? {m : Machine} {i : Instruction} (found : m.instruction? = some i) :
    m.fetch = .ok () (m.fetching i) := by
  obtain ⟨_, atPc, atFirst, atSecond⟩ := instruction?_eq_some_iff.mp found
  exact fetch_eq_ok_iff.mpr ⟨i.fetched, atPc, atFirst, atSecond, rfl⟩

end Machine

/-! ## Effects -/

/-- What an instruction tells the world outside the machine. -/
inductive Emission where
  | nothing
  | printed (value : UInt8)
  | compared (left right : UInt8)
  deriving DecidableEq, Repr

namespace Emission

def text : Emission → List Char
  | printed value => printedLine value
  | nothing | compared _ _ => []

def records : Emission → List LogRecord
  | compared left right => [.compared left right]
  | nothing | printed _ => []

end Emission

/-- What an instruction does. -/
structure Effect where
  machine : Machine
  emission : Emission := .nothing
  deriving DecidableEq, Repr

/-- A cycle after an effect, if the sink takes all that is printed. -/
def Effect.cycle (effect : Effect) (sink : Sink) (log : List LogRecord) : Cycle :=
  { machine := effect.machine
    sink := sink.write effect.emission.text
    log := log ++ effect.emission.records }

@[simp] theorem Sink.accepts_nil (sink : Sink) : sink.accepts [] = true := by
  unfold accepts
  cases sink.room <;> simp

@[simp] theorem Sink.write_nil (sink : Sink) : sink.write [] = sink := by
  obtain ⟨written, room⟩ := sink
  cases room <;> simp [write, fitting]

/-! ## The rules -/

/-- The operation that an arithmetic instruction applies. -/
def Opcode.operation? : Opcode → Option ArithmeticOp
  | add => some .add
  | multiply => some .multiply
  | _ => none

/-- Whether a jump instruction goes to its target. -/
def Opcode.taken? (flags : Flags) : Opcode → Option Bool
  | jump => some true
  | jumpIfEqual => some flags.isEqual
  | jumpIfNotEqual => some !flags.isEqual
  | _ => none

/-- The ways in which an instruction succeeds, on a machine that has fetched
it. -/
inductive Executes (m : Machine) : Instruction → Effect → Prop
  | halt {a b : UInt8} : Executes m ⟨.halt, a, b⟩ { machine := { m with status := .halted } }
  | loadImmediate {a b : UInt8} {r : Register} (target : Register.ofByte a = .ok r) :
      Executes m ⟨.loadImmediate, a, b⟩ { machine := (m.setRegister r b).advance .loadImmediate }
  | print {a b : UInt8} {r : Register} (source : Register.ofByte a = .ok r) :
      Executes m ⟨.print, a, b⟩
        { machine := m.advance .print, emission := .printed (m.registers.get r) }
  | arithmetic {op : Opcode} {operation : ArithmeticOp} {a b : UInt8} {r other : Register}
      (kind : op.operation? = some operation) (target : Register.ofByte a = .ok r)
      (operand : Register.ofByte b = .ok other) :
      Executes m ⟨op, a, b⟩
        { machine := (m.setRegister r
            (operation.apply (m.registers.get r) (m.registers.get other))).advance op }
  | push {a b : UInt8} {r : Register} {pushed : Machine} (source : Register.ofByte a = .ok r)
      (stored : m.push (m.registers.get r) = .ok () pushed) :
      Executes m ⟨.push, a, b⟩ { machine := pushed.advance .push }
  | pop {a b value : UInt8} {r : Register} {popped : Machine} (target : Register.ofByte a = .ok r)
      (taken : m.pop = .ok value popped) :
      Executes m ⟨.pop, a, b⟩ { machine := (popped.setRegister r value).advance .pop }
  | ret {a b value : UInt8} {popped : Machine} (taken : m.pop = .ok value popped) :
      Executes m ⟨.ret, a, b⟩ { machine := popped.jumpTo value }
  | call {a b next : UInt8} {r : Register} {pushed : Machine} (after : next.toNat = m.pc + 2)
      (target : Register.ofByte a = .ok r) (stored : m.push next = .ok () pushed) :
      Executes m ⟨.call, a, b⟩ { machine := pushed.jumpTo (pushed.registers.get r) }
  | compare {a b : UInt8} {r other : Register} (left : Register.ofByte a = .ok r)
      (right : Register.ofByte b = .ok other) :
      Executes m ⟨.compare, a, b⟩
        { machine := { m with
            flags := .ofComparison (m.registers.get r) (m.registers.get other) }.advance .compare
          emission := .compared (m.registers.get r) (m.registers.get other) }
  | jump {op : Opcode} {a b : UInt8} {r : Register} (taken : op.taken? m.flags = some true)
      (target : Register.ofByte a = .ok r) :
      Executes m ⟨op, a, b⟩ { machine := m.jumpTo (m.registers.get r) }
  | fallThrough {op : Opcode} {a b : UInt8} {r : Register}
      (untaken : op.taken? m.flags = some false) (target : Register.ofByte a = .ok r) :
      Executes m ⟨op, a, b⟩ { machine := m.advance op }

/-- How many operands of an instruction name a register. -/
def Opcode.registerOperands : Opcode → Nat
  | halt | ret => 0
  | loadImmediate | print | push | pop | call | jumpIfNotEqual | jumpIfEqual | jump => 1
  | multiply | add | compare => 2

/-- The ways in which an instruction fails, on a machine that has fetched it.
What a rule assumes besides its own fault is that nothing failed before. -/
inductive Fails (m : Machine) : Instruction → Fault → Prop
  | returnAddress {a b : UInt8} (large : 255 < m.pc + 2) :
      Fails m ⟨.call, a, b⟩ (.returnAddressTooLarge (m.pc + 2))
  | first {op : Opcode} {a b : UInt8} {fault : Fault} (named : 1 ≤ op.registerOperands)
      (fits : op = .call → m.pc + 2 ≤ 255) (missing : Register.ofByte a = .error fault) :
      Fails m ⟨op, a, b⟩ fault
  | second {op : Opcode} {a b : UInt8} {r : Register} {fault : Fault}
      (named : op.registerOperands = 2) (found : Register.ofByte a = .ok r)
      (missing : Register.ofByte b = .error fault) : Fails m ⟨op, a, b⟩ fault
  | push {a b : UInt8} {r : Register} {fault : Fault} (source : Register.ofByte a = .ok r)
      (failed : m.push (m.registers.get r) = .error fault m) : Fails m ⟨.push, a, b⟩ fault
  | pop {a b : UInt8} {r : Register} {fault : Fault} (target : Register.ofByte a = .ok r)
      (failed : m.pop = .error fault m) : Fails m ⟨.pop, a, b⟩ fault
  | ret {a b : UInt8} {fault : Fault} (failed : m.pop = .error fault m) :
      Fails m ⟨.ret, a, b⟩ fault
  | call {a b next : UInt8} {r : Register} {fault : Fault} (after : next.toNat = m.pc + 2)
      (target : Register.ofByte a = .ok r) (failed : m.push next = .error fault m) :
      Fails m ⟨.call, a, b⟩ fault

/-! ## The rules are what the actions do -/

namespace Machine

/-- The return address of a call, if it is a byte at all. -/
theorem toNat_returnAddress {m : Machine} (fits : ¬255 < m.pc + Opcode.call.width) :
    (m.pc + Opcode.call.width).toUInt8.toNat = m.pc + 2 := by
  have width : Opcode.call.width = 2 := rfl
  rw [width] at fits ⊢
  exact Nat.mod_eq_of_lt (by omega)

end Machine

namespace Cycle

open Machine

variable {m moved : Machine} {i : Instruction} {sink : Sink} {log : List LogRecord}
  {after left : Cycle} {fault : Fault} {done : Unit}

theorem executes_of_silent (executes : Executes m i { machine := moved }) :
    ∃ effect, Executes m i effect ∧ sink.accepts effect.emission.text = true ∧
      (⟨moved, sink, log⟩ : Cycle) = effect.cycle sink log := by
  refine ⟨_, executes, Sink.accepts_nil sink, ?_⟩
  simp [Effect.cycle, Emission.text, Emission.records]

theorem executes_of_execute (executed : execute i.op ⟨m.fetching i, sink, log⟩ = .ok done after) :
    ∃ effect, Executes (m.fetching i) i effect ∧ sink.accepts effect.emission.text = true ∧
      after = effect.cycle sink log := by
  -- A success is a success of every part, and the parts name what the rule needs.
  obtain ⟨op, a, b⟩ := i
  cases op with
  | halt =>
    cases executed
    exact executes_of_silent .halt
  | loadImmediate =>
    simp only [execute, executeLoadImmediate, operands_bind, onMachine_bind_eq_ok_iff,
      writeRegister_eq_ok_iff, change_apply, EStateM.Result.ok.injEq, true_and] at executed
    obtain ⟨_, _, ⟨r, target, rfl⟩, rfl⟩ := executed
    exact executes_of_silent (.loadImmediate target)
  | print =>
    simp only [execute, executePrint, operands_bind, onMachine_bind_eq_ok_iff,
      readRegister_eq_ok_iff, print_bind_eq_ok_iff, change_apply, EStateM.Result.ok.injEq,
      true_and] at executed
    obtain ⟨_, _, ⟨r, source, rfl, rfl⟩, accepted, rfl⟩ := executed
    refine ⟨_, .print source, accepted, ?_⟩
    simp [Effect.cycle, Emission.text, Emission.records]
  | multiply | add =>
    simp only [execute, executeArithmetic, operands_bind, onMachine_bind_eq_ok_iff,
      arithmetic_eq_ok_iff, change_apply, EStateM.Result.ok.injEq, true_and] at executed
    obtain ⟨_, _, ⟨r, other, target, operand, rfl⟩, rfl⟩ := executed
    exact executes_of_silent (.arithmetic rfl target operand)
  | push =>
    simp only [execute, executePush, operands_bind, onMachine_bind_eq_ok_iff,
      readRegister_eq_ok_iff, change_apply, EStateM.Result.ok.injEq, true_and] at executed
    obtain ⟨_, _, ⟨r, source, rfl, rfl⟩, _, pushed, stored, rfl⟩ := executed
    exact executes_of_silent (.push source stored)
  | pop =>
    simp only [execute, executePop, operands_bind, onMachine_bind_eq_ok_iff,
      readRegister_eq_ok_iff, writeRegister_eq_ok_iff, change_apply, EStateM.Result.ok.injEq,
      true_and] at executed
    obtain ⟨_, _, ⟨_, _, _, rfl⟩, value, popped, taken, _, _, ⟨r, target, rfl⟩, rfl⟩ := executed
    exact executes_of_silent (.pop target taken)
  | ret =>
    simp only [execute, executeReturn, onMachine_bind_eq_ok_iff, change_apply,
      EStateM.Result.ok.injEq, true_and] at executed
    obtain ⟨value, popped, taken, rfl⟩ := executed
    exact executes_of_silent (.ret taken)
  | call =>
    simp only [execute, executeCall, Action.get_bind] at executed
    split at executed
    · cases executed
    · case isFalse fits =>
      simp only [operands_bind, onMachine_bind_eq_ok_iff, readRegister_eq_ok_iff, change_apply,
        EStateM.Result.ok.injEq, true_and] at executed
      obtain ⟨_, _, ⟨_, _, _, rfl⟩, _, pushed, stored, _, _, ⟨r, target, rfl, rfl⟩, rfl⟩ := executed
      exact executes_of_silent (.call (toNat_returnAddress fits) target stored)
  | compare =>
    simp only [execute, executeCompare, operands_bind, onMachine_bind_eq_ok_iff,
      readRegister_eq_ok_iff, change_bind, record_bind, change_apply, EStateM.Result.ok.injEq,
      true_and] at executed
    obtain ⟨_, _, ⟨r, left, rfl, rfl⟩, _, _, ⟨other, right, rfl, rfl⟩, rfl⟩ := executed
    refine ⟨_, .compare left right, Sink.accepts_nil sink, ?_⟩
    simp [Effect.cycle, Emission.text, Emission.records]
  | jumpIfNotEqual | jumpIfEqual =>
    simp only [execute, executeJumpIf, operands_bind, onMachine_bind_eq_ok_iff,
      readRegister_eq_ok_iff, change_apply, EStateM.Result.ok.injEq, true_and] at executed
    obtain ⟨_, _, ⟨r, target, rfl, rfl⟩, rfl⟩ := executed
    split
    · case isTrue taken => exact executes_of_silent (.jump (congrArg some taken) target)
    · case isFalse untaken =>
      have stays := congrArg some (eq_false_of_ne_true untaken)
      exact executes_of_silent (.fallThrough stays target)
  | jump =>
    simp only [execute, executeJump, operands_bind, onMachine_bind_eq_ok_iff,
      readRegister_eq_ok_iff, change_apply, EStateM.Result.ok.injEq, true_and] at executed
    obtain ⟨_, _, ⟨r, target, rfl, rfl⟩, rfl⟩ := executed
    exact executes_of_silent (.jump rfl target)

/-- An instruction that fails does so by one of the rules, and whatever it has
done before, it leaves the cycle as it was.  Only a print can also fail because
its line is refused, and leaves what fitted in the sink. -/
theorem fails_of_execute (failed : execute i.op ⟨m.fetching i, sink, log⟩ = .error fault left) :
    Fails (m.fetching i) i fault ∧ left = ⟨m.fetching i, sink, log⟩ ∨
      fault = .outputRefused ∧ ∃ effect, Executes (m.fetching i) i effect ∧
        sink.accepts effect.emission.text = false ∧
          left = ⟨m.fetching i, sink.write effect.emission.text, log⟩ := by
  -- The first part to fail decides the rule; those before it have succeeded.
  obtain ⟨op, a, b⟩ := i
  cases op with
  | halt => cases failed
  | loadImmediate =>
    simp only [execute, executeLoadImmediate, operands_bind, onMachine_bind_eq_error_iff,
      writeRegister_eq_error_iff, change_apply, reduceCtorEq, and_false, exists_false,
      or_false] at failed
    obtain ⟨_, ⟨missing, rfl⟩, rfl⟩ := failed
    exact .inl ⟨.first (Nat.le_refl 1) (by simp) missing, rfl⟩
  | print =>
    simp only [execute, executePrint, operands_bind, onMachine_bind_eq_error_iff,
      readRegister_eq_error_iff, readRegister_eq_ok_iff, print_bind_eq_error_iff, change_apply,
      reduceCtorEq, and_false, or_false] at failed
    obtain ⟨_, ⟨missing, rfl⟩, rfl⟩ | ⟨_, _, ⟨r, source, rfl, rfl⟩, refused, rfl, rfl⟩ := failed
    · exact .inl ⟨.first (Nat.le_refl 1) (by simp) missing, rfl⟩
    · exact .inr ⟨rfl, _, .print source, refused, rfl⟩
  | multiply | add =>
    simp only [execute, executeArithmetic, operands_bind, onMachine_bind_eq_error_iff,
      arithmetic_eq_error_iff, change_apply, reduceCtorEq, and_false, exists_false,
      or_false] at failed
    obtain ⟨_, ⟨missing | ⟨r, found, missing⟩, rfl⟩, rfl⟩ := failed
    · exact .inl ⟨.first (Nat.le_succ 1) (by simp) missing, rfl⟩
    · exact .inl ⟨.second rfl found missing, rfl⟩
  | push =>
    simp only [execute, executePush, operands_bind, onMachine_bind_eq_error_iff,
      readRegister_eq_error_iff, readRegister_eq_ok_iff, change_apply, reduceCtorEq, and_false,
      exists_false, or_false] at failed
    obtain ⟨_, ⟨missing, rfl⟩, rfl⟩ | ⟨_, _, ⟨r, source, rfl, rfl⟩, _, full, rfl⟩ := failed
    · exact .inl ⟨.first (Nat.le_refl 1) (by simp) missing, rfl⟩
    · obtain ⟨_, rfl⟩ := push_eq_error_iff.mp full
      exact .inl ⟨.push source full, rfl⟩
  | pop =>
    simp only [execute, executePop, operands_bind, onMachine_bind_eq_error_iff,
      readRegister_eq_error_iff, readRegister_eq_ok_iff, writeRegister_eq_error_iff, change_apply,
      reduceCtorEq, and_false, exists_false, or_false] at failed
    obtain ⟨_, ⟨missing, rfl⟩, rfl⟩ | ⟨_, _, ⟨r, target, _, rfl⟩, failed⟩ := failed
    · exact .inl ⟨.first (Nat.le_refl 1) (by simp) missing, rfl⟩
    · obtain ⟨_, empty, rfl⟩ | ⟨_, _, _, _, ⟨missing, _⟩, _⟩ := failed
      · obtain ⟨_, rfl⟩ := pop_eq_error_iff.mp empty
        exact .inl ⟨.pop target empty, rfl⟩
      · -- The destination has been looked up before the stack pointer moved.
        cases target.symm.trans missing
  | ret =>
    simp only [execute, executeReturn, onMachine_bind_eq_error_iff, change_apply, reduceCtorEq,
      and_false, exists_false, or_false] at failed
    obtain ⟨_, empty, rfl⟩ := failed
    obtain ⟨_, rfl⟩ := pop_eq_error_iff.mp empty
    exact .inl ⟨.ret empty, rfl⟩
  | call =>
    simp only [execute, executeCall, Action.get_bind] at failed
    split at failed
    · case isTrue large =>
      cases failed
      exact .inl ⟨.returnAddress large, rfl⟩
    · case isFalse fits =>
      simp only [operands_bind, onMachine_bind_eq_error_iff, readRegister_eq_error_iff,
        readRegister_eq_ok_iff, change_apply, reduceCtorEq, and_false, exists_false,
        or_false] at failed
      obtain ⟨_, ⟨missing, rfl⟩, rfl⟩ | ⟨_, _, ⟨r, target, _, rfl⟩, failed⟩ := failed
      · exact .inl ⟨.first (Nat.le_refl 1) (fun _ => Nat.le_of_not_lt fits) missing, rfl⟩
      · obtain ⟨_, full, rfl⟩ | ⟨_, _, _, _, ⟨missing, _⟩, _⟩ := failed
        · obtain ⟨_, rfl⟩ := push_eq_error_iff.mp full
          exact .inl ⟨.call (toNat_returnAddress fits) target full, rfl⟩
        · -- The target has been looked up before the return address was pushed.
          cases target.symm.trans missing
  | compare =>
    simp only [execute, executeCompare, operands_bind, onMachine_bind_eq_error_iff,
      readRegister_eq_error_iff, readRegister_eq_ok_iff, change_bind, record_bind, change_apply,
      reduceCtorEq, and_false, exists_false, or_false] at failed
    obtain ⟨_, ⟨missing, rfl⟩, rfl⟩ | ⟨_, _, ⟨r, found, _, rfl⟩, _, ⟨missing, rfl⟩, rfl⟩ := failed
    · exact .inl ⟨.first (Nat.le_succ 1) (by simp) missing, rfl⟩
    · exact .inl ⟨.second rfl found missing, rfl⟩
  | jumpIfNotEqual | jumpIfEqual =>
    simp only [execute, executeJumpIf, operands_bind, onMachine_bind_eq_error_iff,
      readRegister_eq_error_iff, change_apply, reduceCtorEq, and_false, exists_false,
      or_false] at failed
    obtain ⟨_, ⟨missing, rfl⟩, rfl⟩ := failed
    exact .inl ⟨.first (Nat.le_refl 1) (by simp) missing, rfl⟩
  | jump =>
    simp only [execute, executeJump, operands_bind, onMachine_bind_eq_error_iff,
      readRegister_eq_error_iff, change_apply, reduceCtorEq, and_false, exists_false,
      or_false] at failed
    obtain ⟨_, ⟨missing, rfl⟩, rfl⟩ := failed
    exact .inl ⟨.first (Nat.le_refl 1) (by simp) missing, rfl⟩

end Cycle

end LS8
