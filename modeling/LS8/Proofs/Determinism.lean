import LS8.Proofs.Step

/-!
# The rules determine a step

Whatever a step does is one of the cases of `StepsTo`, and here is the converse:
of the cases that `StepsTo` lists, at most one applies to a machine and a sink.
-/

namespace LS8

namespace Cycle

open Machine

variable {m : Machine} {i : Instruction} {effect : Effect} {fault : Fault} {sink : Sink}
  {log : List LogRecord}

theorem cycle_of_silent (moved : Machine) (sink : Sink) (log : List LogRecord) :
    ({ machine := moved } : Effect).cycle sink log = ⟨moved, sink, log⟩ := by
  simp [Effect.cycle, Emission.text, Emission.records]

theorem executeCall_of_large {cycle : Cycle} (large : 255 < cycle.machine.pc + 2) :
    executeCall cycle = .error (.returnAddressTooLarge (cycle.machine.pc + 2)) cycle := by
  have width : Opcode.call.width = 2 := rfl
  simp only [executeCall, Action.get_bind, width, if_pos large]
  rfl

/-- A call whose return address is a byte goes on to its operand. -/
theorem executeCall_of_byte {cycle : Cycle} {next : UInt8}
    (after : next.toNat = cycle.machine.pc + 2) :
    executeCall cycle = (do
      let operands ← operands
      let _ ← onMachine (readRegister operands.first)
      onMachine (push next)
      let target ← onMachine (readRegister operands.first)
      change (·.jumpTo target) : Work Unit) cycle := by
  have width : Opcode.call.width = 2 := rfl
  have byte := next.toNat_lt
  have fits : ¬255 < cycle.machine.pc + 2 := by omega
  have same : (cycle.machine.pc + 2).toUInt8 = next := by
    rw [← after]
    exact UInt8.ofNat_toNat
  simp only [executeCall, Action.get_bind, width, if_neg fits, same]

theorem execute_of_executes (executes : Executes (m.fetching i) i effect)
    (accepted : sink.accepts effect.emission.text = true) :
    execute i.op ⟨m.fetching i, sink, log⟩ = .ok () (effect.cycle sink log) := by
  cases executes with
  | halt =>
    rw [cycle_of_silent]
    rfl
  | loadImmediate target =>
    rw [cycle_of_silent]
    simp only [execute, executeLoadImmediate, operands_bind, onMachine_bind_eq_ok_iff,
      writeRegister_eq_ok_iff, change_apply]
    exact ⟨(), _, ⟨_, target, rfl⟩, rfl⟩
  | print source =>
    simp only [execute, executePrint, operands_bind, onMachine_bind_eq_ok_iff,
      readRegister_eq_ok_iff, print_bind_eq_ok_iff, change_apply]
    refine ⟨_, _, ⟨_, source, rfl, rfl⟩, accepted, ?_⟩
    simp [Effect.cycle, Emission.text, Emission.records]
  | @arithmetic op operation a b r other kind target operand =>
    rw [cycle_of_silent]
    cases op <;> simp only [Opcode.operation?, reduceCtorEq, Option.some.injEq] at kind
    case add | multiply =>
      subst kind
      simp only [execute, executeArithmetic, operands_bind, onMachine_bind_eq_ok_iff,
        arithmetic_eq_ok_iff, change_apply]
      exact ⟨(), _, ⟨_, _, target, operand, rfl⟩, rfl⟩
  | push source stored =>
    rw [cycle_of_silent]
    simp only [execute, executePush, operands_bind, onMachine_bind_eq_ok_iff,
      readRegister_eq_ok_iff, change_apply]
    exact ⟨_, _, ⟨_, source, rfl, rfl⟩, _, _, stored, rfl⟩
  | pop target taken =>
    rw [cycle_of_silent]
    simp only [execute, executePop, operands_bind, onMachine_bind_eq_ok_iff,
      readRegister_eq_ok_iff, writeRegister_eq_ok_iff, change_apply]
    exact ⟨_, _, ⟨_, target, rfl, rfl⟩, _, _, taken, (), _, ⟨_, target, rfl⟩, rfl⟩
  | ret taken =>
    rw [cycle_of_silent]
    simp only [execute, executeReturn, onMachine_bind_eq_ok_iff, change_apply]
    exact ⟨_, _, taken, rfl⟩
  | call after target stored =>
    rw [cycle_of_silent, execute, executeCall_of_byte after]
    simp only [operands_bind, onMachine_bind_eq_ok_iff, readRegister_eq_ok_iff, change_apply]
    exact ⟨_, _, ⟨_, target, rfl, rfl⟩, _, _, stored, _, _, ⟨_, target, rfl, rfl⟩, rfl⟩
  | compare left right =>
    simp only [execute, executeCompare, operands_bind, onMachine_bind_eq_ok_iff,
      readRegister_eq_ok_iff, change_bind, record_bind, change_apply]
    refine ⟨_, _, ⟨_, left, rfl, rfl⟩, _, _, ⟨_, right, rfl, rfl⟩, ?_⟩
    simp [Effect.cycle, Emission.text, Emission.records]
  | @jump op a b r taken target =>
    rw [cycle_of_silent]
    cases op <;> simp only [Opcode.taken?, reduceCtorEq, Option.some.injEq] at taken
    case jump =>
      simp only [execute, executeJump, operands_bind, onMachine_bind_eq_ok_iff,
        readRegister_eq_ok_iff, change_apply]
      exact ⟨_, _, ⟨_, target, rfl, rfl⟩, rfl⟩
    case jumpIfEqual | jumpIfNotEqual =>
      simp only [execute, executeJumpIf, operands_bind, onMachine_bind_eq_ok_iff,
        readRegister_eq_ok_iff, change_apply]
      refine ⟨_, _, ⟨_, target, rfl, rfl⟩, ?_⟩
      rw [if_pos taken]
  | @fallThrough op a b r untaken target =>
    rw [cycle_of_silent]
    cases op <;> simp only [Opcode.taken?, reduceCtorEq, Option.some.injEq] at untaken
    case jumpIfEqual | jumpIfNotEqual =>
      simp only [execute, executeJumpIf, operands_bind, onMachine_bind_eq_ok_iff,
        readRegister_eq_ok_iff, change_apply]
      refine ⟨_, _, ⟨_, target, rfl, rfl⟩, ?_⟩
      rw [if_neg (ne_true_of_eq_false untaken)]

theorem execute_of_fails (fails : Fails (m.fetching i) i fault) :
    execute i.op ⟨m.fetching i, sink, log⟩ = .error fault ⟨m.fetching i, sink, log⟩ := by
  cases fails with
  | returnAddress large => exact executeCall_of_large large
  | @first op a b fault named fits missing =>
    cases op with
    | halt | ret => cases named
    | loadImmediate =>
      simp only [execute, executeLoadImmediate, operands_bind, onMachine_bind_eq_error_iff,
        writeRegister_eq_error_iff]
      exact .inl ⟨_, ⟨missing, rfl⟩, rfl⟩
    | print | push | pop | jumpIfNotEqual | jumpIfEqual | jump | compare =>
      simp only [execute, executePrint, executePush, executePop, executeJumpIf, executeJump,
        executeCompare, operands_bind, onMachine_bind_eq_error_iff, readRegister_eq_error_iff]
      exact .inl ⟨_, ⟨missing, rfl⟩, rfl⟩
    | multiply | add =>
      simp only [execute, executeArithmetic, operands_bind, onMachine_bind_eq_error_iff,
        arithmetic_eq_error_iff]
      exact .inl ⟨_, ⟨.inl missing, rfl⟩, rfl⟩
    | call =>
      -- What fits into a byte is a byte.
      have after : (m.pc + 2).toUInt8.toNat = m.pc + 2 :=
        Nat.mod_eq_of_lt (Nat.lt_succ_of_le (fits rfl))
      rw [execute, executeCall_of_byte after]
      simp only [operands_bind, onMachine_bind_eq_error_iff, readRegister_eq_error_iff]
      exact .inl ⟨_, ⟨missing, rfl⟩, rfl⟩
  | @second op a b r fault named found missing =>
    cases op <;> simp only [Opcode.registerOperands, reduceCtorEq, Nat.reduceEqDiff] at named
    case multiply | add =>
      simp only [execute, executeArithmetic, operands_bind, onMachine_bind_eq_error_iff,
        arithmetic_eq_error_iff]
      exact .inl ⟨_, ⟨.inr ⟨r, found, missing⟩, rfl⟩, rfl⟩
    case compare =>
      simp only [execute, executeCompare, operands_bind, onMachine_bind_eq_error_iff,
        readRegister_eq_error_iff, readRegister_eq_ok_iff]
      exact .inr ⟨_, _, ⟨_, found, rfl, rfl⟩, .inl ⟨_, ⟨missing, rfl⟩, rfl⟩⟩
  | push source failed =>
    simp only [execute, executePush, operands_bind, onMachine_bind_eq_error_iff,
      readRegister_eq_ok_iff]
    exact .inr ⟨_, _, ⟨_, source, rfl, rfl⟩, .inl ⟨_, failed, rfl⟩⟩
  | pop target failed =>
    simp only [execute, executePop, operands_bind, onMachine_bind_eq_error_iff,
      readRegister_eq_ok_iff]
    exact .inr ⟨_, _, ⟨_, target, rfl, rfl⟩, .inl ⟨_, failed, rfl⟩⟩
  | ret failed =>
    simp only [execute, executeReturn, onMachine_bind_eq_error_iff]
    exact .inl ⟨_, failed, rfl⟩
  | call after target failed =>
    rw [execute, executeCall_of_byte after]
    simp only [operands_bind, onMachine_bind_eq_error_iff, readRegister_eq_ok_iff]
    exact .inr ⟨_, _, ⟨_, target, rfl, rfl⟩, .inl ⟨_, failed, rfl⟩⟩

/-- Only a print emits text, so only a print is refused. -/
theorem execute_of_refused (executes : Executes (m.fetching i) i effect)
    (full : sink.accepts effect.emission.text = false) :
    execute i.op ⟨m.fetching i, sink, log⟩ =
      .error .outputRefused ⟨m.fetching i, sink.write effect.emission.text, log⟩ := by
  cases executes with
  | print source =>
    simp only [execute, executePrint, operands_bind, onMachine_bind_eq_error_iff,
      readRegister_eq_ok_iff, print_bind_eq_error_iff, true_and]
    exact .inr ⟨_, _, ⟨_, source, rfl, rfl⟩, .inl ⟨full, rfl⟩⟩
  | _ => simp [Emission.text] at full

end Cycle

namespace Machine

variable {m : Machine} {sink : Sink} {outcome : Outcome Status}

theorem run_of_instruction? {i : Instruction} (found : m.instruction? = some i) :
    Cycle.run ⟨m, sink, []⟩ =
      Cycle.execute i.op ⟨m.fetching i, sink, [.traced m.trace, .decoded m.pc i.op]⟩ :=
  Cycle.run_of_known (fetch_of_instruction? found) (Opcode.ofByte?_byte i.op)

theorem step_of_stepsTo (steps : StepsTo m sink outcome) : m.step sink = outcome := by
  cases steps with
  | stopped inactive => exact step_of_stopped inactive sink
  | unfetched active missing => exact step_of_error active (Cycle.run_of_fetch_error missing)
  | trapped active found unknown => exact step_of_ok active (Cycle.run_of_unknown found unknown)
  | failed found fails =>
    obtain ⟨active, _⟩ := instruction?_eq_some_iff.mp found
    exact step_of_error active ((run_of_instruction? found).trans (Cycle.execute_of_fails fails))
  | refused found executes full =>
    obtain ⟨active, _⟩ := instruction?_eq_some_iff.mp found
    exact step_of_error active
      ((run_of_instruction? found).trans (Cycle.execute_of_refused executes full))
  | done found executes accepted =>
    obtain ⟨active, _⟩ := instruction?_eq_some_iff.mp found
    exact step_of_ok active
      ((run_of_instruction? found).trans (Cycle.execute_of_executes executes accepted))

/-- A step goes in exactly one of the ways that there are. -/
theorem step_eq_iff : m.step sink = outcome ↔ StepsTo m sink outcome := by
  constructor
  · rintro rfl
    exact stepsTo_step m sink
  · exact step_of_stepsTo

end Machine

end LS8
