import LS8.Machine.Execute
import LS8.Machine.Fetch

/-!
# Single steps

A step of an active machine fetches one instruction and carries it out.  It
ends in one of three ways: the instruction is done; its byte is unknown, which
traps the machine but is no error; or there is a fault, and the machine stops
as the instruction leaves it.

* `Outcome` — what a call gives back, together with all that it changed;
* `Cycle.run` — fetch, decode and execute one instruction;
* `Machine.step` — one step.
-/

namespace LS8

/-- What a call on a machine gives back, and all that it changed. -/
structure Outcome (α : Type) where
  result : Except Error α
  machine : Machine
  sink : Sink
  -- The records of the call, in order.
  log : List LogRecord

namespace Cycle

/-- Stop at a byte that is no instruction. -/
def trap (address : Nat) (opcode : UInt8) : Work Unit := do
  record (.unknownInstruction address opcode)
  change fun m => { m with status := .trapped address opcode }

def run : Work Unit := do
  let start ← get
  let address := start.machine.pc
  record (.traced start.machine.trace)
  onMachine Machine.fetch
  let fetched ← operands
  match Opcode.ofByte? fetched.instruction with
  | none => trap address fetched.instruction
  | some op =>
    record (.decoded address op)
    execute op

/-! ## How a cycle goes on after its fetch -/

section

variable {m after left : Machine} {sink : Sink}

theorem run_of_fetch_error {cause : Fault} (failed : m.fetch = .error cause left) :
    run ⟨m, sink, []⟩ = .error cause ⟨left, sink, [.traced m.trace]⟩ := by
  rw [run, Action.get_bind, record_bind, Action.bind_of_error (onMachine_of_error failed)]
  rfl

theorem run_of_unknown (fetched : m.fetch = .ok () after)
    (unknown : Opcode.ofByte? after.fetched.instruction = none) :
    run ⟨m, sink, []⟩ = .ok ()
      ⟨{ after with status := .trapped m.pc after.fetched.instruction }, sink,
        [.traced m.trace, .unknownInstruction m.pc after.fetched.instruction]⟩ := by
  rw [run, Action.get_bind, record_bind, Action.bind_of_ok (onMachine_of_ok fetched), operands_bind]
  simp only [unknown]
  rfl

theorem run_of_known {op : Opcode} (fetched : m.fetch = .ok () after)
    (known : Opcode.ofByte? after.fetched.instruction = some op) :
    run ⟨m, sink, []⟩ = execute op ⟨after, sink, [.traced m.trace, .decoded m.pc op]⟩ := by
  rw [run, Action.get_bind, record_bind, Action.bind_of_ok (onMachine_of_ok fetched), operands_bind]
  simp only [known, record_bind]
  rfl

end

/-- The outcome of a step whose instruction has succeeded. -/
def finish (cycle : Cycle) : Outcome Status :=
  { result := .ok cycle.machine.status
    machine := cycle.machine
    sink := cycle.sink
    log := cycle.log }

/-- The outcome of a step whose instruction has failed. -/
def stopAtFault (cycle : Cycle) (address : Nat) (cause : Fault) : Outcome Status :=
  { result := .error (.fault cause)
    machine := { cycle.machine with status := .faulted address }
    sink := cycle.sink
    log := cycle.log ++ [.faulted address cause] }

end Cycle

namespace Machine

/-- Execute one instruction.  A machine that has stopped is left alone. -/
def step (m : Machine) (sink : Sink) : Outcome Status :=
  if m.status = .active then
    match Cycle.run { machine := m, sink, log := [] } with
    | .ok _ cycle => cycle.finish
    | .error cause cycle => cycle.stopAtFault m.pc cause
  else { result := .error .notActive, machine := m, sink, log := [] }

/-! ## Basic facts -/

variable {m : Machine} {sink : Sink} {cycle : Cycle}

theorem step_of_ok {done : Unit} (active : m.status = .active)
    (ran : Cycle.run { machine := m, sink, log := [] } = .ok done cycle) :
    m.step sink = cycle.finish := by
  rw [step, if_pos active, ran]

theorem step_of_error {cause : Fault} (active : m.status = .active)
    (ran : Cycle.run { machine := m, sink, log := [] } = .error cause cycle) :
    m.step sink = cycle.stopAtFault m.pc cause := by
  rw [step, if_pos active, ran]

theorem step_of_stopped (stopped : m.status ≠ .active) (sink : Sink) :
    m.step sink = { result := .error .notActive, machine := m, sink, log := [] } := by
  rw [step, if_neg stopped]

end Machine

end LS8
