import LS8.Machine.Step
import LS8.Proofs.Instruction

/-!
# How a step can go

A step ends in one of six ways, which `StepsTo` lists together with all that
they change.  Only one of them, `StepsTo.done`, carries out an instruction; the
others leave the machine `Undisturbed`.

* `StepsTo` and `stepsTo_step` — the ways in which a step can go, and that
  there are no others;
* `Machine.Undisturbed` — nothing has changed but fetched bytes and status.
-/

namespace LS8

/-! ## The cases -/

/-- The ways in which a step of a machine can go. -/
inductive StepsTo (m : Machine) (sink : Sink) : Outcome Status → Prop
  -- The machine had stopped before.
  | stopped (inactive : m.status ≠ .active) :
      StepsTo m sink { result := .error .notActive, machine := m, sink, log := [] }
  -- The fetch ran out of memory.
  | unfetched {fetched : Fetched} {address : Nat} (active : m.status = .active)
      (missing : m.fetch = .error (.outsideMemory address) { m with fetched }) :
      StepsTo m sink
        (Cycle.stopAtFault ⟨{ m with fetched }, sink, [.traced m.trace]⟩ m.pc
          (.outsideMemory address))
  -- The byte at the program counter is no instruction.
  | trapped {fetched : Fetched} (active : m.status = .active)
      (found : m.fetch = .ok () { m with fetched })
      (unknown : Opcode.ofByte? fetched.instruction = none) :
      StepsTo m sink
        { result := .ok (.trapped m.pc fetched.instruction)
          machine := { m with fetched, status := .trapped m.pc fetched.instruction }
          sink
          log := [.traced m.trace, .unknownInstruction m.pc fetched.instruction] }
  -- The instruction failed.
  | failed {i : Instruction} {cause : Fault} (found : m.instruction? = some i)
      (fails : Fails (m.fetching i) i cause) :
      StepsTo m sink
        (Cycle.stopAtFault ⟨m.fetching i, sink, [.traced m.trace, .decoded m.pc i.op]⟩ m.pc cause)
  -- The instruction printed a line, and the sink did not take all of it.
  | refused {i : Instruction} {effect : Effect} (found : m.instruction? = some i)
      (executes : Executes (m.fetching i) i effect)
      (full : sink.accepts effect.emission.text = false) :
      StepsTo m sink
        (Cycle.stopAtFault
          ⟨m.fetching i, sink.write effect.emission.text,
            [.traced m.trace, .decoded m.pc i.op]⟩ m.pc .outputRefused)
  -- The instruction was carried out.
  | done {i : Instruction} {effect : Effect} (found : m.instruction? = some i)
      (executes : Executes (m.fetching i) i effect)
      (accepted : sink.accepts effect.emission.text = true) :
      StepsTo m sink (effect.cycle sink [.traced m.trace, .decoded m.pc i.op]).finish

/-- Of all instructions only a halt touches the status, and it touches nothing
else. -/
theorem Executes.status_cases {m : Machine} {i : Instruction} {effect : Effect}
    (executes : Executes m i effect) :
    effect.machine.status = m.status ∨
      i.op = .halt ∧ effect.machine = { m with status := .halted } := by
  cases executes with
  | halt => exact .inr ⟨rfl, rfl⟩
  | push _ stored | call _ _ stored =>
    obtain ⟨_, _, _, rfl⟩ := Machine.push_eq_ok_iff.mp stored
    exact .inl rfl
  | pop _ taken | ret taken =>
    obtain ⟨_, _, rfl⟩ := Machine.pop_eq_ok_iff.mp taken
    exact .inl rfl
  | loadImmediate | print | arithmetic | compare | jump | fallThrough => exact .inl rfl

theorem Executes.status_eq {m : Machine} {i : Instruction} {effect : Effect}
    (executes : Executes m i effect) :
    effect.machine.status = if i.op = .halt then .halted else m.status := by
  cases executes with
  | halt | loadImmediate | print | compare => rfl
  | push _ stored | call _ _ stored =>
    obtain ⟨_, _, _, rfl⟩ := Machine.push_eq_ok_iff.mp stored
    rfl
  | pop _ taken | ret taken =>
    obtain ⟨_, _, rfl⟩ := Machine.pop_eq_ok_iff.mp taken
    rfl
  | @arithmetic op _ _ _ _ _ kind | @jump op _ _ _ kind | @fallThrough op _ _ _ kind =>
    have other : op ≠ .halt := by
      rintro rfl
      cases kind
    rw [if_neg other]
    rfl

namespace Machine

variable {m : Machine} {sink : Sink}

/-- A byte that is no instruction is not about to be executed. -/
theorem instruction?_of_unknown {byte : UInt8} (atPc : m.memory.cell? m.pc = some byte)
    (unknown : Opcode.ofByte? byte = none) : m.instruction? = none := by
  apply Option.eq_none_iff_forall_ne_some.mpr
  intro i executing
  obtain ⟨_, known, _⟩ := instruction?_eq_some_iff.mp executing
  rw [Option.some.inj (atPc.symm.trans known), Opcode.ofByte?_byte] at unknown
  cases unknown

theorem cell?_pc_of_fetch {fetched : Fetched} (found : m.fetch = .ok () { m with fetched }) :
    m.memory.cell? m.pc = some fetched.instruction := by
  obtain ⟨_, atPc, _, _, same⟩ := fetch_eq_ok_iff.mp found
  obtain rfl := congrArg Machine.fetched same
  exact atPc

/-- The fetched machine is about to execute an instruction, if its byte is known. -/
theorem instruction?_of_fetch {fetched : Fetched} {op : Opcode} (active : m.status = .active)
    (found : m.fetch = .ok () { m with fetched })
    (known : Opcode.ofByte? fetched.instruction = some op) :
    ∃ i : Instruction, i.op = op ∧ i.fetched = fetched ∧ m.instruction? = some i := by
  obtain ⟨_, atPc, atFirst, atSecond, same⟩ := fetch_eq_ok_iff.mp found
  obtain rfl := congrArg Machine.fetched same
  have byte := Opcode.ofByte?_eq_some_iff.mp known
  rw [← byte] at atPc
  refine ⟨⟨op, fetched.first, fetched.second⟩, rfl, ?_, ?_⟩
  · simp [Instruction.fetched, byte]
  · exact instruction?_eq_some_iff.mpr ⟨active, atPc, atFirst, atSecond⟩

theorem stepsTo_step (m : Machine) (sink : Sink) : StepsTo m sink (m.step sink) := by
  by_cases active : m.status = .active
  · cases fetch_eq : m.fetch with
    | error cause left =>
      obtain ⟨_, rfl, rfl⟩ := fetch_eq_error_iff.mp fetch_eq
      rw [step_of_error active (Cycle.run_of_fetch_error fetch_eq)]
      exact .unfetched active fetch_eq
    | ok done after =>
      obtain ⟨fetched, _, _, _, rfl⟩ := fetch_eq_ok_iff.mp fetch_eq
      cases known : Opcode.ofByte? fetched.instruction with
      | none =>
        rw [step_of_ok active (Cycle.run_of_unknown fetch_eq known)]
        exact .trapped active fetch_eq known
      | some op =>
        obtain ⟨i, rfl, rfl, found⟩ := instruction?_of_fetch active fetch_eq known
        have ran : Cycle.run ⟨m, sink, []⟩ = _ := Cycle.run_of_known fetch_eq known
        cases executed : Cycle.execute i.op
            ⟨m.fetching i, sink, [.traced m.trace, .decoded m.pc i.op]⟩ with
        | ok done cycle =>
          rw [step_of_ok active (ran.trans executed)]
          obtain ⟨effect, executes, accepted, rfl⟩ := Cycle.executes_of_execute executed
          exact .done found executes accepted
        | error cause cycle =>
          rw [step_of_error active (ran.trans executed)]
          obtain ⟨fails, rfl⟩ | ⟨rfl, effect, executes, full, rfl⟩ :=
            Cycle.fails_of_execute executed
          · exact .failed found fails
          · exact .refused found executes full
  · rw [step_of_stopped active]
    exact .stopped active

/-! ## What stays the same -/

/-- Nothing has changed between two machines but fetched bytes and status. -/
structure Undisturbed (before after : Machine) : Prop where
  config : after.config = before.config
  memory : after.memory = before.memory
  registers : after.registers = before.registers
  pc : after.pc = before.pc
  flags : after.flags = before.flags

theorem undisturbed_with (m : Machine) (fetched : Fetched) (status : Status) :
    Undisturbed m { m with fetched, status } :=
  ⟨rfl, rfl, rfl, rfl, rfl⟩

theorem Undisturbed.sp {before after : Machine} (same : Undisturbed before after) :
    after.sp = before.sp := by
  rw [Machine.sp, same.registers]
  rfl

theorem step_cases (m : Machine) (sink : Sink) :
    Undisturbed m (m.step sink).machine ∨
      ∃ i effect, m.instruction? = some i ∧ Executes (m.fetching i) i effect ∧
        (m.step sink).machine = effect.machine ∧
          (m.step sink).result = .ok effect.machine.status := by
  have steps := stepsTo_step m sink
  generalize m.step sink = outcome at steps ⊢
  cases steps with
  | stopped => exact .inl (undisturbed_with m m.fetched m.status)
  | unfetched | trapped | failed | refused => exact .inl (undisturbed_with m _ _)
  | done found executes accepted => exact .inr ⟨_, _, found, executes, rfl, rfl⟩

theorem executes_of_step {i : Instruction} {status : Status} (found : m.instruction? = some i)
    (succeeded : (m.step sink).result = .ok status) :
    ∃ effect, Executes (m.fetching i) i effect ∧ (m.step sink).machine = effect.machine := by
  have steps := stepsTo_step m sink
  generalize m.step sink = outcome at steps succeeded ⊢
  cases steps with
  | stopped | unfetched | failed | refused => cases succeeded
  | trapped active fetched unknown =>
    cases found.symm.trans (instruction?_of_unknown (cell?_pc_of_fetch fetched) unknown)
  | done same executes accepted =>
    obtain rfl := Option.some.inj (found.symm.trans same)
    exact ⟨_, executes, rfl⟩

/-- A step that fails on an instruction fails by one of its rules, or because
the sink did not take a printed line. -/
theorem fails_of_step {i : Instruction} {error : Error} (found : m.instruction? = some i)
    (failed : (m.step sink).result = .error error) :
    (∃ cause, error = .fault cause ∧ Fails (m.fetching i) i cause) ∨
      i.op = .print ∧ error = .fault .outputRefused := by
  have steps := stepsTo_step m sink
  generalize m.step sink = outcome at steps failed
  obtain ⟨active, _⟩ := instruction?_eq_some_iff.mp found
  cases steps with
  | stopped inactive => exact absurd active inactive
  | unfetched _ fetched =>
    rw [fetch_of_instruction? found] at fetched
    cases fetched
  | trapped | done => cases failed
  | failed same fails =>
    obtain rfl := Option.some.inj (found.symm.trans same)
    exact .inl ⟨_, (Except.error.inj failed).symm, fails⟩
  | refused same executes full =>
    obtain rfl := Option.some.inj (found.symm.trans same)
    cases executes with
    | print source => exact .inr ⟨rfl, (Except.error.inj failed).symm⟩
    | _ => simp [Emission.text] at full

end Machine

end LS8
