import LS8.Proofs.Bounds
import LS8.Proofs.Determinism

/-!
# Machines in lockstep

A step reads little of memory: the three bytes at the program counter, and the
newest byte of the stack.  So two machines with the same control state take the
same step as long as they agree on these, however their memories differ
elsewhere (`Machine.Mirrors.inStep`).  How much memory there is shows only in
the accesses that it refuses.
-/

namespace LS8

/-- Two machines that differ at most in memory, and in what their configurations
say beyond the stack top. -/
structure Machine.SameControl (m other : Machine) : Prop where
  stackTop : other.config.stackTop = m.config.stackTop
  registers : other.registers = m.registers
  pc : other.pc = m.pc
  fetched : other.fetched = m.fetched
  flags : other.flags = m.flags
  status : other.status = m.status

/-- Two machines of which the next step can read the same. -/
structure Machine.Mirrors (m other : Machine) : Prop where
  control : SameControl m other
  size_le : m.memory.size ≤ other.memory.size
  -- The bytes that are fetched.
  code : m.status = .active → ∀ offset ≤ 2,
    other.memory.cell? (m.pc + offset) = m.memory.cell? (m.pc + offset)
  -- The byte that a pop takes.
  newest : m.sp < m.config.stackTop →
    other.memory.cell? m.sp.toNat = m.memory.cell? m.sp.toNat

namespace Machine

variable {m other : Machine} {i : Instruction} {effect : Effect} {fault : Fault}

theorem SameControl.exists_eq (same : SameControl m other) :
    ∃ config memory, config.stackTop = m.config.stackTop ∧ other = { m with config, memory } := by
  obtain ⟨config, memory, registers, pc, fetched, flags, status⟩ := other
  obtain ⟨stackTop, rfl, rfl, rfl, rfl, rfl⟩ := same
  exact ⟨config, memory, stackTop, rfl⟩

theorem SameControl.eq (same : SameControl m other) (config : other.config = m.config)
    (memory : other.memory = m.memory) : other = m := by
  obtain ⟨_, _, _, rfl⟩ := same.exists_eq
  obtain rfl : _ = m.config := config
  obtain rfl : _ = m.memory := memory
  rfl

theorem SameControl.sp (same : SameControl m other) : other.sp = m.sp := by
  obtain ⟨config, memory, stackTop, rfl⟩ := same.exists_eq
  rfl

theorem SameControl.fetching (same : SameControl m other) (i : Instruction) :
    SameControl (m.fetching i) (other.fetching i) :=
  ⟨same.stackTop, same.registers, same.pc, rfl, same.flags, same.status⟩

theorem SameControl.setRegister (same : SameControl m other) (r : Register) (value : UInt8) :
    SameControl (m.setRegister r value) (other.setRegister r value) := by
  obtain ⟨config, memory, stackTop, rfl⟩ := same.exists_eq
  exact ⟨stackTop, rfl, rfl, rfl, rfl, rfl⟩

theorem SameControl.advance (same : SameControl m other) (op : Opcode) :
    SameControl (m.advance op) (other.advance op) := by
  obtain ⟨config, memory, stackTop, rfl⟩ := same.exists_eq
  exact ⟨stackTop, rfl, rfl, rfl, rfl, rfl⟩

theorem SameControl.jumpTo (same : SameControl m other) (target : UInt8) :
    SameControl (m.jumpTo target) (other.jumpTo target) :=
  ⟨same.stackTop, same.registers, rfl, same.fetched, same.flags, same.status⟩

theorem Mirrors.fetching (mirrors : m.Mirrors other) (i : Instruction) :
    (m.fetching i).Mirrors (other.fetching i) :=
  ⟨mirrors.control.fetching i, mirrors.size_le, mirrors.code, mirrors.newest⟩

end Machine

/-! ## Instructions -/

section Instructions

open Machine

variable {m other moved : Machine} {i : Instruction} {effect : Effect} {fault : Fault}
  {value : UInt8}

/-- A push that succeeds in one memory succeeds in a larger one. -/
theorem Machine.Mirrors.push (mirrors : m.Mirrors other) (stored : m.push value = .ok () moved) :
    ∃ pushed, other.push value = .ok () pushed ∧ SameControl moved pushed := by
  obtain ⟨config, memory, stackTop, rfl⟩ := mirrors.control.exists_eq
  obtain ⟨nonzero, _, written, rfl⟩ := push_eq_ok_iff.mp stored
  have inRange := Nat.lt_of_lt_of_le (Memory.lt_size_of_write written) mirrors.size_le
  obtain ⟨_, written'⟩ := Memory.exists_write value inRange
  exact ⟨_, push_eq_ok_iff.mpr ⟨nonzero, _, written', rfl⟩, stackTop, rfl, rfl, rfl, rfl, rfl⟩

theorem Machine.Mirrors.pop (mirrors : m.Mirrors other) (taken : m.pop = .ok value moved) :
    ∃ popped, other.pop = .ok value popped ∧ SameControl moved popped := by
  obtain ⟨config, memory, stackTop, rfl⟩ := mirrors.control.exists_eq
  obtain ⟨inside, cell, rfl⟩ := pop_eq_ok_iff.mp taken
  rw [← mirrors.newest inside] at cell
  rw [← stackTop] at inside
  exact ⟨_, pop_eq_ok_iff.mpr ⟨inside, cell, rfl⟩, stackTop, rfl, rfl, rfl, rfl, rfl⟩

theorem Executes.mirrored (executes : Executes m i effect) (mirrors : m.Mirrors other) :
    ∃ moved, Executes other i { machine := moved, emission := effect.emission } ∧
      SameControl effect.machine moved := by
  -- In all but memory and configuration the other machine is this one.
  obtain ⟨config, memory, stackTop, rfl⟩ := mirrors.control.exists_eq
  cases executes with
  | halt => exact ⟨_, .halt, stackTop, rfl, rfl, rfl, rfl, rfl⟩
  | loadImmediate target => exact ⟨_, .loadImmediate target, stackTop, rfl, rfl, rfl, rfl, rfl⟩
  | print source => exact ⟨_, .print source, stackTop, rfl, rfl, rfl, rfl, rfl⟩
  | arithmetic kind target operand =>
    exact ⟨_, .arithmetic kind target operand, stackTop, rfl, rfl, rfl, rfl, rfl⟩
  | compare left right => exact ⟨_, .compare left right, stackTop, rfl, rfl, rfl, rfl, rfl⟩
  | jump taken target => exact ⟨_, .jump taken target, stackTop, rfl, rfl, rfl, rfl, rfl⟩
  | fallThrough untaken target =>
    exact ⟨_, .fallThrough untaken target, stackTop, rfl, rfl, rfl, rfl, rfl⟩
  | push source stored =>
    obtain ⟨_, stored', control⟩ := mirrors.push stored
    exact ⟨_, .push source stored', control.advance .push⟩
  | call after target stored =>
    obtain ⟨_, stored', control⟩ := mirrors.push stored
    refine ⟨_, .call after target stored', ?_⟩
    rw [control.registers]
    exact control.jumpTo _
  | pop target taken =>
    obtain ⟨_, taken', control⟩ := mirrors.pop taken
    exact ⟨_, .pop target taken', (control.setRegister _ _).advance .pop⟩
  | ret taken =>
    obtain ⟨_, taken', control⟩ := mirrors.pop taken
    exact ⟨_, .ret taken', control.jumpTo _⟩

/-- A push that fails for want of a cell also fails in a memory of the same
size, and any other failure has nothing to do with memory. -/
theorem Machine.Mirrors.push_fails (mirrors : m.Mirrors other)
    (inside : other.memory.size = m.memory.size ∨ ∀ address, fault ≠ .outsideMemory address)
    (failed : m.push value = .error fault m) : other.push value = .error fault other := by
  obtain ⟨config, memory, stackTop, rfl⟩ := mirrors.control.exists_eq
  apply push_eq_error_iff.mpr
  obtain ⟨full | ⟨nonzero, outside, rfl⟩, _⟩ := push_eq_error_iff.mp failed
  · exact ⟨.inl full, rfl⟩
  · obtain size | other := inside
    · exact ⟨.inr ⟨nonzero, size ▸ outside, rfl⟩, rfl⟩
    · exact absurd rfl (other _)

theorem Machine.Mirrors.pop_fails (mirrors : m.Mirrors other)
    (failed : m.pop = .error fault m) : other.pop = .error fault other := by
  obtain ⟨config, memory, stackTop, rfl⟩ := mirrors.control.exists_eq
  apply pop_eq_error_iff.mpr
  obtain ⟨⟨empty, rfl⟩ | ⟨inside, outside, rfl⟩, _⟩ := pop_eq_error_iff.mp failed
  · exact ⟨.inl ⟨stackTop ▸ empty, rfl⟩, rfl⟩
  · have missing := mirrors.newest inside
    rw [Memory.cell?_eq_none_iff.mpr outside] at missing
    exact ⟨.inr ⟨stackTop ▸ inside, Memory.cell?_eq_none_iff.mp missing, rfl⟩, rfl⟩

theorem Fails.mirrored (fails : Fails m i fault) (mirrors : m.Mirrors other)
    (inside : other.memory.size = m.memory.size ∨ ∀ address, fault ≠ .outsideMemory address) :
    Fails other i fault := by
  have failPush {value : UInt8} (failed : m.push value = .error fault m) :
      other.push value = .error fault other := mirrors.push_fails inside failed
  have failPop (failed : m.pop = .error fault m) : other.pop = .error fault other :=
    mirrors.pop_fails failed
  obtain ⟨config, memory, stackTop, rfl⟩ := mirrors.control.exists_eq
  cases fails with
  | returnAddress large => exact .returnAddress large
  | first named fits missing => exact .first named fits missing
  | second named found missing => exact .second named found missing
  | push source failed => exact .push source (failPush failed)
  | pop target failed => exact .pop target (failPop failed)
  | ret failed => exact .ret (failPop failed)
  | call after target failed => exact .call after target (failPush failed)

end Instructions

/-! ## Steps -/

attribute [ext] Outcome

/-- Two outcomes that look the same to everyone who does not look at memory. -/
structure InStep (sink otherSink : Sink) (outcome other : Outcome Status) : Prop where
  result : other.result = outcome.result
  control : Machine.SameControl outcome.machine other.machine
  log : other.log = outcome.log
  printed : ∃ text, outcome.sink = sink.write text ∧ other.sink = otherSink.write text

/-- What memory and configuration do not say, two outcomes in lockstep share. -/
theorem InStep.eq {sink : Sink} {outcome other : Outcome Status} {config : Config}
    {memory : Memory} (inStep : InStep sink sink outcome other)
    (configured : other.machine.config = config) (remembered : other.machine.memory = memory) :
    other = { outcome with machine := { outcome.machine with config, memory } } := by
  obtain ⟨result, control, log, text, prints, prints'⟩ := inStep
  apply Outcome.ext
  · exact result
  · obtain ⟨_, _, _, eq⟩ := control.exists_eq
    rw [← configured, ← remembered, eq]
  · exact prints'.trans prints.symm
  · exact log

theorem Sink.accepts_congr {sink other : Sink} (room : other.room = sink.room)
    (text : List Char) : other.accepts text = sink.accepts text := by
  rw [accepts, accepts, room]

namespace Machine

variable {m other : Machine} {sink otherSink : Sink}

theorem Mirrors.trace_eq (mirrors : m.Mirrors other) (active : m.status = .active) :
    other.trace = m.trace := by
  have code := mirrors.code active
  obtain ⟨config, memory, stackTop, rfl⟩ := mirrors.control.exists_eq
  have instruction := code 0 (Nat.zero_le 2)
  have first := code 1 (Nat.le_succ 1)
  have second := code 2 (Nat.le_refl 2)
  simp only [Nat.add_zero] at instruction
  simp only [trace, instruction, first, second]

/-- A fetch goes the same way where its three cells are the same. -/
theorem Mirrors.fetch_fails (mirrors : m.Mirrors other) (active : m.status = .active)
    {fault : Fault} {fetched : Fetched} (failed : m.fetch = .error fault { m with fetched }) :
    other.fetch = .error fault { other with fetched } := by
  have code := mirrors.code active
  obtain ⟨config, memory, stackTop, rfl⟩ := mirrors.control.exists_eq
  have instruction := code 0 (Nat.zero_le 2)
  have first := code 1 (Nat.le_succ 1)
  have second := code 2 (Nat.le_refl 2)
  simp only [Nat.add_zero] at instruction
  obtain ⟨short, rfl, left⟩ := fetch_eq_error_iff.mp failed
  obtain rfl := congrArg Machine.fetched left
  -- Which of the three cells is the first to be missing does not change.
  have at0 : memory.size ≤ m.pc ↔ m.memory.size ≤ m.pc := by
    rw [← Memory.cell?_eq_none_iff, instruction, Memory.cell?_eq_none_iff]
  have at1 : memory.size ≤ m.pc + 1 ↔ m.memory.size ≤ m.pc + 1 := by
    rw [← Memory.cell?_eq_none_iff, first, Memory.cell?_eq_none_iff]
  have at2 : memory.size ≤ m.pc + 2 ↔ m.memory.size ≤ m.pc + 2 := by
    rw [← Memory.cell?_eq_none_iff, second, Memory.cell?_eq_none_iff]
  have last : max m.pc memory.size = max m.pc m.memory.size := by omega
  apply fetch_eq_error_iff.mpr
  simp only [at2, short, last, instruction, first, and_self]

theorem Mirrors.fetch_succeeds (mirrors : m.Mirrors other) (active : m.status = .active)
    {fetched : Fetched} (found : m.fetch = .ok () { m with fetched }) :
    other.fetch = .ok () { other with fetched } := by
  have code := mirrors.code active
  obtain ⟨config, memory, stackTop, rfl⟩ := mirrors.control.exists_eq
  obtain ⟨_, instruction, first, second, same⟩ := fetch_eq_ok_iff.mp found
  obtain rfl := congrArg Machine.fetched same
  apply fetch_eq_ok_iff.mpr
  exact ⟨_, (code 0 (Nat.zero_le 2)).trans instruction, (code 1 (Nat.le_succ 1)).trans first,
    (code 2 (Nat.le_refl 2)).trans second, rfl⟩

theorem Mirrors.instruction?_eq (mirrors : m.Mirrors other) :
    other.instruction? = m.instruction? := by
  have code := mirrors.code
  obtain ⟨config, memory, stackTop, rfl⟩ := mirrors.control.exists_eq
  unfold instruction?
  split
  · case isTrue active =>
    have instruction := code active 0 (Nat.zero_le 2)
    have first := code active 1 (Nat.le_succ 1)
    have second := code active 2 (Nat.le_refl 2)
    simp only [Nat.add_zero] at instruction
    simp only [instruction, first, second]
  · rfl

/-- Two machines of which the next step can read the same take the same step,
unless there is an access that one memory is too small for. -/
theorem Mirrors.inStep (mirrors : m.Mirrors other) (room : otherSink.room = sink.room)
    (inside : other.memory.size = m.memory.size ∨
      ∀ address, (m.step sink).result ≠ .error (.fault (.outsideMemory address))) :
    InStep sink otherSink (m.step sink) (other.step otherSink) := by
  have steps := stepsTo_step m sink
  generalize m.step sink = outcome at steps inside ⊢
  have status := mirrors.control.status
  have silent : sink = sink.write [] ∧ otherSink = otherSink.write [] :=
    ⟨(Sink.write_nil sink).symm, (Sink.write_nil otherSink).symm⟩
  cases steps with
  | stopped inactive =>
    rw [step_of_stopped (status ▸ inactive)]
    exact ⟨rfl, mirrors.control, rfl, [], silent⟩
  | unfetched active missing =>
    rw [step_of_stepsTo (.unfetched (status.trans active) (mirrors.fetch_fails active missing))]
    obtain ⟨config, memory, stackTop, rfl⟩ := mirrors.control.exists_eq
    refine ⟨rfl, ⟨stackTop, rfl, rfl, rfl, rfl, rfl⟩, ?_, [], silent⟩
    simp only [Cycle.stopAtFault, mirrors.trace_eq active]
  | trapped active found unknown =>
    rw [step_of_stepsTo
      (.trapped (status.trans active) (mirrors.fetch_succeeds active found) unknown)]
    obtain ⟨config, memory, stackTop, rfl⟩ := mirrors.control.exists_eq
    refine ⟨rfl, ⟨stackTop, rfl, rfl, rfl, rfl, rfl⟩, ?_, [], silent⟩
    simp only [mirrors.trace_eq active]
  | @failed i cause found fails =>
    have ⟨active, _⟩ := instruction?_eq_some_iff.mp found
    have fails' := fails.mirrored (mirrors.fetching i) (by simpa [Cycle.stopAtFault] using inside)
    rw [step_of_stepsTo (.failed (mirrors.instruction?_eq.trans found) fails')]
    obtain ⟨config, memory, stackTop, rfl⟩ := mirrors.control.exists_eq
    refine ⟨rfl, ⟨stackTop, rfl, rfl, rfl, rfl, rfl⟩, ?_, [], silent⟩
    simp only [Cycle.stopAtFault, mirrors.trace_eq active]
  | @refused i effect found executes full =>
    have ⟨active, _⟩ := instruction?_eq_some_iff.mp found
    obtain ⟨moved, executes', control⟩ := executes.mirrored (mirrors.fetching i)
    have full' := (Sink.accepts_congr room _).trans full
    rw [step_of_stepsTo (.refused (mirrors.instruction?_eq.trans found) executes' full')]
    obtain ⟨config, memory, stackTop, rfl⟩ := mirrors.control.exists_eq
    refine ⟨rfl, ⟨stackTop, rfl, rfl, rfl, rfl, rfl⟩, ?_, effect.emission.text, rfl, rfl⟩
    simp only [Cycle.stopAtFault, mirrors.trace_eq active]
  | @done i effect found executes accepted =>
    have ⟨active, _⟩ := instruction?_eq_some_iff.mp found
    obtain ⟨moved, executes', control⟩ := executes.mirrored (mirrors.fetching i)
    have accepted' := (Sink.accepts_congr room _).trans accepted
    rw [step_of_stepsTo (.done (mirrors.instruction?_eq.trans found) executes' accepted')]
    refine ⟨congrArg Except.ok control.status, control, ?_, effect.emission.text, rfl, rfl⟩
    simp only [Cycle.finish, Effect.cycle, mirrors.trace_eq active, mirrors.control.pc]

end Machine

end LS8
