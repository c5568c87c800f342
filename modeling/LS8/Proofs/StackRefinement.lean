import LS8.Proofs.StackMove
import Mathlib.Data.List.Basic

/-!
# The stack in memory refines a list

The cells from the stack pointer up to the stack top, read as a list, are an
abstract stack: `Machine.stack`.  As long as the stack pointer lies in this part
of memory, which `Machine.StackInMemory` says, a step that does not assign the
stack pointer acts on the list as push, pop, or not at all, and pushes and pops
fail exactly when the list is full or empty.
-/

namespace LS8

namespace Memory

def between (memory : Memory) (low high : Nat) : List UInt8 :=
  (List.range' low (high - low)).filterMap memory.cell?

variable {memory other : Memory} {low high : Nat}

theorem between_of_le (empty : high ≤ low) : memory.between low high = [] := by
  rw [between, Nat.sub_eq_zero_of_le empty]
  rfl

theorem between_of_lt {value : UInt8} (cell : memory.cell? low = some value) (lt : low < high) :
    memory.between low high = value :: memory.between (low + 1) high := by
  have count : high - low = high - (low + 1) + 1 := by omega
  rw [between, count, List.range'_succ, List.filterMap_cons_some cell]
  rfl

theorem between_congr
    (same : ∀ address, low ≤ address → address < high →
      memory.cell? address = other.cell? address) :
    memory.between low high = other.between low high := by
  apply List.filterMap_congr
  intro address member
  obtain ⟨atLeast, below⟩ := List.mem_range'_1.mp member
  exact same address atLeast (by omega)

theorem length_between (fits : high ≤ memory.size) :
    (memory.between low high).length = high - low := by
  -- One cell at a time from the lowest; none is missing, since all are below the size.
  induction count : high - low generalizing low with
  | zero =>
    rw [between_of_le (by omega)]
    rfl
  | succ count ih =>
    cases cell : memory.cell? low with
    | none =>
      have outside := cell?_eq_none_iff.mp cell
      omega
    | some value =>
      rw [between_of_lt cell (by omega), List.length_cons, ih (by omega)]

end Memory

namespace Machine

/-- The bytes on the stack, the newest first. -/
def stack (m : Machine) : List UInt8 :=
  m.memory.between m.sp.toNat m.config.stackTop.toNat

/-- The stack pointer lies at or below the stack top, which lies in memory. -/
structure StackInMemory (m : Machine) : Prop where
  sp_le : m.sp ≤ m.config.stackTop
  top_le : m.config.stackTop.toNat ≤ m.memory.size

variable {m moved : Machine} {i : Instruction} {sink : Sink}

theorem StackInMemory.sp_toNat_le (inMemory : m.StackInMemory) :
    m.sp.toNat ≤ m.config.stackTop.toNat :=
  UInt8.le_iff_toNat_le.mp inMemory.sp_le

/-- The stack pointer counts the bytes on the stack, down from the stack top. -/
theorem StackInMemory.sp_add_length (inMemory : m.StackInMemory) :
    m.sp.toNat + m.stack.length = m.config.stackTop.toNat := by
  have length : m.stack.length = _ := Memory.length_between inMemory.top_le
  have low := inMemory.sp_toNat_le
  omega

theorem StackInMemory.stack_eq_nil_iff (inMemory : m.StackInMemory) :
    m.stack = [] ↔ m.config.stackTop ≤ m.sp := by
  have count := inMemory.sp_add_length
  rw [UInt8.le_iff_toNat_le, ← List.length_eq_zero_iff]
  omega

theorem StackInMemory.length_eq_top_iff (inMemory : m.StackInMemory) :
    m.stack.length = m.config.stackTop.toNat ↔ m.sp = 0 := by
  have count := inMemory.sp_add_length
  rw [← UInt8.toNat_inj, UInt8.toNat_zero]
  omega

/-! ## Moves of the stack -/

theorem stack_of_same (config : moved.config = m.config) (memory : moved.memory = m.memory)
    (sp : moved.sp = m.sp) : moved.stack = m.stack := by
  rw [stack, stack, config, memory, sp]

/-- A byte stored below the stack pointer becomes the newest, since no cell of
the stack is written. -/
theorem StackInMemory.stack_of_push {value : UInt8} (inMemory : m.StackInMemory)
    (config : moved.config = m.config) (nonzero : m.sp ≠ 0)
    (written : m.memory.write (m.sp - 1).toNat value = .ok moved.memory)
    (sp : moved.sp = m.sp - 1) : moved.stack = value :: m.stack := by
  have below := toNat_sp_sub_one nonzero
  have low := inMemory.sp_toNat_le
  have cells := Memory.cell?_write written
  have newest : moved.memory.cell? (m.sp - 1).toNat = some value := by
    rw [cells, if_pos rfl]
  rw [stack, config, sp, Memory.between_of_lt newest (by omega), below, stack]
  congr 1
  apply Memory.between_congr
  intro address atLeast _
  -- The cells of the old stack are above the one that is written.
  rw [cells, if_neg (by omega)]

theorem stack_of_pop {value : UInt8} (config : moved.config = m.config)
    (inside : m.sp < m.config.stackTop) (cell : m.memory.cell? m.sp.toNat = some value)
    (memory : moved.memory = m.memory) (sp : moved.sp = m.sp + 1) :
    m.stack = value :: moved.stack := by
  have lt : m.sp.toNat < m.config.stackTop.toNat := UInt8.lt_iff_toNat_lt.mp inside
  rw [stack, Memory.between_of_lt cell lt, stack, config, memory, sp, toNat_sp_add_one inside]

/-- The stack stays in memory, because a pop stops at the stack top. -/
theorem StackInMemory.step (inMemory : m.StackInMemory) (quiet : ¬m.AssignsStackPointer sink) :
    (m.step sink).machine.StackInMemory := by
  have low := inMemory.sp_toNat_le
  refine ⟨?_, ?_⟩
  · rw [config_step, UInt8.le_iff_toNat_le]
    obtain same | ⟨i, status, _, _, move⟩ := stackMove_step quiet
    · rw [same.sp]
      exact low
    · cases move with
      | keep _ _ sp =>
        rw [sp]
        exact low
      | push _ _ nonzero _ sp =>
        have below := toNat_sp_sub_one nonzero
        rw [sp]
        omega
      | pop _ _ inside _ _ sp =>
        -- The only move upwards has looked at the stack top before.
        rw [sp, toNat_sp_add_one inside]
        exact UInt8.lt_iff_toNat_lt.mp inside
  · rw [config_step, memory_size_step]
    exact inMemory.top_le

theorem StackInMemory.after (inMemory : m.StackInMemory) (sinks : Nat → Sink) (n : Nat)
    (quiet : ∀ k < n, ¬(m.after sinks k).AssignsStackPointer (sinks k)) :
    (m.after sinks n).StackInMemory := by
  induction n with
  | zero => exact inMemory
  | succ n ih =>
    have earlier := ih fun k before => quiet k (Nat.lt_succ_of_lt before)
    exact earlier.step (quiet n (Nat.lt_succ_self n))

/-! ## Steps of the list stack -/

/-- A step acts on the stack as on a list: a push adds a byte in front, a pop
takes the byte in front, and any other step leaves the list alone. -/
structure ActsOnStack (m : Machine) (outcome : Outcome Status) : Prop where
  push : ∀ i status, m.instruction? = some i → i.op = .push → outcome.result = .ok status →
    ∃ value, m.readRegister i.first = .ok value m ∧ outcome.machine.stack = value :: m.stack
  call : ∀ i status, m.instruction? = some i → i.op = .call → outcome.result = .ok status →
    ∃ value, value.toNat = m.pc + 2 ∧ outcome.machine.stack = value :: m.stack
  pop : ∀ i status, m.instruction? = some i → i.op = .pop → outcome.result = .ok status →
    ∃ value, m.stack = value :: outcome.machine.stack ∧
      outcome.machine.readRegister i.first = .ok value outcome.machine
  ret : ∀ i status, m.instruction? = some i → i.op = .ret → outcome.result = .ok status →
    ∃ value, m.stack = value :: outcome.machine.stack ∧ outcome.machine.pc = value.toNat
  other : (∀ i status, m.instruction? = some i → i.op ∈ [.push, .call, .pop, .ret] →
    outcome.result ≠ .ok status) → outcome.machine.stack = m.stack

theorem StackInMemory.actsOnStack (inMemory : m.StackInMemory)
    (quiet : ¬m.AssignsStackPointer sink) : m.ActsOnStack (m.step sink) := by
  have config := config_step m sink
  -- The move of a step that succeeds on a given instruction.
  have moves {i : Instruction} {status : Status} (found : m.instruction? = some i)
      (succeeded : (m.step sink).result = .ok status) : StackMove m i (m.step sink).machine := by
    obtain ⟨effect, executes, machine_eq⟩ := executes_of_step found succeeded
    have spare : ¬i.AssignsStackPointer := fun assigns =>
      quiet ⟨i, status, found, assigns, succeeded⟩
    rw [machine_eq]
    exact stackMove_of_executes spare executes
  refine ⟨?_, ?_, ?_, ?_, ?_⟩
  · intro i status found op succeeded
    obtain ⟨value, read, _, nonzero, written, sp⟩ := (moves found succeeded).pushed (.inl op)
    exact ⟨value, read op, inMemory.stack_of_push config nonzero written sp⟩
  · intro i status found op succeeded
    obtain ⟨value, _, next, nonzero, written, sp⟩ := (moves found succeeded).pushed (.inr op)
    exact ⟨value, next op, inMemory.stack_of_push config nonzero written sp⟩
  · intro i status found op succeeded
    obtain ⟨value, read, _, inside, cell, memory, sp⟩ := (moves found succeeded).popped (.inl op)
    exact ⟨value, stack_of_pop config inside cell memory sp, read op⟩
  · intro i status found op succeeded
    obtain ⟨value, _, pc, inside, cell, memory, sp⟩ := (moves found succeeded).popped (.inr op)
    exact ⟨value, stack_of_pop config inside cell memory sp, pc op⟩
  · intro none
    -- A push or a pop that had been carried out would have succeeded.
    obtain same | ⟨i, status, found, succeeded, move⟩ := stackMove_step quiet
    · exact stack_of_same config same.memory same.sp
    · cases move with
      | keep _ memory sp => exact stack_of_same config memory sp
      | push _ source =>
        have member : i.op ∈ [.push, .call, .pop, .ret] := by
          obtain ⟨op, _⟩ | ⟨op, _⟩ := source <;> simp [op]
        exact absurd succeeded (none i status found member)
      | pop _ target =>
        have member : i.op ∈ [.push, .call, .pop, .ret] := by
          obtain ⟨op, _⟩ | ⟨op, _⟩ := target <;> simp [op]
        exact absurd succeeded (none i status found member)

/-! ## When the list stack fails -/

/-- Once what comes before has been checked, pops fail exactly on an empty stack
and pushes exactly on a full one. -/
structure FailsAsStack (m : Machine) (outcome : Outcome Status) : Prop where
  pop : ∀ i, m.instruction? = some i → i.op = .pop → i.first.toNat < 8 → ∀ error,
    outcome.result = .error error ↔ m.stack = [] ∧ error = .fault (.stackUnderflow m.sp)
  ret : ∀ i, m.instruction? = some i → i.op = .ret → ∀ error,
    outcome.result = .error error ↔ m.stack = [] ∧ error = .fault (.stackUnderflow m.sp)
  push : ∀ i, m.instruction? = some i → i.op = .push → i.first.toNat < 8 → ∀ error,
    outcome.result = .error error ↔
      m.stack.length = m.config.stackTop.toNat ∧ error = .fault .stackOverflow
  call : ∀ i, m.instruction? = some i → i.op = .call → m.pc + 2 ≤ 255 → i.first.toNat < 8 →
    ∀ error, outcome.result = .error error ↔
      m.stack.length = m.config.stackTop.toNat ∧ error = .fault .stackOverflow
  inMemory : ∀ i address, m.instruction? = some i → i.op ∈ [.push, .pop, .call, .ret] →
    outcome.result ≠ .error (.fault (.outsideMemory address))

/-- What a failure implies and a success excludes is when the failure happens. -/
theorem result_eq_error_iff {result : Except Error Status} {condition : Prop} {expected : Error}
    (fails : ∀ error, result = .error error → condition ∧ error = expected)
    (succeeds : ∀ status, result = .ok status → ¬condition) (error : Error) :
    result = .error error ↔ condition ∧ error = expected := by
  constructor
  · exact fails error
  · rintro ⟨holds, rfl⟩
    cases result with
    | ok status => exact absurd holds (succeeds status rfl)
    | error other => rw [(fails other rfl).2]

theorem StackInMemory.fault_of_push {value : UInt8} {fault : Fault} (inMemory : m.StackInMemory)
    (failed : m.push value = .error fault m) :
    m.stack.length = m.config.stackTop.toNat ∧ fault = .stackOverflow := by
  rw [inMemory.length_eq_top_iff]
  obtain ⟨full | ⟨nonzero, outside, _⟩, _⟩ := push_eq_error_iff.mp failed
  · exact full
  · have below := toNat_sp_sub_one nonzero
    have low := inMemory.sp_toNat_le
    have top := inMemory.top_le
    omega

theorem StackInMemory.fault_of_pop {fault : Fault} (inMemory : m.StackInMemory)
    (failed : m.pop = .error fault m) : m.stack = [] ∧ fault = .stackUnderflow m.sp := by
  rw [inMemory.stack_eq_nil_iff]
  obtain ⟨empty | ⟨inside, outside, _⟩, _⟩ := pop_eq_error_iff.mp failed
  · exact empty
  · have lt : m.sp.toNat < m.config.stackTop.toNat := UInt8.lt_iff_toNat_lt.mp inside
    have top := inMemory.top_le
    omega

/-- Why an instruction that uses the stack fails: because of what is checked
before the stack is touched, or because the list stack is full or empty. -/
inductive StackFault (m : Machine) (i : Instruction) : Fault → Prop
  | register (large : 8 ≤ i.first.toNat) (named : i.op ≠ .ret) :
      StackFault m i (.noSuchRegister i.first)
  | returnAddress (op : i.op = .call) (large : 255 < m.pc + 2) :
      StackFault m i (.returnAddressTooLarge (m.pc + 2))
  | full (op : i.op = .push ∨ i.op = .call) (length : m.stack.length = m.config.stackTop.toNat) :
      StackFault m i .stackOverflow
  | empty (op : i.op = .pop ∨ i.op = .ret) (nil : m.stack = []) :
      StackFault m i (.stackUnderflow m.sp)

theorem StackInMemory.stackFault {fault : Fault} (inMemory : m.StackInMemory)
    (uses : i.op.usesStack = true) (fails : Fails (m.fetching i) i fault) :
    StackFault m i fault := by
  have fetching : (m.fetching i).StackInMemory := ⟨inMemory.sp_le, inMemory.top_le⟩
  cases fails with
  | returnAddress large => exact .returnAddress rfl large
  | first named _ missing =>
    obtain ⟨large, rfl⟩ := Register.ofByte_eq_error_iff.mp missing
    refine .register large ?_
    rintro rfl
    cases named
  | @second op a b r fault named =>
    -- No instruction that uses the stack names two registers.
    cases op <;> simp [Opcode.usesStack, Opcode.registerOperands] at uses named
  | push _ failed =>
    obtain ⟨length, rfl⟩ := fetching.fault_of_push failed
    exact .full (.inl rfl) length
  | call _ _ failed =>
    obtain ⟨length, rfl⟩ := fetching.fault_of_push failed
    exact .full (.inr rfl) length
  | pop _ failed =>
    obtain ⟨nil, rfl⟩ := fetching.fault_of_pop failed
    exact .empty (.inl rfl) nil
  | ret failed =>
    obtain ⟨nil, rfl⟩ := fetching.fault_of_pop failed
    exact .empty (.inr rfl) nil

/-- An instruction that pushes has found room, and one that pops a byte. -/
theorem StackInMemory.room_of_executes {effect : Effect} (inMemory : m.StackInMemory)
    (executes : Executes (m.fetching i) i effect) :
    (i.op = .push ∨ i.op = .call → m.stack.length ≠ m.config.stackTop.toNat) ∧
      (i.op = .pop ∨ i.op = .ret → m.stack ≠ []) := by
  rw [ne_eq, ne_eq, inMemory.length_eq_top_iff, inMemory.stack_eq_nil_iff]
  cases executes with
  | push _ stored | call _ _ stored =>
    obtain ⟨nonzero, _⟩ := push_eq_ok_iff.mp stored
    exact ⟨fun _ => nonzero, by simp⟩
  | pop _ taken | ret taken =>
    obtain ⟨inside, _⟩ := pop_eq_ok_iff.mp taken
    exact ⟨by simp, fun _ => UInt8.not_le.mpr inside⟩
  | halt | loadImmediate | print | compare => simp
  | @arithmetic op operation a b r other kind => cases op <;> simp [Opcode.operation?] at kind ⊢
  | @jump op a b r taken => cases op <;> simp [Opcode.taken?] at taken ⊢
  | @fallThrough op a b r untaken => cases op <;> simp [Opcode.taken?] at untaken ⊢

theorem StackInMemory.stackFault_of_step {error : Error} (inMemory : m.StackInMemory)
    (found : m.instruction? = some i) (uses : i.op.usesStack = true)
    (failed : (m.step sink).result = .error error) :
    ∃ cause, error = .fault cause ∧ StackFault m i cause := by
  obtain ⟨cause, rfl, fails⟩ | ⟨op, _⟩ := fails_of_step found failed
  · exact ⟨cause, rfl, inMemory.stackFault uses fails⟩
  · simp [op, Opcode.usesStack] at uses

/-- A pop with a destination, or a return, fails exactly on the empty stack. -/
theorem StackInMemory.pop_fails_iff (inMemory : m.StackInMemory) (found : m.instruction? = some i)
    (pops : i.op = .pop ∨ i.op = .ret) (named : i.op = .pop → i.first.toNat < 8) (error : Error) :
    (m.step sink).result = .error error ↔
      m.stack = [] ∧ error = .fault (.stackUnderflow m.sp) := by
  refine result_eq_error_iff ?_ ?_ error
  · intro error failed
    have uses : i.op.usesStack = true := by
      obtain op | op := pops <;> rw [op] <;> rfl
    obtain ⟨cause, rfl, why⟩ := inMemory.stackFault_of_step found uses failed
    cases why with
    | register large notRet =>
      have small := named (pops.resolve_right notRet)
      omega
    | returnAddress other | full other => obtain op | op := pops <;> simp [op] at other
    | empty _ nil => exact ⟨nil, rfl⟩
  · intro status succeeded
    obtain ⟨_, executes, _⟩ := executes_of_step found succeeded
    exact (inMemory.room_of_executes executes).2 pops

/-- A push or a call that passes what is checked first fails exactly on the full
stack. -/
theorem StackInMemory.push_fails_iff (inMemory : m.StackInMemory) (found : m.instruction? = some i)
    (pushes : i.op = .push ∨ i.op = .call) (fits : i.op = .call → m.pc + 2 ≤ 255)
    (named : i.first.toNat < 8) (error : Error) :
    (m.step sink).result = .error error ↔
      m.stack.length = m.config.stackTop.toNat ∧ error = .fault .stackOverflow := by
  refine result_eq_error_iff ?_ ?_ error
  · intro error failed
    have uses : i.op.usesStack = true := by
      obtain op | op := pushes <;> rw [op] <;> rfl
    obtain ⟨cause, rfl, why⟩ := inMemory.stackFault_of_step found uses failed
    cases why with
    | register large => omega
    | returnAddress op large =>
      have small := fits op
      omega
    | full _ length => exact ⟨length, rfl⟩
    | empty other => obtain op | op := pushes <;> simp [op] at other
  · intro status succeeded
    obtain ⟨_, executes, _⟩ := executes_of_step found succeeded
    exact (inMemory.room_of_executes executes).1 pushes

theorem StackInMemory.failsAsStack (inMemory : m.StackInMemory) (sink : Sink) :
    m.FailsAsStack (m.step sink) where
  pop := fun _ found op named => inMemory.pop_fails_iff found (.inl op) fun _ => named
  ret := fun _ found op => inMemory.pop_fails_iff found (.inr op) (by simp [op])
  push := fun _ found op => inMemory.push_fails_iff found (.inl op) (by simp [op])
  call := fun _ found op fits => inMemory.push_fails_iff found (.inr op) fun _ => fits
  inMemory := by
    intro i address found member failed
    have uses : i.op.usesStack = true := by
      revert member
      cases i.op <;> simp [Opcode.usesStack]
    obtain ⟨cause, same, why⟩ := inMemory.stackFault_of_step found uses failed
    cases same
    cases why

/-! ## Runs -/

theorem stackInMemory_of_reachable (reachable : m.Reachable) (low : m.sp ≤ m.config.stackTop) :
    m.StackInMemory := by
  obtain ⟨config, start, built, reaches⟩ := reachable
  obtain ⟨valid, bounds⟩ := inBounds_of_reaches built reaches
  refine ⟨low, ?_⟩
  rw [bounds.memory_size, bounds.config_eq]
  exact valid.2.2

/-- After any number of steps that do not assign the stack pointer, from a
machine whose stack pointer was not above the stack top, the bytes from there to
the stack top are a list stack: the stack pointer counts them, the next step
acts on them as on a list unless it assigns the stack pointer, and it fails as a
stack that is full or empty does. -/
theorem stack_refines_list (reachable : m.Reachable) (low : m.sp ≤ m.config.stackTop)
    (sinks : Nat → Sink) (n : Nat)
    (quiet : ∀ k < n, ¬(m.after sinks k).AssignsStackPointer (sinks k)) (sink : Sink) :
    let here := m.after sinks n
    here.sp.toNat = here.config.stackTop.toNat - here.stack.length ∧
      here.stack.length ≤ here.config.stackTop.toNat ∧
      (¬here.AssignsStackPointer sink → here.ActsOnStack (here.step sink)) ∧
      here.FailsAsStack (here.step sink) ∧
      (powerOn m.config).sp = m.config.stackTop ∧ m.reset.sp = m.config.stackTop := by
  intro here
  have inMemory : here.StackInMemory :=
    (stackInMemory_of_reachable reachable low).after sinks n quiet
  have count := inMemory.sp_add_length
  refine ⟨by omega, by omega, inMemory.actsOnStack, inMemory.failsAsStack sink, ?_, ?_⟩
  · exact sp_powerOn m.config
  · exact sp_reset m

/-- A call of itself, taken twice: its return addresses are on the stack. -/
theorem stack_refines_list_nested_calls :
    ∃ (m : Machine) (sinks : Nat → Sink), m.Reachable ∧ (m.after sinks 2).sp = 6 ∧
      (m.after sinks 2).stack = [2, 2] ∧
      (m.after sinks 2).ActsOnStack ((m.after sinks 2).step {}) ∧
      (m.after sinks 2).FailsAsStack ((m.after sinks 2).step {}) := by
  let start := powerOn { memorySize := 8, stackTop := 8 }
  let m : Machine := { start with memory := ⟨#[Opcode.call.byte, 0, 0, 0, 0, 0, 0, 0]⟩ }
  let sinks : Nat → Sink := fun _ => {}
  have fits : start.load [Opcode.call.byte, 0, 0] = .ok () m := rfl
  have reachable : m.Reachable :=
    ⟨{ memorySize := 8, stackTop := 8 }, start, rfl, Reaches.refl.load fits⟩
  have calls : ∀ k ≤ 2, (m.after sinks k).instruction? = some ⟨.call, 0, 0⟩ := by decide
  have quiet : ∀ k ≤ 2, ¬(m.after sinks k).AssignsStackPointer (sinks k) := by
    rintro k le ⟨i, status, found, ⟨destination, _⟩, _⟩
    obtain rfl := Option.some.inj ((calls k le).symm.trans found)
    cases destination
  obtain ⟨_, _, acts, fails, _⟩ := stack_refines_list reachable (by decide) sinks 2
    (fun k before => quiet k (Nat.le_of_lt before)) {}
  exact ⟨m, sinks, reachable, by decide, by decide, acts (quiet 2 (Nat.le_refl 2)), fails⟩

end Machine

end LS8
