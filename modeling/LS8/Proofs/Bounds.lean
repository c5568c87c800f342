import LS8.Proofs.Reachability
import LS8.Proofs.Step

/-!
# Reachable machines stay in bounds

Memory keeps the size that the configuration asked for, and the program counter
never leaves it by more than a byte can reach.  The program counter is bounded
because an instruction that advances has been fetched with the two bytes after
it, and every other target is a byte.

From these bounds and the validity of the configuration follows
`Machine.UncheckedInRange`: what the machine computes without a check of its
own is always in range.
-/

namespace LS8

/-! ## What instructions keep -/

theorem Opcode.width_le_three (op : Opcode) : op.width ≤ 3 := by
  cases op <;> decide

section Instructions

variable {m : Machine} {i : Instruction} {effect : Effect}

theorem Executes.config_eq (executes : Executes m i effect) : effect.machine.config = m.config := by
  cases executes with
  | push _ stored | call _ _ stored =>
    obtain ⟨_, memory, _, rfl⟩ := Machine.push_eq_ok_iff.mp stored
    rfl
  | pop _ taken | ret taken =>
    obtain ⟨_, _, rfl⟩ := Machine.pop_eq_ok_iff.mp taken
    rfl
  | _ => rfl

theorem Executes.fetched_eq (executes : Executes m i effect) :
    effect.machine.fetched = m.fetched := by
  cases executes with
  | push _ stored | call _ _ stored =>
    obtain ⟨_, memory, _, rfl⟩ := Machine.push_eq_ok_iff.mp stored
    rfl
  | pop _ taken | ret taken =>
    obtain ⟨_, _, rfl⟩ := Machine.pop_eq_ok_iff.mp taken
    rfl
  | _ => rfl

theorem Executes.memory_size (executes : Executes m i effect) :
    effect.machine.memory.size = m.memory.size := by
  cases executes with
  | push _ stored | call _ _ stored =>
    obtain ⟨_, memory, written, rfl⟩ := Machine.push_eq_ok_iff.mp stored
    exact Memory.size_write written
  | pop _ taken | ret taken =>
    obtain ⟨_, _, rfl⟩ := Machine.pop_eq_ok_iff.mp taken
    rfl
  | _ => rfl

/-- An instruction stops, goes on behind itself, or goes to an address held in
a byte. -/
theorem Executes.pc_cases (executes : Executes m i effect) :
    effect.machine.pc = m.pc ∨ effect.machine.pc = m.pc + i.op.width ∨
      effect.machine.pc ≤ 255 := by
  have byte : ∀ target : UInt8, target.toNat ≤ 255 := fun target =>
    Nat.le_of_lt_succ target.toNat_lt
  cases executes with
  | halt => exact .inl rfl
  | push _ stored =>
    obtain ⟨_, memory, _, rfl⟩ := Machine.push_eq_ok_iff.mp stored
    exact .inr (.inl rfl)
  | pop _ taken =>
    obtain ⟨_, _, rfl⟩ := Machine.pop_eq_ok_iff.mp taken
    exact .inr (.inl rfl)
  | ret | call | jump => exact .inr (.inr (byte _))
  | loadImmediate | print | arithmetic | compare | fallThrough => exact .inr (.inl rfl)

end Instructions

namespace Machine

theorem config_step (m : Machine) (sink : Sink) : (m.step sink).machine.config = m.config := by
  obtain same | ⟨i, effect, _, executes, machine_eq, _⟩ := step_cases m sink
  · exact same.config
  · rw [machine_eq, executes.config_eq, config_fetching]

theorem memory_size_step (m : Machine) (sink : Sink) :
    (m.step sink).machine.memory.size = m.memory.size := by
  obtain same | ⟨i, effect, _, executes, machine_eq, _⟩ := step_cases m sink
  · rw [same.memory]
  · rw [machine_eq, executes.memory_size, memory_fetching]

/-! ## The invariant -/

/-- The bounds on a machine that was built from a configuration. -/
structure InBounds (config : Config) (m : Machine) : Prop where
  config_eq : m.config = config
  memory_size : m.memory.size = config.memorySize
  pc_le : m.pc ≤ max config.memorySize 255

variable {config : Config} {m : Machine}

theorem InBounds.undisturbed {after : Machine} (bounds : InBounds config m)
    (same : Undisturbed m after) : InBounds config after := by
  refine ⟨?_, ?_, ?_⟩
  · rw [same.config, bounds.config_eq]
  · rw [same.memory, bounds.memory_size]
  · rw [same.pc]
    exact bounds.pc_le

theorem InBounds.executes {i : Instruction} {effect : Effect} (bounds : InBounds config m)
    (found : m.instruction? = some i) (executes : Executes (m.fetching i) i effect) :
    InBounds config effect.machine := by
  refine ⟨executes.config_eq.trans bounds.config_eq,
    executes.memory_size.trans bounds.memory_size, ?_⟩
  have fetched : m.pc + 2 < config.memorySize := bounds.memory_size ▸ pc_of_instruction? found
  have width := i.op.width_le_three
  have moves := executes.pc_cases
  rw [pc_fetching] at moves
  omega

theorem InBounds.updates {updated : Machine} (bounds : InBounds config m)
    (updates : m.Updates updated) : InBounds config updated := by
  cases updates with
  | reset => exact ⟨bounds.config_eq, bounds.memory_size, Nat.zero_le _⟩
  | load fits =>
    obtain ⟨memory, copied, rfl⟩ := load_eq_ok_iff.mp fits
    exact ⟨bounds.config_eq, (Memory.size_load? copied).trans bounds.memory_size, bounds.pc_le⟩
  | write inRange =>
    obtain ⟨memory, written, rfl⟩ := write_eq_ok_iff.mp inRange
    exact ⟨bounds.config_eq, (Memory.size_write written).trans bounds.memory_size, bounds.pc_le⟩
  | setRegister => exact ⟨bounds.config_eq, bounds.memory_size, bounds.pc_le⟩

theorem kept_inBounds (config : Config) : Kept (InBounds config) where
  step := by
    intro m sink bounds
    obtain same | ⟨i, effect, found, executes, machine_eq, _⟩ := step_cases m sink
    · exact bounds.undisturbed same
    · rw [machine_eq]
      exact bounds.executes found executes
  update := fun updates bounds => bounds.updates updates

theorem inBounds_powerOn (config : Config) : InBounds config (powerOn config) :=
  ⟨rfl, Memory.size_zeros _, Nat.zero_le _⟩

theorem inBounds_of_reaches {start : Machine} (built : ofConfig config = .ok start)
    (reaches : start.Reaches m) : config.Valid ∧ InBounds config m := by
  obtain ⟨valid, rfl⟩ := ofConfig_eq_ok_iff.mp built
  exact ⟨valid, (kept_inBounds config).reaches (inBounds_powerOn config) reaches⟩

/-! ## What is computed without a check -/

/-- Whatever the machine computes without a check of its own is in range:
addresses fit into 64 bits and stack pointers into a byte, and accesses that
follow a check find what the check promised. -/
structure UncheckedInRange (m : Machine) : Prop where
  fetch : m.pc + 1 < UInt64.size ∧ m.pc + 2 < UInt64.size
  advance : ∀ op : Opcode, m.pc + op.width < UInt64.size
  pop_read : m.sp < m.config.stackTop → ∃ value, m.read m.sp.toNat = .ok value m
  pop_fault : ∀ fault left, m.pop = .error fault left → fault = .stackUnderflow m.sp
  pop_pointer : ∀ value popped, m.pop = .ok value popped → popped.sp.toNat = m.sp.toNat + 1
  pop_store : ∀ index old value popped, m.readRegister index = .ok old m →
    m.pop = .ok value popped → ∃ stored, popped.writeRegister index value = .ok () stored
  call_target : ∀ index old next pushed, m.readRegister index = .ok old m →
    m.push next = .ok () pushed → ∃ target, pushed.readRegister index = .ok target pushed
  load_copy : ∀ program loaded, m.load program = .ok () loaded → program.length ≤ m.memory.size

/-- Below the stack top there is a cell, since the stack top lies in memory. -/
theorem read_of_lt_stackTop (top : m.config.stackTop.toNat ≤ m.memory.size)
    (inside : m.sp < m.config.stackTop) : ∃ value, m.read m.sp.toNat = .ok value m := by
  have below : m.sp.toNat < m.config.stackTop.toNat := UInt8.lt_iff_toNat_lt.mp inside
  cases found : m.memory.cell? m.sp.toNat with
  | some value => exact ⟨value, read_eq_ok_iff.mpr ⟨found, rfl⟩⟩
  | none =>
    have outside := Memory.cell?_eq_none_iff.mp found
    omega

theorem uncheckedInRange_of_inBounds (valid : config.Valid) (bounds : InBounds config m) :
    UncheckedInRange m := by
  obtain ⟨_, largest, top⟩ := valid
  have pc_le := bounds.pc_le
  have top_le : m.config.stackTop.toNat ≤ m.memory.size := by
    rw [bounds.config_eq, bounds.memory_size]
    exact top
  have pc_small : m.pc + 3 < UInt64.size := by
    simp only [Config.maxMemory] at largest
    simp only [UInt64.size]
    omega
  refine { fetch := ?_, advance := ?_, pop_read := read_of_lt_stackTop top_le, pop_fault := ?_,
           pop_pointer := ?_, pop_store := ?_, call_target := ?_, load_copy := ?_ }
  · omega
  · intro op
    have width := op.width_le_three
    omega
  · intro fault left failed
    obtain ⟨⟨_, underflow⟩ | ⟨inside, outside, _⟩, _⟩ := pop_eq_error_iff.mp failed
    · exact underflow
    · have below : m.sp.toNat < m.config.stackTop.toNat := UInt8.lt_iff_toNat_lt.mp inside
      omega
  · intro value popped taken
    obtain ⟨inside, _, rfl⟩ := pop_eq_ok_iff.mp taken
    rw [sp_setRegister_stackPointer]
    exact toNat_sp_add_one inside
  · intro index old value popped checked _
    obtain ⟨r, named, _⟩ := readRegister_eq_ok_iff.mp checked
    exact ⟨popped.setRegister r value, writeRegister_eq_ok_iff.mpr ⟨r, named, rfl⟩⟩
  · intro index old next pushed checked _
    obtain ⟨r, named, _⟩ := readRegister_eq_ok_iff.mp checked
    exact ⟨pushed.registers.get r, readRegister_eq_ok_iff.mpr ⟨r, named, rfl, rfl⟩⟩
  · intro program loaded fits
    obtain ⟨memory, copied, _⟩ := load_eq_ok_iff.mp fits
    apply Nat.le_of_not_lt
    intro large
    have refused := Memory.load?_eq_none_iff.mpr large
    rw [copied] at refused
    cases refused

/-- Whatever is done to a machine, it stays in bounds.  The configuration may be
any that a machine can be built from, among them the default (`ofConfig_default`). -/
theorem reachable_in_bounds {start : Machine} (built : ofConfig config = .ok start)
    (reaches : start.Reaches m) :
    m.memory.size = config.memorySize ∧ m.config = config ∧
      config.stackTop.toNat ≤ m.memory.size ∧ m.pc ≤ max config.memorySize 255 ∧
        UncheckedInRange m := by
  obtain ⟨valid, bounds⟩ := inBounds_of_reaches built reaches
  have top : config.stackTop.toNat ≤ m.memory.size := bounds.memory_size ▸ valid.2.2
  exact ⟨bounds.memory_size, bounds.config_eq, top, bounds.pc_le,
    uncheckedInRange_of_inBounds valid bounds⟩

/-- In the smallest memory, a jump through a register that was set from outside
reaches the bound on the program counter. -/
theorem reachable_in_bounds_beyond_memory :
    ∃ start m, ofConfig { memorySize := 3, stackTop := 3 } = .ok start ∧ start.Reaches m ∧
      m.pc = 255 ∧ m.memory.size = 3 ∧ UncheckedInRange m := by
  let start := powerOn { memorySize := 3, stackTop := 3 }
  let loaded : Machine := { start with memory := ⟨#[Opcode.jump.byte, 0, 0]⟩ }
  let aimed := loaded.setRegister 0 255
  have built : ofConfig { memorySize := 3, stackTop := 3 } = .ok start := rfl
  have fits : start.load [Opcode.jump.byte, 0, 0] = .ok () loaded := rfl
  have aims : loaded.writeRegister 0 255 = .ok () aimed := rfl
  have reaches : start.Reaches (aimed.step {}).machine :=
    ((Reaches.refl.load fits).writeRegister aims).step {}
  have jumped : (aimed.step {}).machine.pc = 255 := by decide
  obtain ⟨size, _, _, _, unchecked⟩ := reachable_in_bounds built reaches
  exact ⟨start, _, built, reaches, jumped, size, unchecked⟩

end Machine

end LS8
