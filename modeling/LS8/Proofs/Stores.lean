import LS8.Proofs.Lockstep
import LS8.Proofs.Session
import LS8.Proofs.StackMove

/-!
# What execution stores

Of all instructions only a push and a call store a byte in memory, in the cell
right below the stack pointer.

* `Session.stored?` — the byte that the next step stores at an address;
* `Session.cell?_step` — a step changes no cell but the one it stores in;
* `Session.sp_of_stored?` — the cell a step stores in is where it leaves the
  stack pointer, so that its address is below 255.
-/

namespace LS8

/-- The byte that an instruction stores in memory: a push stores a register, a
call the address behind it. -/
def Instruction.pushed? (i : Instruction) (m : Machine) : Option UInt8 :=
  match i.op with
  | .push => (Register.ofByte i.first).toOption.map m.registers.get
  | .call => some (m.pc + 2).toUInt8
  | _ => none

/-- What a push or a call stores, as the moves of the stack name it. -/
theorem Instruction.pushed?_of_source {i : Instruction} {m : Machine} {value : UInt8}
    (source : i.op = .push ∧ m.readRegister i.first = .ok value m ∨
      i.op = .call ∧ value.toNat = m.pc + 2) : i.pushed? m = some value := by
  obtain ⟨op, read⟩ | ⟨op, next⟩ := source
  · obtain ⟨r, named, rfl, _⟩ := Machine.readRegister_eq_ok_iff.mp read
    simp [pushed?, op, named, Except.toOption]
  · simp [pushed?, op, ← next]

/-- An instruction that stores a byte does so below the stack pointer and moves
the stack pointer there. -/
structure StoresBelow (m : Machine) (value : UInt8) (after : Machine) : Prop where
  nonzero : m.sp ≠ 0
  written : m.memory.write (m.sp - 1).toNat value = .ok after.memory
  sp : after.sp = m.sp - 1

theorem Executes.stores {m : Machine} {i : Instruction} {effect : Effect}
    (executes : Executes (m.fetching i) i effect) :
    (∃ value, i.pushed? m = some value ∧ StoresBelow m value effect.machine) ∨
      i.pushed? m = none ∧ effect.machine.memory = m.memory := by
  cases executes with
  | @push a b r pushed source stored =>
    obtain ⟨nonzero, memory, written, rfl⟩ := Machine.push_eq_ok_iff.mp stored
    have read : m.readRegister a = .ok (m.registers.get r) m :=
      Machine.readRegister_eq_ok_iff.mpr ⟨r, source, rfl, rfl⟩
    exact .inl ⟨_, Instruction.pushed?_of_source (.inl ⟨rfl, read⟩), nonzero, written,
      Machine.sp_setRegister_stackPointer m _⟩
  | call after target stored =>
    obtain ⟨nonzero, memory, written, rfl⟩ := Machine.push_eq_ok_iff.mp stored
    exact .inl ⟨_, Instruction.pushed?_of_source (.inr ⟨rfl, after⟩), nonzero, written,
      Machine.sp_setRegister_stackPointer m _⟩
  | pop _ taken | ret taken =>
    obtain ⟨_, _, rfl⟩ := Machine.pop_eq_ok_iff.mp taken
    exact .inr ⟨rfl, rfl⟩
  | halt | loadImmediate | print | compare => exact .inr ⟨rfl, rfl⟩
  | @arithmetic op operation a b r other kind =>
    cases op <;> simp only [Opcode.operation?, reduceCtorEq] at kind
    case add | multiply => exact .inr ⟨rfl, rfl⟩
  | @jump op a b r taken =>
    cases op <;> simp only [Opcode.taken?, reduceCtorEq] at taken
    case jump | jumpIfEqual | jumpIfNotEqual => exact .inr ⟨rfl, rfl⟩
  | @fallThrough op a b r untaken =>
    cases op <;> simp only [Opcode.taken?, reduceCtorEq] at untaken
    case jump | jumpIfEqual | jumpIfNotEqual => exact .inr ⟨rfl, rfl⟩

namespace Session

/-- The byte that the next step stores at an address of memory. -/
def stored? (s : Session) (address : Nat) : Option UInt8 :=
  match s.machine.instruction?, s.step.result with
  | some i, .ok _ => if (s.machine.sp - 1).toNat = address then i.pushed? s.machine else none
  | _, _ => none

variable {s : Session} {address : Nat} {value : UInt8}

theorem stored?_eq_some_iff :
    s.stored? address = some value ↔ ∃ i status, s.machine.instruction? = some i ∧
      s.step.result = .ok status ∧ (s.machine.sp - 1).toNat = address ∧
        i.pushed? s.machine = some value := by
  unfold stored?
  cases s.machine.instruction? with
  | none => simp
  | some i => cases s.step.result <;> simp

/-- A step stores one byte, or none. -/
theorem stores_cases (s : Session) :
    (∃ value, StoresBelow s.machine value s.step.machine ∧ ∀ address,
      s.stored? address = if (s.machine.sp - 1).toNat = address then some value else none) ∨
    (∀ address, s.stored? address = none) ∧ s.step.machine.memory = s.machine.memory := by
  by_cases done : ∃ i status, s.machine.instruction? = some i ∧ s.step.result = .ok status
  · obtain ⟨i, status, found, succeeded⟩ := done
    have stored (address : Nat) : s.stored? address =
        if (s.machine.sp - 1).toNat = address then i.pushed? s.machine else none := by
      simp only [stored?, found, succeeded]
    obtain ⟨effect, executes, machine_eq⟩ := Machine.executes_of_step found succeeded
    change s.step.machine = _ at machine_eq
    rw [machine_eq]
    obtain ⟨value, pushed, below⟩ | ⟨silent, memory⟩ := executes.stores
    · exact .inl ⟨value, below, fun address => by rw [stored, pushed]⟩
    · exact .inr ⟨fun address => by rw [stored, silent, ite_self], memory⟩
  · refine .inr ⟨?_, ?_⟩
    · intro address
      apply Option.eq_none_iff_forall_ne_some.mpr
      intro value stored
      obtain ⟨i, status, found, succeeded, _⟩ := stored?_eq_some_iff.mp stored
      exact done ⟨i, status, found, succeeded⟩
    · obtain same | ⟨i, effect, found, _, _, succeeded⟩ := Machine.step_cases s.machine s.sink
      · exact same.memory
      · exact absurd ⟨i, _, found, succeeded⟩ done

/-- A step changes no cell but the one it stores in. -/
theorem cell?_step (s : Session) (address : Nat) :
    s.step.machine.memory.cell? address =
      (s.stored? address).or (s.machine.memory.cell? address) := by
  obtain ⟨value, below, stored⟩ | ⟨silent, memory⟩ := s.stores_cases
  · rw [Memory.cell?_write below.written, stored]
    split <;> rfl
  · rw [silent, memory, Option.none_or]

/-- A cell that no step stores in stays as it is. -/
theorem cell?_after_of_not_stored {s : Session} {n address : Nat}
    (silent : ∀ k < n, (s.after k).stored? address = none) :
    (s.after n).machine.memory.cell? address = s.machine.memory.cell? address := by
  induction n with
  | zero => rfl
  | succ n ih =>
    have earlier := ih fun k before => silent k (Nat.lt_succ_of_lt before)
    change (s.after n).step.machine.memory.cell? address = _
    rw [cell?_step, silent n (Nat.lt_succ_self n), Option.none_or, earlier]

theorem sp_of_stored? (stored : s.stored? address = some value) :
    s.step.machine.sp.toNat = address ∧ s.machine.sp.toNat = address + 1 := by
  obtain ⟨other, below, only⟩ | ⟨silent, _⟩ := s.stores_cases
  · rw [only, Option.ite_none_right_eq_some] at stored
    have down := Machine.toNat_sp_sub_one below.nonzero
    rw [below.sp]
    omega
  · rw [silent] at stored
    cases stored

/-- Unless a step stores in a cell or assigns the stack pointer, a cell that is
on the stack after the step was there before. -/
theorem sp_le_of_not_stored (quiet : ¬s.machine.AssignsStackPointer s.sink)
    (silent : s.stored? address = none) (above : s.step.machine.sp.toNat ≤ address) :
    s.machine.sp.toNat ≤ address := by
  obtain same | ⟨i, status, found, succeeded, move⟩ := Machine.stackMove_step quiet
  · exact same.sp ▸ above
  · change Machine.StackMove s.machine i s.step.machine at move
    cases move with
    | keep _ _ sp => exact sp ▸ above
    | push value source nonzero _ sp =>
      have stored : s.stored? (s.machine.sp - 1).toNat = some value := stored?_eq_some_iff.mpr
        ⟨i, status, found, succeeded, rfl, Instruction.pushed?_of_source source⟩
      have down := Machine.toNat_sp_sub_one nonzero
      have other : (s.machine.sp - 1).toNat ≠ address := by
        rintro rfl
        cases silent.symm.trans stored
      rw [sp] at above
      omega
    | pop _ _ inside _ _ sp =>
      have up := Machine.toNat_sp_add_one inside
      rw [sp] at above
      omega

theorem lt_of_stored? (stored : s.stored? address = some value) : address < 255 := by
  obtain ⟨_, above⟩ := sp_of_stored? stored
  have byte := s.machine.sp.toNat_lt
  omega

/-- Sessions in lockstep store the same bytes. -/
theorem stored?_of_mirrors {s t : Session} (mirrors : s.machine.Mirrors t.machine)
    (result : t.step.result = s.step.result) (address : Nat) :
    t.stored? address = s.stored? address := by
  have pushed (i : Instruction) : i.pushed? t.machine = i.pushed? s.machine := by
    simp only [Instruction.pushed?, mirrors.control.registers, mirrors.control.pc]
  simp only [stored?, mirrors.instruction?_eq, result, mirrors.control.sp, pushed]

theorem cell?_step_of_mirrors {s t : Session} (mirrors : s.machine.Mirrors t.machine)
    (result : t.step.result = s.step.result) (address : Nat) :
    t.step.machine.memory.cell? address =
      (s.stored? address).or (t.machine.memory.cell? address) := by
  rw [cell?_step, stored?_of_mirrors mirrors result]

end Session

end LS8
