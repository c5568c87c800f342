import LS8.Proofs.StackMove

/-!
# Pops match pushes

Whatever runs after a push or a call, the first step that brings the stack
pointer back takes the byte that was stored.  Until then the stack pointer stays
below the level from which the byte was pushed, since it moves by one cell at a
time, so every other push stores below the saved cell.
-/

namespace LS8.Machine

variable {m : Machine} {sink : Sink} {level : Nat} {value : UInt8}

/-- A byte is saved below a level: the stack pointer is below the level, and the
first cell below it holds the byte. -/
structure Saved (level : Nat) (value : UInt8) (m : Machine) : Prop where
  below : m.sp.toNat < level
  cell : m.memory.cell? (level - 1) = some value

/-- A push or a call saves the byte it stores below the level of the stack
pointer before it. -/
theorem saved_of_push {i : Instruction} {moved : Machine}
    (move : StackMove m i moved) (pushes : i.op = .push ∨ i.op = .call) :
    ∃ value, Saved m.sp.toNat value moved ∧ (i.op = .call → value.toNat = m.pc + 2) ∧
      (i.op = .push → m.readRegister i.first = .ok value m) := by
  obtain ⟨value, read, next, nonzero, written, sp⟩ := move.pushed pushes
  have below := toNat_sp_sub_one nonzero
  refine ⟨value, ⟨?_, ?_⟩, next, read⟩
  · rw [sp]
    omega
  · rw [Memory.cell?_write written, if_pos (by omega)]

/-- A step that does not bring the stack pointer back to the level keeps what is
saved below it. -/
theorem Saved.step (saved : Saved level value m) (quiet : ¬m.AssignsStackPointer sink)
    (away : (m.step sink).machine.sp.toNat ≠ level) : Saved level value (m.step sink).machine := by
  have below := saved.below
  obtain same | ⟨i, status, _, _, move⟩ := stackMove_step quiet
  · exact ⟨same.sp ▸ below, same.memory ▸ saved.cell⟩
  · cases move with
    | keep _ memory sp => exact ⟨sp ▸ below, memory ▸ saved.cell⟩
    | push pushed _ nonzero written sp =>
      -- The cell written is below the stack pointer, so below the saved cell.
      have lower := toNat_sp_sub_one nonzero
      have cells := Memory.cell?_write written
      refine ⟨?_, ?_⟩
      · rw [sp]
        omega
      · rw [cells, if_neg (by omega)]
        exact saved.cell
    | pop _ _ inside _ memory sp =>
      have upper := toNat_sp_add_one inside
      rw [sp] at away
      refine ⟨?_, memory ▸ saved.cell⟩
      rw [sp]
      omega

/-- The step that brings the stack pointer back to the level takes the saved
byte from the stack. -/
theorem Saved.taken (saved : Saved level value m) (quiet : ¬m.AssignsStackPointer sink)
    (back : (m.step sink).machine.sp.toNat = level) :
    ∃ i status, m.instruction? = some i ∧ (m.step sink).result = .ok status ∧
      (i.op = .ret ∧ (m.step sink).machine.pc = value.toNat ∨
        i.op = .pop ∧
          (m.step sink).machine.readRegister i.first = .ok value (m.step sink).machine) := by
  have below := saved.below
  obtain same | ⟨i, status, found, succeeded, move⟩ := stackMove_step quiet
  · rw [same.sp] at back
    omega
  · cases move with
    | keep _ _ sp =>
      rw [sp] at back
      omega
    | push _ _ nonzero _ sp =>
      have lower := toNat_sp_sub_one nonzero
      rw [sp] at back
      omega
    | pop taken target inside cell _ sp =>
      have upper := toNat_sp_add_one inside
      rw [sp] at back
      -- One cell up leads to the level only from the cell that holds the saved byte.
      have newest : m.sp.toNat = level - 1 := by omega
      rw [newest, saved.cell] at cell
      obtain rfl := Option.some.inj cell
      exact ⟨i, status, found, succeeded, target.symm⟩

/-- What is saved after one step is saved as long as the stack pointer does not
come back to the level. -/
theorem saved_after {sinks : Nat → Sink} {i j : Nat} (later : i ≤ j)
    (saved : Saved level value (m.after sinks i))
    (away : ∀ k, i ≤ k → k < j → (m.after sinks (k + 1)).sp.toNat ≠ level)
    (quiet : ∀ k, i ≤ k → k < j → ¬(m.after sinks k).AssignsStackPointer (sinks k)) :
    Saved level value (m.after sinks j) := by
  -- By induction on the later step: each step in between keeps what is saved.
  induction later with
  | refl => exact saved
  | @step j atLeast ih =>
    have earlier : Saved level value (m.after sinks j) :=
      ih (fun k lower upper => away k lower (Nat.lt_succ_of_lt upper))
        (fun k lower upper => quiet k lower (Nat.lt_succ_of_lt upper))
    exact earlier.step (quiet j atLeast (Nat.lt_succ_self j)) (away j atLeast (Nat.lt_succ_self j))

/-- A call or a push and the first later step that brings the stack pointer back
match: that step is a return or a pop, and it takes the return address or the
register that was stored, whatever ran in between. -/
theorem first_step_back_takes_stored {sinks : Nat → Sink} {i j : Nat} {stored : Instruction}
    {status : Status} (found : (m.after sinks i).instruction? = some stored)
    (pushes : stored.op = .call ∨ stored.op = .push)
    (succeeded : ((m.after sinks i).step (sinks i)).result = .ok status) (later : i < j)
    (back : (m.after sinks (j + 1)).sp = (m.after sinks i).sp)
    (first : ∀ k, i < k → k < j → (m.after sinks (k + 1)).sp ≠ (m.after sinks i).sp)
    (quiet : ∀ k, i < k → k ≤ j → ¬(m.after sinks k).AssignsStackPointer (sinks k)) :
    ∃ taken status value, (m.after sinks j).instruction? = some taken ∧
      ((m.after sinks j).step (sinks j)).result = .ok status ∧
      (stored.op = .call → value.toNat = (m.after sinks i).pc + 2) ∧
      (stored.op = .push →
        (m.after sinks i).readRegister stored.first = .ok value (m.after sinks i)) ∧
      (taken.op = .ret ∧ (m.after sinks (j + 1)).pc = value.toNat ∨
        taken.op = .pop ∧ (m.after sinks (j + 1)).readRegister taken.first =
          .ok value (m.after sinks (j + 1))) := by
  -- The step that stores does not assign the stack pointer, so it moves the stack.
  have move : StackMove (m.after sinks i) stored (m.after sinks (i + 1)) := by
    obtain ⟨effect, executes, machine_eq⟩ := executes_of_step found succeeded
    have spare : ¬stored.AssignsStackPointer := by
      rintro ⟨destination, _⟩
      obtain op | op := pushes <;> simp [op, Opcode.hasDestination] at destination
    have moves := stackMove_of_executes spare executes
    rw [← machine_eq] at moves
    exact moves
  obtain ⟨value, saved, returns, holds⟩ := saved_of_push move pushes.symm
  have kept : Saved (m.after sinks i).sp.toNat value (m.after sinks j) := by
    refine saved_after later saved ?_ ?_
    · intro k lower upper same
      exact first k lower upper (UInt8.toNat_inj.mp same)
    · intro k lower upper
      exact quiet k lower (Nat.le_of_lt upper)
  obtain ⟨taken, status', found', succeeded', takes⟩ :=
    kept.taken (quiet j later (Nat.le_refl j)) (congrArg UInt8.toNat back)
  exact ⟨taken, status', value, found', succeeded', returns, holds, takes⟩

/-- A call whose body pushes and pops before it returns. -/
theorem call_with_body_returns :
    ∃ (m : Machine) (sinks : Nat → Sink) (value : UInt8),
      (m.after sinks 0).instruction? = some ⟨.call, 0, Opcode.halt.byte⟩ ∧
      (m.after sinks 2).sp = 14 ∧ (m.after sinks 3).instruction? = some ⟨.ret, 0, 0⟩ ∧
      (m.after sinks 4).sp = (m.after sinks 0).sp ∧
      value.toNat = 2 ∧ (m.after sinks 4).pc = value.toNat := by
  let program : Array UInt8 := #[Opcode.call.byte, 0, Opcode.halt.byte, 0, Opcode.push.byte, 1,
    Opcode.pop.byte, 2, Opcode.ret.byte, 0, 0, 0, 0, 0, 0, 0]
  let loaded := { powerOn { memorySize := 16, stackTop := 16 } with memory := ⟨program⟩ }
  let m := loaded.setRegister 0 4
  let sinks : Nat → Sink := fun _ => {}
  have called : (m.after sinks 0).instruction? = some ⟨.call, 0, Opcode.halt.byte⟩ := by decide
  have pushed : (m.after sinks 1).instruction? = some ⟨.push, 1, Opcode.pop.byte⟩ := by decide
  have popped : (m.after sinks 2).instruction? = some ⟨.pop, 2, Opcode.ret.byte⟩ := by decide
  have returned : (m.after sinks 3).instruction? = some ⟨.ret, 0, 0⟩ := by decide
  obtain ⟨status, succeeded⟩ :
      ∃ status, ((m.after sinks 0).step (sinks 0)).result = .ok status := by
    obtain same | ⟨_, effect, _, _, _, succeeded⟩ := step_cases (m.after sinks 0) (sinks 0)
    · exact absurd same.pc (by decide)
    · exact ⟨_, succeeded⟩
  have back : (m.after sinks 4).sp = (m.after sinks 0).sp := by decide
  have first : ∀ k, 0 < k → k < 3 → (m.after sinks (k + 1)).sp ≠ (m.after sinks 0).sp := by
    intro k lower upper
    obtain rfl | rfl : k = 1 ∨ k = 2 := by omega
    · decide
    · decide
  have quiet : ∀ k, 0 < k → k ≤ 3 → ¬(m.after sinks k).AssignsStackPointer (sinks k) := by
    rintro k lower upper ⟨i, status, found, ⟨destination, isSp⟩, _⟩
    obtain rfl | rfl | rfl : k = 1 ∨ k = 2 ∨ k = 3 := by omega
    · obtain rfl := Option.some.inj (pushed.symm.trans found)
      cases destination
    · obtain rfl := Option.some.inj (popped.symm.trans found)
      cases isSp
    · obtain rfl := Option.some.inj (returned.symm.trans found)
      cases destination
  obtain ⟨taken, _, value, found, _, returns, _, takes⟩ :=
    first_step_back_takes_stored called (.inl rfl) succeeded (by decide) back first quiet
  obtain rfl := Option.some.inj (returned.symm.trans found)
  obtain ⟨_, pc⟩ | ⟨op, _⟩ := takes
  · exact ⟨m, sinks, value, called, by decide, returned, back, returns rfl, pc⟩
  · cases op

end LS8.Machine
