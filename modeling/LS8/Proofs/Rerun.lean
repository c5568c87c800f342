import LS8.Proofs.Printing
import LS8.Proofs.Stores

/-!
# Running a program again

A reset keeps memory, so a second pass starts with what the first one left
there.  It still goes like the first: a pass reads only its code and its stack,
the bytes on the stack are those that this pass has pushed, and if no push or
call stores in the code that is fetched, the code is the same.  So the two
memories may differ only in cells that the rest of the pass stores in before it
reads them (`Session.Repeats`), and at the end there are none left.
-/

namespace LS8

namespace Session

/-- The session with its machine back at power-on, but for memory. -/
def reset (s : Session) : Session :=
  { s with machine := s.machine.reset }

/-- After `k` of `n` steps, two sessions look the same, and their memories agree
on the stack and wherever the rest of the steps does not store. -/
structure Repeats (first again : Session) (n k : Nat) : Prop where
  control : Machine.SameControl (first.after k).machine (again.after k).machine
  size : (again.after k).machine.memory.size = (first.after k).machine.memory.size
  cells : ∀ address,
    ((first.after k).machine.sp.toNat ≤ address ∧
        address < (first.after k).machine.config.stackTop.toNat ∨
      ∀ j, k ≤ j → j < n → (first.after j).stored? address = none) →
    (again.after k).machine.memory.cell? address = (first.after k).machine.memory.cell? address
  room : (first.after k).sink.room = none ∧ (again.after k).sink.room = none
  printed : ∃ text, (first.after k).sink.text = first.sink.text ++ text ∧
    (again.after k).sink.text = again.sink.text ++ text

/-- The first steps of a session do not store in the code they fetch. -/
def KeepsCode (s : Session) (n : Nat) : Prop :=
  ∀ k < n, (s.after k).machine.status = .active → ∀ offset ≤ 2, ∀ j < n,
    (s.after j).stored? ((s.after k).machine.pc + offset) = none

variable {first again : Session} {n k : Nat}

theorem Repeats.mirrors (repeats : Repeats first again n k) (before : k < n)
    (keeps : first.KeepsCode n) : (first.after k).machine.Mirrors (again.after k).machine where
  control := repeats.control
  size_le := Nat.le_of_eq repeats.size.symm
  code := by
    intro active offset le
    apply repeats.cells
    exact .inr fun j _ within => keeps k before active offset le j within
  newest := by
    intro inside
    apply repeats.cells
    exact .inl ⟨Nat.le_refl _, UInt8.lt_iff_toNat_lt.mp inside⟩

theorem Repeats.next (repeats : Repeats first again n k) (before : k < n)
    (keeps : first.KeepsCode n)
    (quiet : ¬(first.after k).machine.AssignsStackPointer (first.after k).sink) :
    (again.after k).step.result = (first.after k).step.result ∧
      Repeats first again n (k + 1) := by
  have mirrors := repeats.mirrors before keeps
  obtain ⟨unbounded, unbounded'⟩ := repeats.room
  obtain ⟨result, control, _, line, prints, prints'⟩ :=
    mirrors.inStep (unbounded'.trans unbounded.symm) (.inl repeats.size)
  refine ⟨result, control, ?_, ?_, ?_, ?_⟩
  · exact (Machine.memory_size_step _ _).trans
      (repeats.size.trans (Machine.memory_size_step _ _).symm)
  · intro address spared
    change (again.after k).step.machine.memory.cell? address =
      (first.after k).step.machine.memory.cell? address
    rw [cell?_step_of_mirrors mirrors result, cell?_step]
    cases stored : (first.after k).stored? address with
    | some value => rfl
    | none =>
      -- This step does not store in the cell, so what spares it spared it before.
      rw [Option.none_or, Option.none_or]
      apply repeats.cells
      refine spared.imp ?_ ?_
      · rintro ⟨onStack, below⟩
        rw [config_after, ← config_after first k] at below
        exact ⟨sp_le_of_not_stored quiet stored onStack, below⟩
      · intro silent j atLeast within
        obtain rfl | later := Nat.eq_or_lt_of_le atLeast
        · exact stored
        · exact silent j later within
  · change (first.after k).step.sink.room = none ∧ (again.after k).step.sink.room = none
    rw [step, step, prints, prints']
    exact ⟨Sink.room_write_of_unbounded line unbounded,
      Sink.room_write_of_unbounded line unbounded'⟩
  · obtain ⟨text, shown, shown'⟩ := repeats.printed
    refine ⟨text ++ line, ?_, ?_⟩
    · change (first.after k).step.sink.text = _
      rw [step, prints, Sink.text_write_of_unbounded line unbounded, shown, List.append_assoc]
    · change (again.after k).step.sink.text = _
      rw [step, prints', Sink.text_write_of_unbounded line unbounded', shown', List.append_assoc]

theorem repeats_zero (s : Session) (unbounded : s.sink.room = none) (n : Nat) :
    Repeats s.reset (s.reset.after n).reset n 0 where
  control := by
    have config := config_after s.reset n
    refine ⟨congrArg _ config, ?_, rfl, rfl, rfl, rfl⟩
    change Registers.powerOn (s.reset.after n).machine.config.stackTop = _
    rw [config]
    rfl
  size := memory_size_after s.reset n
  cells := by
    rintro address (⟨above, below⟩ | silent)
    · -- The stack is empty.
      change s.machine.reset.sp.toNat ≤ address at above
      rw [Machine.sp_reset] at above
      exact absurd below (Nat.not_lt.mpr above)
    · exact cell?_after_of_not_stored fun k before => silent k (Nat.zero_le k) before
  room := ⟨unbounded, room_after_of_unbounded (s := s.reset) unbounded n⟩
  printed := ⟨[], (List.append_nil _).symm, (List.append_nil _).symm⟩

theorem repeats_after {s : Session} (unbounded : s.sink.room = none)
    (keeps : s.reset.KeepsCode n)
    (quiet : ∀ k < n, ¬(s.reset.after k).machine.AssignsStackPointer (s.reset.after k).sink)
    (atMost : k ≤ n) : Repeats s.reset (s.reset.after n).reset n k := by
  induction k with
  | zero => exact repeats_zero s unbounded n
  | succ k ih =>
    have repeats := ih (Nat.le_of_succ_le atMost)
    exact (repeats.next atMost keeps (quiet k atMost)).2

/-- At the end of the second pass no cell is left that could differ. -/
theorem Repeats.machine_eq (repeats : Repeats first again n n)
    (config : again.machine.config = first.machine.config) :
    (again.after n).machine = (first.after n).machine := by
  have memory : (again.after n).machine.memory = (first.after n).machine.memory := by
    apply Memory.ext_cell?
    intro address
    apply repeats.cells
    exact .inr fun j atLeast within => absurd within (Nat.not_lt.mpr atLeast)
  rw [← config_after again n, ← config_after first n] at config
  exact repeats.control.eq config memory

/-- A pass that starts from a reset machine, prints to a sink that takes
everything, does not assign the stack pointer and does not store in its own code
goes the same way again after a reset, without memory being restored: step by
step the results, the control state and the printed text are the same, and at
the end the whole machine is.  A machine that was just built is its own reset
(`Machine.reset_powerOn`). -/
theorem rerun_reproduces (s : Session) (unbounded : s.sink.room = none) (n : Nat)
    (quiet : ∀ k < n, ¬(s.reset.after k).machine.AssignsStackPointer (s.reset.after k).sink)
    (keeps : s.reset.KeepsCode n) :
    let first := s.reset
    let again := (first.after n).reset
    (∀ k < n, (again.after k).step.result = (first.after k).step.result) ∧
      (∀ k ≤ n, Machine.SameControl (first.after k).machine (again.after k).machine ∧
        ∃ text, (first.after k).sink.text = first.sink.text ++ text ∧
          (again.after k).sink.text = again.sink.text ++ text) ∧
      (again.after n).machine = (first.after n).machine := by
  intro first again
  have repeats (k : Nat) (atMost : k ≤ n) : Repeats first again n k :=
    repeats_after unbounded keeps quiet atMost
  refine ⟨?_, ?_, ?_⟩
  · intro k before
    exact ((repeats k (Nat.le_of_lt before)).next before keeps (quiet k before)).1
  · intro k atMost
    exact ⟨(repeats k atMost).control, (repeats k atMost).printed⟩
  · exact (repeats n (Nat.le_refl n)).machine_eq (config_after first n)

/-- A subroutine that pushes and pops leaves two cells behind that were zero, and
the same again the second time. -/
theorem rerun_reproduces_subroutine :
    ∃ s : Session, (s.reset.after 7).sink.text = ['8', '\n'] ∧
      (s.reset.after 7).machine.memory ≠ s.machine.memory ∧
      (s.reset.after 7).machine.status = .halted ∧
      ((s.reset.after 7).reset.after 7).machine = (s.reset.after 7).machine := by
  let program : Array UInt8 := #[Opcode.loadImmediate.byte, 0, 8, Opcode.call.byte, 0,
    Opcode.print.byte, 1, Opcode.halt.byte, Opcode.push.byte, 0, Opcode.pop.byte, 1,
    Opcode.ret.byte, 0, 0, 0, 0, 0, 0, 0]
  let s : Session :=
    ⟨{ Machine.powerOn { memorySize := 20, stackTop := 20 } with memory := ⟨program⟩ }, {}⟩
  have quiet : ∀ k < 7,
      ¬(s.reset.after k).machine.AssignsStackPointer (s.reset.after k).sink := by
    decide +kernel
  have keeps : s.reset.KeepsCode 7 := by
    unfold KeepsCode
    decide +kernel
  obtain ⟨_, _, same⟩ := rerun_reproduces s rfl 7 quiet keeps
  exact ⟨s, by decide +kernel, by decide +kernel, by decide +kernel, same⟩

end Session

end LS8
