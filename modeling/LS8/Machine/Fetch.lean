import LS8.Machine.Basic

/-!
# Fetching

Before an instruction is looked at, its byte and the two bytes after it are
fetched, whether or not it has operands.  They are fetched one after the
other, and a fetch that runs out of memory keeps what it has.
-/

namespace LS8.Machine

def fetch : Access Unit := do
  let start ← get
  let instruction ← read start.pc
  modify fun m => { m with fetched.instruction := instruction }
  let first ← read (start.pc + 1)
  modify fun m => { m with fetched.first := first }
  let second ← read (start.pc + 2)
  modify fun m => { m with fetched.second := second }

/-! ## When a fetch succeeds -/

section

variable {m after left : Machine} {fault : Fault} {done : Unit}

theorem fetch_eq_ok_iff :
    m.fetch = .ok done after ↔
      ∃ fetched : Fetched, m.memory.cell? m.pc = some fetched.instruction ∧
        m.memory.cell? (m.pc + 1) = some fetched.first ∧
        m.memory.cell? (m.pc + 2) = some fetched.second ∧ after = { m with fetched } := by
  simp only [fetch, Action.get_bind, Action.bind_eq_ok_iff, read_eq_ok_iff, Action.modify_bind,
    Action.modify_apply, EStateM.Result.ok.injEq, true_and, and_assoc, exists_and_left,
    exists_eq_left]
  constructor
  · rintro ⟨instruction, atPc, first, atFirst, second, atSecond, rfl⟩
    exact ⟨⟨instruction, first, second⟩, atPc, atFirst, atSecond, rfl⟩
  · rintro ⟨fetched, atPc, atFirst, atSecond, rfl⟩
    exact ⟨_, atPc, _, atFirst, _, atSecond, rfl⟩

/-- A fetch fails at the first of the three addresses that has no cell, and keeps
the bytes it has found before. -/
theorem fetch_eq_error_iff :
    m.fetch = .error fault left ↔
      m.memory.size ≤ m.pc + 2 ∧ fault = .outsideMemory (max m.pc m.memory.size) ∧
        left = { m with
          fetched.instruction := (m.memory.cell? m.pc).getD m.fetched.instruction
          fetched.first := (m.memory.cell? (m.pc + 1)).getD m.fetched.first } := by
  simp only [fetch, Action.get_bind, Action.bind_eq_error_iff, read_eq_error_iff, read_eq_ok_iff,
    Action.modify_bind, Action.modify_apply, reduceCtorEq, and_false, exists_false, or_false,
    and_assoc, exists_and_left, exists_eq_left]
  -- The address that decides is the first of the three that is not below the size.
  cases atPc : m.memory.cell? m.pc with
  | none =>
    have outside := Memory.cell?_eq_none_iff.mp atPc
    have atFirst : m.memory.cell? (m.pc + 1) = none := Memory.cell?_eq_none_iff.mpr (by omega)
    have last : max m.pc m.memory.size = m.pc := by omega
    have short : m.memory.size ≤ m.pc + 2 := by omega
    rw [last]
    simp [atFirst, outside, short]
  | some instruction =>
    have inside := Nat.not_le.mpr (Memory.lt_size_of_cell? atPc)
    cases atFirst : m.memory.cell? (m.pc + 1) with
    | none =>
      have outside := Memory.cell?_eq_none_iff.mp atFirst
      have last : max m.pc m.memory.size = m.pc + 1 := by omega
      have short : m.memory.size ≤ m.pc + 2 := by omega
      rw [last]
      simp [inside, outside, short]
    | some first =>
      have next := Nat.not_le.mpr (Memory.lt_size_of_cell? atFirst)
      by_cases short : m.memory.size ≤ m.pc + 2
      · have last : max m.pc m.memory.size = m.pc + 2 := by omega
        rw [last]
        simp [inside, next, short]
      · simp [inside, next, short]

end

end LS8.Machine
